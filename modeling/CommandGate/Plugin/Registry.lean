import CommandGate.Plugin.Registration
import CommandGate.Capability
import CommandGate.Settings.Basic
/-!
The installed plugins, in the order in which their names were first registered. A plugin with the
name of an installed one takes its place; an action belongs to one plugin, so a plugin that declares
an action of another is refused as a whole. A refused registration changes nothing.
-/
namespace CommandGate

structure Plugin (σ : Type) where
  name : String
  description : String
  actions : Members (Action σ)

structure Registry (σ : Type) where
  plugins : List (Plugin σ)

abbrev PluginConstructor (σ : Type) :=
  PluginSettings → Except RegistrationError (PluginRegistration σ)

namespace Plugin

variable {σ : Type}

def ofRegistration (registration : PluginRegistration σ) : Plugin σ where
  name := registration.name
  description := registration.description
  actions := .ofList (registration.actions.map fun entry => (entry.name, entry.action))

def capability (plugin : Plugin σ) : Capability where
  name := plugin.name
  description := plugin.description
  actions := plugin.actions.mapValues fun action => ⟨action.description, action.parameters⟩

end Plugin

namespace Registry

variable {σ : Type}

def empty : Registry σ := ⟨[]⟩

def isEmpty (registry : Registry σ) : Bool := registry.plugins.isEmpty

def names (registry : Registry σ) : List String := registry.plugins.map (·.name)

def lookup (registry : Registry σ) (action : String) : Option (Action σ) :=
  registry.plugins.findSome? (·.actions.get? action)

def plugin? (registry : Registry σ) (name : String) : Option (Plugin σ) :=
  registry.plugins.find? (·.name == name)

def describe (registry : Registry σ) : List Capability := registry.plugins.map (·.capability)

def owner? (registry : Registry σ) (plugin action : String) : Option String :=
  (registry.plugins.find? fun other => other.name != plugin && other.actions.has action).map
    (·.name)

def collision? (registry : Registry σ) (plugin : String) :
    List (ActionRegistration σ) → Option RegistrationError
  | [] => none
  | entry :: entries =>
    match registry.owner? plugin entry.name with
    | some owner => some (.actionCollision plugin entry.name owner)
    | none => collision? registry plugin entries

/-- Puts a plugin in the place of the one with its name, or last. -/
def place (plugin : Plugin σ) : List (Plugin σ) → List (Plugin σ)
  | [] => [plugin]
  | other :: plugins =>
    if other.name = plugin.name then plugin :: plugins else other :: place plugin plugins

/-- Registers a plugin or refuses it; beside the outcome stands the registry that is left. -/
def register (registry : Registry σ) (registration : PluginRegistration σ) :
    Except RegistrationError Unit × Registry σ :=
  match registration.check with
  | .error fault => (.error fault, registry)
  | .ok _ =>
    match registry.collision? registration.name registration.actions with
    | some fault => (.error fault, registry)
    | none => (.ok (), ⟨place (.ofRegistration registration) registry.plugins⟩)

def tryRegister (registry : Registry σ) (registration : PluginRegistration σ) : Registry σ :=
  (registry.register registration).2

structure Loaded (σ : Type) where
  registry : Registry σ
  ran : List Nat

def loadFrom (settings : PluginSettings) (loaded : Loaded σ) (index : Nat) :
    List (String × PluginConstructor σ) → Loaded σ
  | [] => loaded
  | (name, constructor) :: entries =>
    if settings.isEnabled name then
      let ran := loaded.ran ++ [index]
      match constructor settings with
      | .ok registration =>
        loadFrom settings ⟨loaded.registry.tryRegister registration, ran⟩ (index + 1) entries
      | .error _ => loadFrom settings ⟨loaded.registry, ran⟩ (index + 1) entries
    else loadFrom settings loaded (index + 1) entries

/-- Runs each enabled constructor and registers what it gives; what fails is left out. -/
def load (constructors : List (String × PluginConstructor σ)) (settings : PluginSettings) :
    Loaded σ :=
  loadFrom settings ⟨empty, []⟩ 0 constructors

end Registry

end CommandGate
