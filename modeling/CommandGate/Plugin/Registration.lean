import CommandGate.Plugin.Action
/-!
What a plugin hands in to be installed, and the check of it: the plugin first, then its actions in
declared order, each for its name, for a name used before, for its description and for its hints.
-/
namespace CommandGate

structure ActionRegistration (σ : Type) where
  name : String
  action : Action σ

structure PluginRegistration (σ : Type) where
  name : String
  description : String
  actions : List (ActionRegistration σ)

inductive RegistrationError where
  | emptyName
  | noActions (plugin : String)
  | emptyActionName (plugin : String)
  | missingDescription (plugin action : String)
  | missingTypeHint (plugin action parameter : String)
  | duplicateAction (plugin action : String)
  | actionCollision (plugin action owner : String)
  | missingSetting (plugin setting : String)
  | unavailable (plugin reason : String)
  deriving DecidableEq

def RegistrationError.message : RegistrationError → String
  | emptyName => "plugin name is empty"
  | noActions plugin => "plugin " ++ plugin ++ " declares no actions"
  | emptyActionName plugin => "plugin " ++ plugin ++ ": action with empty name"
  | missingDescription plugin action =>
    "plugin " ++ plugin ++ ": action " ++ action ++ " has no description"
  | missingTypeHint plugin action parameter =>
    "plugin " ++ plugin ++ ": parameter " ++ parameter ++ " of " ++ action ++ " has no type hint"
  | duplicateAction plugin action =>
    "plugin " ++ plugin ++ ": action " ++ action ++ " declared twice"
  | actionCollision plugin action owner =>
    "plugin " ++ plugin ++ ": action " ++ action ++ " already provided by " ++ owner
  | missingSetting plugin setting => "plugin " ++ plugin ++ ": missing setting " ++ setting
  | unavailable plugin reason => "plugin " ++ plugin ++ ": " ++ reason

namespace PluginRegistration

variable {σ : Type}

def actionFault? (plugin : String) (seen : List String) (registration : ActionRegistration σ) :
    Option RegistrationError :=
  if Text.isBlankText registration.name then some (.emptyActionName plugin)
  else if seen.contains registration.name then some (.duplicateAction plugin registration.name)
  else if Text.isBlankText registration.action.description then
    some (.missingDescription plugin registration.name)
  else
    (registration.action.parameters.find? fun (_, hint) => Text.isBlankText hint).map
      fun (parameter, _) => .missingTypeHint plugin registration.name parameter

def actionsFault? (plugin : String) (seen : List String) :
    List (ActionRegistration σ) → Option RegistrationError
  | [] => none
  | action :: actions =>
    match actionFault? plugin seen action with
    | some fault => some fault
    | none => actionsFault? plugin (action.name :: seen) actions

def check (registration : PluginRegistration σ) : Except RegistrationError Unit :=
  if Text.isBlankText registration.name then .error .emptyName
  else if registration.actions.isEmpty then .error (.noActions registration.name)
  else
    match actionsFault? registration.name [] registration.actions with
    | some fault => .error fault
    | none => .ok ()

end PluginRegistration

end CommandGate
