import CommandGate.Http.Status
import CommandGate.Plugin.Registration
import CommandGate.Settings.Basic
/-!
The plugin for smart lights: it switches a device through the service of a home-automation server,
which it may use with a token. Without a token there is no plugin.
-/
namespace CommandGate.Lights

inductive Switch where
  | on
  | off
  deriving DecidableEq, Repr

def Switch.word : Switch → String
  | .on => "on"
  | .off => "off"

def Switch.ofWord? (word : String) : Option Switch :=
  let word := String.ofList (word.toList.map Char.toLower)
  if word = "on" then some .on else if word = "off" then some .off else none

structure Order where
  device : String
  switch : Switch
  deriving DecidableEq, Repr

def Order.ofParameters (parameters : Fields) : Except ActionError Order :=
  match requiredText parameters "device_id" with
  | .error fault => .error fault
  | .ok device =>
    match requiredText parameters "state" with
    | .error fault => .error fault
    | .ok word =>
      match Switch.ofWord? word with
      | some switch => .ok ⟨device, switch⟩
      | none => .error (.invalidParameters "'state' must be 'on' or 'off'")

structure Server where
  baseUrl : String
  token : String

namespace Server

def ofSettings? (settings : HomeAssistantSettings) : Option Server :=
  (settings.token.filter fun token => !Text.isBlankText token).map fun token =>
    ⟨settings.baseUrl, token⟩

def request (server : Server) (order : Order) : Except Http.Fault Http.Request :=
  Http.Request.build "POST"
    (Http.baseOf server.baseUrl ++ "/api/services/switch/turn_" ++ order.switch.word)
    (some server.token) (some (.object [("entity_id", .string order.device)])) none

def toggle {σ : Type} (server : Server) (network : Http.Network σ) : Handler σ :=
  fun parameters state =>
    match Order.ofParameters parameters with
    | .error fault => (.failed fault, state)
    | .ok order =>
      match server.request order with
      | .error fault => (.failed (.http fault.message), state)
      | .ok request =>
        match request.send network state with
        | (.error fault, state) => (.failed (.http fault.message), state)
        | (.ok reply, state) =>
          match Http.statusFault? request.url reply.status with
          | some fault => (.failed (.http fault), state)
          | none =>
            (.done (.object [("message",
              .string ("Lights " ++ order.device ++ " " ++ order.switch.word))]), state)

end Server

def register {σ : Type} (network : Http.Network σ) (settings : PluginSettings) :
    Except RegistrationError (PluginRegistration σ) :=
  match Server.ofSettings? settings.homeAssistant with
  | none => .error (.missingSetting "home_automation" "plugins.home_assistant.token")
  | some server =>
    .ok {
      name := "home_automation"
      description := "Controls IoT devices"
      actions := [
        { name := "lights_toggle"
          action := {
            description := "Switches smart lights on or off"
            parameters := [("device_id", "string"), ("state", "'on' or 'off'")]
            dangerous := false
            handler := server.toggle network } }] }

end CommandGate.Lights
