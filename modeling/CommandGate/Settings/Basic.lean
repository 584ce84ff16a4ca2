import CommandGate.Json.Value
/-!
The settings of a gate, section by section. Every setting has a default, so a source may leave out
any of them. A plugin that the settings do not mention is enabled.
-/
namespace CommandGate

structure ServerSettings where
  host : String := "127.0.0.1"
  port : Nat := 5000

/-- `maxAttempts` counts all calls of one generation; temperatures are in single precision. -/
structure OracleSettings where
  baseUrl : String := "http://localhost:11434"
  model : String := "llama3"
  timeoutSecs : Nat := 300
  maxAttempts : UInt32 := 3
  commandTemperature : Number.Extended := .finite (.zero false Number.single)
  chatTemperature : Number.Extended := .round Number.single false 7 10

/-- Which actions may run, which patterns may not occur in a command, and which actions are
dangerous besides those that plugins declare so. An action that is not listed stays inert. -/
structure PolicySettings where
  allowedActions : List String := ["send_email", "shutdown_pc", "restart_pc"]
  deniedPatterns : List String :=
    ["rm -rf", "rm -fr", "mkfs", "format c:", "delete all", "dd if=", ":()\x7b", "../", "..\\\\"]
  dangerousActions : List String := []

structure HomeAssistantSettings where
  baseUrl : String := "http://homeassistant.local:8123"
  token : Option String := none

structure FileReaderSettings where
  maxBytes : Nat := 1048576

structure PluginSettings where
  enabled : Members Bool := []
  homeAssistant : HomeAssistantSettings := {}
  fileReader : FileReaderSettings := {}

structure Settings where
  server : ServerSettings := {}
  oracle : OracleSettings := {}
  policy : PolicySettings := {}
  plugins : PluginSettings := {}

def PluginSettings.isEnabled (settings : PluginSettings) (plugin : String) : Bool :=
  (settings.enabled.get? plugin).getD true

end CommandGate
