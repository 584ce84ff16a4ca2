import CommandGate.Settings.Basic
import CommandGate.Decoder
/-!
Settings as JSON values and as configuration trees, and the decoders that read them back.
-/
namespace CommandGate

open Decoder

def Json.ofSingle : Number.Extended → Json
  | .finite x =>
    match (x.shortest Number.single).toExtended Number.double with
    | .finite shown => .number (.real shown)
    | _ => .null
  | _ => .null

def Json.ofStrings (texts : List String) : Json := .array (texts.map .string)

def Config.Tree.ofStrings (texts : List String) : Config.Tree := .list (texts.map .text)

namespace ServerSettings

def decoder : Decoder ServerSettings :=
  .record {} [
    .defaulted "host" .text fun host settings => { settings with host },
    .defaulted "port" (.natural 16) fun port settings => { settings with port }]

def toJson (settings : ServerSettings) : Json :=
  .object [("host", .string settings.host), ("port", .whole settings.port)]

def toTree (settings : ServerSettings) : Config.Tree :=
  .table [("host", .text settings.host), ("port", .whole settings.port)]

end ServerSettings

namespace OracleSettings

def decoder : Decoder OracleSettings :=
  .record {} [
    .defaulted "base_url" .text fun baseUrl settings => { settings with baseUrl },
    .defaulted "model" .text fun model settings => { settings with model },
    .defaulted "timeout_secs" (.natural 64) fun timeoutSecs settings =>
      { settings with timeoutSecs },
    .defaulted "max_attempts" (.natural 32) fun count settings =>
      { settings with maxAttempts := count.toUInt32 },
    .defaulted "command_temperature" .single fun commandTemperature settings =>
      { settings with commandTemperature },
    .defaulted "chat_temperature" .single fun chatTemperature settings =>
      { settings with chatTemperature }]

def toJson (settings : OracleSettings) : Json :=
  .object [
    ("base_url", .string settings.baseUrl),
    ("chat_temperature", .ofSingle settings.chatTemperature),
    ("command_temperature", .ofSingle settings.commandTemperature),
    ("max_attempts", .whole settings.maxAttempts.toNat),
    ("model", .string settings.model),
    ("timeout_secs", .whole settings.timeoutSecs)]

def toTree (settings : OracleSettings) : Config.Tree :=
  .table [
    ("base_url", .text settings.baseUrl),
    ("chat_temperature", .real settings.chatTemperature),
    ("command_temperature", .real settings.commandTemperature),
    ("max_attempts", .whole settings.maxAttempts.toNat),
    ("model", .text settings.model),
    ("timeout_secs", .whole settings.timeoutSecs)]

end OracleSettings

namespace PolicySettings

def decoder : Decoder PolicySettings :=
  .record {} [
    .defaulted "allowed_actions" (.list .text) fun allowedActions settings =>
      { settings with allowedActions },
    .defaulted "denied_patterns" (.list .text) fun deniedPatterns settings =>
      { settings with deniedPatterns },
    .defaulted "dangerous_actions" (.list .text) fun dangerousActions settings =>
      { settings with dangerousActions }]

def toJson (settings : PolicySettings) : Json :=
  .object [
    ("allowed_actions", .ofStrings settings.allowedActions),
    ("dangerous_actions", .ofStrings settings.dangerousActions),
    ("denied_patterns", .ofStrings settings.deniedPatterns)]

def toTree (settings : PolicySettings) : Config.Tree :=
  .table [
    ("allowed_actions", .ofStrings settings.allowedActions),
    ("dangerous_actions", .ofStrings settings.dangerousActions),
    ("denied_patterns", .ofStrings settings.deniedPatterns)]

end PolicySettings

namespace HomeAssistantSettings

def decoder : Decoder HomeAssistantSettings :=
  .record {} [
    .defaulted "base_url" .text fun baseUrl settings => { settings with baseUrl },
    .defaulted "token" (.optional .text) fun token settings => { settings with token }]

def toJson (settings : HomeAssistantSettings) : Json :=
  .object [
    ("base_url", .string settings.baseUrl),
    ("token", (settings.token.map Json.string).getD .null)]

def toTree (settings : HomeAssistantSettings) : Config.Tree :=
  .table [
    ("base_url", .text settings.baseUrl),
    ("token", (settings.token.map Config.Tree.text).getD .absent)]

end HomeAssistantSettings

namespace FileReaderSettings

def decoder : Decoder FileReaderSettings :=
  .record {} [
    .defaulted "max_bytes" (.natural 64) fun maxBytes settings => { settings with maxBytes }]

def toJson (settings : FileReaderSettings) : Json :=
  .object [("max_bytes", .whole settings.maxBytes)]

def toTree (settings : FileReaderSettings) : Config.Tree :=
  .table [("max_bytes", .whole settings.maxBytes)]

end FileReaderSettings

namespace PluginSettings

def decoder : Decoder PluginSettings :=
  .record {} [
    .defaulted "enabled" (.mapping .bool) fun enabled settings => { settings with enabled },
    .defaulted "home_assistant" HomeAssistantSettings.decoder fun homeAssistant settings =>
      { settings with homeAssistant },
    .defaulted "file_reader" FileReaderSettings.decoder fun fileReader settings =>
      { settings with fileReader }]

def toJson (settings : PluginSettings) : Json :=
  .object [
    ("enabled", .object (settings.enabled.mapValues .bool)),
    ("file_reader", settings.fileReader.toJson),
    ("home_assistant", settings.homeAssistant.toJson)]

def toTree (settings : PluginSettings) : Config.Tree :=
  .table [
    ("enabled", .table (settings.enabled.mapValues .bool)),
    ("file_reader", settings.fileReader.toTree),
    ("home_assistant", settings.homeAssistant.toTree)]

end PluginSettings

namespace Settings

def decoder : Decoder Settings :=
  .record {} [
    .defaulted "server" ServerSettings.decoder fun server settings => { settings with server },
    .defaulted "oracle" OracleSettings.decoder fun oracle settings => { settings with oracle },
    .defaulted "policy" PolicySettings.decoder fun policy settings => { settings with policy },
    .defaulted "plugins" PluginSettings.decoder fun plugins settings => { settings with plugins }]

def toJson (settings : Settings) : Json :=
  .object [
    ("oracle", settings.oracle.toJson),
    ("plugins", settings.plugins.toJson),
    ("policy", settings.policy.toJson),
    ("server", settings.server.toJson)]

def toTree (settings : Settings) : Config.Tree :=
  .table [
    ("oracle", settings.oracle.toTree),
    ("plugins", settings.plugins.toTree),
    ("policy", settings.policy.toTree),
    ("server", settings.server.toTree)]

end Settings

end CommandGate
