import CommandGate.Api.Routes
import CommandGate.Bundled
import CommandGate.Config.Layers
import CommandGate.Json.Writer
/-!
The command line. It loads the settings from their layers and answers the HTTP interface line by line:
each line of standard input is a request as a JSON object with `method`, `path` and, if there are any,
`content_type` and `body`; each line of standard output is the response. No server, program or file is
within reach of the plugins here.
-/
namespace CommandGate

/-- What the arguments ask for; `host` and `port` count over every layer of the settings. -/
structure Options where
  host : Option String := none
  port : Option Nat := none
  config : Option String := none

namespace Options

def set (options : Options) (name value : String) : Except String Options :=
  match name with
  | "--host" => .ok { options with host := some value }
  | "--config" => .ok { options with config := some value }
  | "--port" =>
    match (Number.digits? value.toList).filter (· < 65536) with
    | some port => .ok { options with port := some port }
    | none => .error ("invalid value '" ++ value ++ "' for '--port <PORT>'")
  | _ => .error ("unexpected argument '" ++ name ++ "' found")

def splitArgument (argument : String) : String × Option String :=
  match Text.splitAtFirst ['='] argument.toList with
  | some (name, value) => (String.ofList name, some (String.ofList value))
  | none => (argument, none)

def parse (options : Options) : List String → Except String Options
  | [] => .ok options
  | [argument] =>
    match splitArgument argument with
    | (name, some value) => options.set name value
    | (name, none) => .error ("a value is required for '" ++ name ++ "' but none was supplied")
  | argument :: next :: arguments =>
    match splitArgument argument with
    | (name, some value) => (options.set name value).bind (parse · (next :: arguments))
    | (name, none) => (options.set name next).bind (parse · arguments)

def apply (options : Options) (settings : Settings) : Settings :=
  { settings with server := {
      host := options.host.getD settings.server.host
      port := options.port.getD settings.server.port } }

end Options

def absentFile : String := "No such file or directory (os error 2)"

def offline : Facilities (Option Mail.Account) where
  os := ""
  launch _ account := (.absent, account)
  files _ := ⟨fun _ => .error absentFile, fun _ => .error absentFile⟩
  network _ account := (.refused, account)
  mail := {
    account? := id
    store := fun account _ => some account
    transport := Mail.relay fun _ _ account => (.error "no connection", account)
    account?_store := fun _ _ => rfl
    account?_transport := by intros; simp only [Mail.relay]; split <;> rfl }

def Api.Request.ofJson (value : Json) : Api.Request where
  method := ((value.get? "method").bind Json.string?).getD "GET"
  target := ((value.get? "path").bind Json.string?).getD "/"
  contentType := (value.get? "content_type").bind Json.string?
  body := ((value.get? "body").bind Json.string?).getD ""

def Api.Ending.toJson : Api.Ending → Json
  | .response ⟨status, .text body⟩ => .object [("status", .whole status), ("text", .string body)]
  | .response ⟨status, .json body⟩ => .object [("json", body), ("status", .whole status)]
  | .aborted _ => .object [("aborted", .bool true)]

def environmentOf (content : String) : Config.Environment :=
  ((Text.splitOn '\x00' content.toList).filterMap (Text.splitAtFirst ['='])).map fun (name, value) =>
    (String.ofList name, String.ofList value)

/-- The text of a file that may be absent. A file that is there and cannot be read is a failure. -/
def readIfThere (path : String) : IO (Option String) := do
  try
    return some (← IO.FS.readFile path)
  catch
    | .noFileOrDirectory .. => return none
    | failure => throw failure

def readIfReadable (path : String) : IO (Option String) := do
  try
    return some (← IO.FS.readFile path)
  catch _ => return none

def loadLayers (options : Options) : IO Config.Layers := do
  let project ← readIfThere "ollie.toml"
  let requested ←
    match options.config with
    | none => pure Config.RequestedFile.none
    | some path =>
      match ← readIfReadable path with
      | some text => pure (.present text)
      | none => pure .missing
  let environment := ((← readIfReadable "/proc/self/environ").map environmentOf).getD []
  return { project, requested, environment }

partial def answerLines (gate : Gate (Option Mail.Account)) (world : World (Option Mail.Account))
    (input output : IO.FS.Stream) : IO Unit := do
  let line ← input.getLine
  if line.isEmpty then return
  match Json.ofString? line with
  | none =>
    output.putStrLn (Json.object [("error", .string "not a request")]).compact
    output.flush
    answerLines gate world input output
  | some value =>
    let (ending, world) := gate.serve (.ofJson value) world
    output.putStrLn ending.toJson.compact
    output.flush
    answerLines gate world input output

def run (options : Options) : IO UInt32 := do
  match (← loadLayers options).load with
  | .error fault =>
    IO.eprintln ("invalid settings: " ++ ".".intercalate fault.path)
    return 1
  | .ok settings =>
    let settings := options.apply settings
    IO.eprintln
      ("answering for " ++ settings.server.host ++ ":" ++ toString settings.server.port)
    answerLines (offline.gate settings) (.start none) (← IO.getStdin) (← IO.getStdout)
    return 0

end CommandGate

def main (arguments : List String) : IO UInt32 :=
  match CommandGate.Options.parse {} arguments with
  | .ok options => CommandGate.run options
  | .error message => do
    IO.eprintln ("error: " ++ message)
    return 2
