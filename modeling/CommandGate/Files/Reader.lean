import CommandGate.Files.Path
import CommandGate.Plugin.Registration
import CommandGate.Settings.Basic
/-!
The plugin that reads local text files. The extension has to be that of a text format, the path has to
name a file no larger than the limit, the file has to be readable, and its content has to be UTF-8, in
this order.
-/
namespace CommandGate.Files

def textExtensions : List String := ["txt", "md", "log", "csv", "json", "toml", "yaml", "yml"]

def lowerExtension (path : String) : String :=
  String.ofList (((extension? path.toList).getD []).map Char.toLower)

structure Metadata where
  isFile : Bool
  size : Nat

/-- The two calls to the operating system, each of which may fail with a text of its own. The size that
is told of a file need not be that of its content, and what is told of need not be readable. -/
structure FileSystem where
  metadata : String → Except String Metadata
  content : String → Except String ByteArray

namespace FileSystem

def readBytes (system : FileSystem) (limit : Nat) (path : String) : Except ActionError ByteArray :=
  match system.metadata path with
  | .error fault => .error (.failed ("Cannot read " ++ path ++ ": " ++ fault))
  | .ok metadata =>
    if !metadata.isFile then .error (.failed (path ++ " is not a file"))
    else if limit < metadata.size then
      .error (.failed
        (path ++ " is " ++ toString metadata.size ++ " bytes, limit is " ++ toString limit))
    else (system.content path).mapError .io

def readText (system : FileSystem) (limit : Nat) (path : String) : Except ActionError String :=
  if !textExtensions.contains (lowerExtension path) then
    .error (.failed ("File type '." ++ lowerExtension path ++ "' is not supported"))
  else
    match system.readBytes limit path with
    | .error fault => .error fault
    | .ok content =>
      match String.fromUTF8? content with
      | some text => .ok text
      | none => .error (.failed (path ++ " is not valid UTF-8"))

end FileSystem

def read (system : FileSystem) (limit : Nat) (parameters : Fields) : Except ActionError Json :=
  match requiredText parameters "file_path" with
  | .error fault => .error fault
  | .ok path => (system.readText limit path).map fun text => .object [("content", .string text)]

def registration {σ : Type} (files : σ → FileSystem) (settings : FileReaderSettings) :
    PluginRegistration σ where
  name := "file_reader"
  description := "Reads the text content of local files."
  actions := [
    { name := "read_file"
      action := {
        description := "Reads a text file and returns its content"
        parameters := [("file_path", "string (full path to the file)")]
        dangerous := false
        handler := fun parameters state =>
          (.ofExcept (read (files state) settings.maxBytes parameters), state) } }]

end CommandGate.Files
