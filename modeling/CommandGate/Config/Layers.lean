import CommandGate.Config.Environment
import CommandGate.Settings.Codec
import CommandGate.Toml.Reader
/-!
The layers that settings are taken from: the defaults, the file of the project if there is one, a file
that was asked for, and the environment. A later layer is laid over the earlier ones, and the types are
looked at only in the tree that comes of it.
-/
namespace CommandGate.Config

inductive RequestedFile where
  | none
  | missing
  | present (text : String)

structure Layers where
  project : Option String
  requested : RequestedFile
  environment : Environment

inductive Fault where
  | unreadable
  | mistyped (path : List String)
  deriving DecidableEq, Repr

def Fault.path : Fault → List String
  | unreadable => []
  | mistyped path => path

namespace Layers

/-- The tree of a file that is there. At its top no entry is boxed. -/
def readFile (text : String) : Except Fault Tree :=
  match (Toml.read? text).bind Tree.unboxEntries? with
  | some entries => .ok (.table entries)
  | .none => .error .unreadable

def projectTree (layers : Layers) : Except Fault Tree :=
  match layers.project with
  | some text => readFile text
  | .none => .ok .empty

def requestedTree (layers : Layers) : Except Fault Tree :=
  match layers.requested with
  | .none => .ok .empty
  | .missing => .error .unreadable
  | .present text => readFile text

def merged (layers : Layers) : Except Fault Tree := do
  let project ← layers.projectTree
  let requested ← layers.requestedTree
  return (((({} : Settings).toTree.overlay project).overlay requested).overlay
    layers.environment.toTree)

def load (layers : Layers) : Except Fault Settings :=
  match layers.merged with
  | .error fault => .error fault
  | .ok tree =>
    match Settings.decoder.resolve tree with
    | .ok settings => .ok settings
    | .error path => .error (.mistyped path)

end Layers

end CommandGate.Config
