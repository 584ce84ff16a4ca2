import CommandGate.Config.Literal
import CommandGate.Text.Search
/-!
Settings from environment variables. A variable counts if its name starts with the prefix, in any case;
two underscores in the rest of the name stand between the names of a path. Where two variables set one
value, the later one counts.
-/
namespace CommandGate.Config

open Text

abbrev Environment := List (String × String)

namespace Environment

def namePrefix : List Char := "OLLIE_".toList

def dotted : List Char → List Char
  | '_' :: '_' :: rest => '.' :: dotted rest
  | c :: rest => c :: dotted rest
  | [] => []

/-- The path that a variable sets; none for a variable that does not count. -/
def path? (name : String) : Option (List String) :=
  let name := trim name.toList
  (dropStart? (namePrefix.map Char.toLower) (name.map Char.toLower)).bind fun key =>
    let steps := splitOn '.' (trim (dotted key))
    if steps.any (·.isEmpty) then none else some (steps.map String.ofList)

def addTo (tree : Tree) (setting : String × String) : Tree :=
  match path? setting.1 with
  | some path => tree.overlay (.nested (.ofText setting.2) path)
  | none => tree

def toTree (environment : Environment) : Tree := environment.foldl addTo .empty

end Environment

end CommandGate.Config
