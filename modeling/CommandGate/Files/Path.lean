import CommandGate.Text.Search
/-!
Paths with slashes between their components. Empty components and single dots name nothing; the
extension is what follows the last dot of the last component, if a name stands before it.
-/
namespace CommandGate.Files

open Text

def components (path : List Char) : List (List Char) :=
  (splitOn '/' path).filter fun piece => !(piece == [] || piece == ['.'])

/-- The last component; a path whose last component is two dots names no file. -/
def fileName? (path : List Char) : Option (List Char) :=
  (components path).getLast?.filter (· != ['.', '.'])

def extensionOf? (name : List Char) : Option (List Char) :=
  let last := (name.reverse.takeWhile (· != '.')).reverse
  if last.length + 1 < name.length then some last else none

def extension? (path : List Char) : Option (List Char) := (fileName? path).bind extensionOf?

end CommandGate.Files
