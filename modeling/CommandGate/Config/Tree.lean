import CommandGate.Json.Value
/-!
Configuration trees, the common form of every source of settings. Laying one tree over another joins
tables name by name; any other value of the upper tree replaces what is below it, lists included.
-/
namespace CommandGate.Config

inductive Tree where
  | absent
  | text (value : String)
  | bool (value : Bool)
  | whole (value : Int)
  | real (value : Number.Extended)
  | list (items : List Tree)
  | table (entries : List (String × Tree))

instance : Inhabited Tree := ⟨.absent⟩

namespace Tree

def empty : Tree := .table []

def get? (name : String) : Tree → Option Tree
  | .table entries => Members.get? name entries
  | _ => none

def find? : List String → Tree → Option Tree
  | [], tree => some tree
  | name :: path, tree => (tree.get? name).bind (find? path)

def nested (value : Tree) : List String → Tree
  | [] => value
  | name :: path => .table [(name, nested value path)]

/-- The entry that holds the value of a boxed one: its table stands for that value. -/
def boxKey : String := "___figment_value_value"

/-- The entry with the number of the source that a value is from; it is no entry of its table. -/
def sourceKey : String := "___figment_value_id"

def isSourceNumber : Tree → Bool
  | .whole n => 0 ≤ n
  | _ => false

def ofEntries (entries : Members Tree) : Tree :=
  match entries.get? boxKey with
  | some value => value
  | none => .table (entries.filter (·.1 != sourceKey))

mutual

/-- The tree with every boxed value in its place; none if a number of a source is no such number. -/
def unbox? : Tree → Option Tree
  | .list items => (unboxItems? items).map .list
  | .table entries =>
    if (Members.get? sourceKey entries).all isSourceNumber then
      (unboxEntries? entries).map ofEntries
    else none
  | tree => some tree

def unboxItems? : List Tree → Option (List Tree)
  | [] => some []
  | item :: items => (unbox? item).bind fun item => (unboxItems? items).map (item :: ·)

def unboxEntries? : List (String × Tree) → Option (List (String × Tree))
  | [] => some []
  | (name, value) :: entries =>
    (unbox? value).bind fun value => (unboxEntries? entries).map ((name, value) :: ·)

end

mutual

def overlay (base : Tree) : Tree → Tree
  | .table entries =>
    match base with
    | .table below => .table (overlayEntries below entries)
    | _ => .table entries
  | upper => upper

def overlayEntries (below : Members Tree) : List (String × Tree) → Members Tree
  | [] => below
  | (name, value) :: entries =>
    let merged :=
      match below.get? name with
      | some old => overlay old value
      | none => value
    overlayEntries (below.insert name merged) entries

end

end Tree

end CommandGate.Config
