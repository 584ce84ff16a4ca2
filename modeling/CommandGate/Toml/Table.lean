import CommandGate.Config.Tree
/-!
Tables of TOML while they are built. A table may be defined once: by a header, by dotted keys, or in
line; a header may still define a table that so far was only named on the way to another.
-/
namespace CommandGate.Toml

open Config

/-- How a table came to be: by its own header, on the way to another one, or by dotted keys. -/
inductive Origin where
  | header
  | passage
  | dots
  deriving DecidableEq, Repr

inductive Item where
  | value (tree : Tree)
  | table (origin : Origin) (entries : List (String × Item))
  | tables (elements : List (List (String × Item)))

abbrev Entries := List (String × Item)

namespace Entries

def get? (name : String) (entries : Entries) : Option Item :=
  (entries.find? (·.1 == name)).map (·.2)

def set (name : String) (item : Item) (entries : Entries) : Entries :=
  entries.map fun entry => if entry.1 == name then (name, item) else entry

def add (name : String) (item : Item) (entries : Entries) : Option Entries :=
  if (entries.get? name).isSome then none else some (entries ++ [(name, item)])

def changeLast (change : Entries → Option Entries) : List Entries → Option (List Entries)
  | [] => none
  | [last] => (change last).map fun last => [last]
  | first :: others => (changeLast change others).map (first :: ·)

/-- Adds a value under a dotted key: the tables on the way may come from dotted keys only. -/
def addDotted (entries : Entries) (name : String) (item : Item) : List String → Option Entries
  | [] => entries.add name item
  | step :: steps =>
    match entries.get? step with
    | none => (addDotted [] name item steps).map fun inner => entries ++ [(step, .table .dots inner)]
    | some (.table .dots inner) =>
      (addDotted inner name item steps).map fun inner => entries.set step (.table .dots inner)
    | some (.table .passage inner) =>
      if steps.isEmpty then none
      else (addDotted inner name item steps).map fun inner =>
        entries.set step (.table .passage inner)
    | some (.table .header _) => none
    | some (.tables elements) =>
      if steps.isEmpty then none
      else (changeLast (fun inner => addDotted inner name item steps) elements).map fun elements =>
        entries.set step (.tables elements)
    | some (.value _) => none

/-- Changes the table at the end of a path; of a list of tables the last one is meant. -/
def within (entries : Entries) (change : Entries → Option Entries) : List String → Option Entries
  | [] => change entries
  | step :: steps =>
    match entries.get? step with
    | none => (within [] change steps).map fun inner => entries ++ [(step, .table .passage inner)]
    | some (.table origin inner) =>
      (within inner change steps).map fun inner => entries.set step (.table origin inner)
    | some (.tables elements) =>
      (changeLast (fun inner => within inner change steps) elements).map fun elements =>
        entries.set step (.tables elements)
    | some (.value _) => none

def define (name : String) (entries : Entries) : Option Entries :=
  match entries.get? name with
  | none => some (entries ++ [(name, .table .header [])])
  | some (.table .passage inner) => some (entries.set name (.table .header inner))
  | some _ => none

def defineElement (name : String) (entries : Entries) : Option Entries :=
  match entries.get? name with
  | none => some (entries ++ [(name, .tables [[]])])
  | some (.tables elements) => some (entries.set name (.tables (elements ++ [[]])))
  | some _ => none

end Entries

mutual

def Item.toTree : Item → Tree
  | .value tree => tree
  | .table _ entries => .table (Members.ofList (entryTrees entries))
  | .tables elements => .list (elementTrees elements)

def entryTrees : List (String × Item) → List (String × Tree)
  | [] => []
  | (name, item) :: entries => (name, item.toTree) :: entryTrees entries

def elementTrees : List (List (String × Item)) → List Tree
  | [] => []
  | entries :: elements => .table (Members.ofList (entryTrees entries)) :: elementTrees elements

end

end CommandGate.Toml
