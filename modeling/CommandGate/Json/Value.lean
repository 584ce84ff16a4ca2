import CommandGate.Number.Binary
/-!
JSON values. A number is a whole number or a finite double; an object is the list of its members.
Objects built here list their members by ascending key, each key once (`Json.Ordered`); a document
read from text may list them as they were written.
-/
namespace CommandGate

/-- A whole number of 64 bits, signed or unsigned, or a finite double. -/
inductive Numeral where
  | whole (n : Int)
  | real (x : Number.Binary)
  deriving DecidableEq

inductive Json where
  | null
  | bool (value : Bool)
  | number (value : Numeral)
  | string (value : String)
  | array (items : List Json)
  | object (members : List (String × Json))

/-- Named values, by ascending name where they are built by `insert`. -/
abbrev Members (α : Type) := List (String × α)

abbrev Fields := Members Json

instance : Inhabited Json := ⟨.null⟩

namespace Members

variable {α β : Type}

def get? (name : String) : Members α → Option α
  | [] => none
  | (key, value) :: rest => if key = name then some value else get? name rest

def has (name : String) (members : Members α) : Bool := (members.get? name).isSome

def names (members : Members α) : List String := members.map (·.1)

def insert (name : String) (value : α) : Members α → Members α
  | [] => [(name, value)]
  | (key, old) :: rest =>
    if key = name then (name, value) :: rest
    else if name < key then (name, value) :: (key, old) :: rest
    else (key, old) :: insert name value rest

/-- Members by ascending name; of several values for one name the last is kept. -/
def ofList (members : List (String × α)) : Members α :=
  members.foldl (fun result (name, value) => insert name value result) []

def mapValues (f : α → β) (members : Members α) : Members β :=
  members.map fun (name, value) => (name, f value)

def Ascending (members : Members α) : Prop := (names members).Pairwise (· < ·)

theorem get?_insert_same (name : String) (value : α) (members : Members α) :
    get? name (insert name value members) = some value := by
  induction members with
  | nil => simp [insert, get?]
  | cons member rest ih =>
    obtain ⟨key, old⟩ := member
    by_cases same : key = name
    · simp [insert, get?, same]
    · by_cases before : name < key
      · simp [insert, get?, same, before]
      · simp [insert, get?, same, before, ih]

theorem get?_insert_other {name other : String} (value : α) (members : Members α)
    (different : name ≠ other) :
    get? other (insert name value members) = get? other members := by
  induction members with
  | nil => simp [insert, get?, different]
  | cons member rest ih =>
    obtain ⟨key, old⟩ := member
    by_cases same : key = name
    · simp [insert, get?, same, different]
    · by_cases before : name < key
      · simp [insert, get?, same, before, different]
      · simp [insert, get?, same, before, ih]

theorem get?_mapValues (f : α → β) (name : String) (members : Members α) :
    get? name (mapValues f members) = (get? name members).map f := by
  induction members with
  | nil => rfl
  | cons member rest ih =>
    obtain ⟨key, value⟩ := member
    by_cases same : key = name
    · simp [mapValues, get?, same]
    · simpa [mapValues, get?, same] using ih

end Members

namespace Json

def whole (n : Int) : Json := .number (.whole n)

def string? : Json → Option String
  | .string value => some value
  | _ => none

def array? : Json → Option (List Json)
  | .array items => some items
  | _ => none

def get? (name : String) : Json → Option Json
  | .object members => Members.get? name members
  | _ => none

mutual

/-- The value with the members of every object by ascending name, the last of equal names kept. -/
def arrange : Json → Json
  | .array items => .array (arrangeItems items)
  | .object members => .object (Members.ofList (arrangeMembers members))
  | value => value

def arrangeItems : List Json → List Json
  | [] => []
  | item :: items => arrange item :: arrangeItems items

def arrangeMembers : List (String × Json) → List (String × Json)
  | [] => []
  | (name, value) :: members => (name, arrange value) :: arrangeMembers members

end

mutual

def Ordered : Json → Prop
  | .array items => OrderedItems items
  | .object members => Members.Ascending members ∧ OrderedMembers members
  | _ => True

def OrderedItems : List Json → Prop
  | [] => True
  | item :: items => Ordered item ∧ OrderedItems items

def OrderedMembers : List (String × Json) → Prop
  | [] => True
  | (_, value) :: members => Ordered value ∧ OrderedMembers members

end

end Json

end CommandGate
