import CommandGate.Json.Reader
import CommandGate.Config.Tree
/-!
Decoders give typed values from JSON text, from JSON documents and from configuration trees.

Reading text stops at the first fault in the order of the text, so a value of the wrong type is
reported before anything that follows it. A record ignores members it does not know, takes each known
member once, and may also stand as an array of its fields in declared order. In a configuration tree
the fault is the path of the offending value.
-/
namespace CommandGate

open Json (Fault Reader)

structure Decoder (α : Type) where
  /-- Reads text with at most the given number of containers inside each other. -/
  read : Nat → Reader α
  /-- Takes a JSON document. -/
  accept : Json → Option α
  /-- Takes a configuration tree, or gives the path of the value that does not fit. -/
  resolve : Config.Tree → Except (List String) α

/-- One field of a record: what it adds to the record being built. -/
structure Field (ρ : Type) where
  name : String
  required : Bool
  read : Nat → Reader (ρ → ρ)
  accept : Json → Option (ρ → ρ)
  resolve : Config.Tree → Except (List String) (ρ → ρ)

def beneath {α : Type} (key : String) : Except (List String) α → Except (List String) α
  | .error path => .error (key :: path)
  | .ok value => .ok value

namespace Decoder

variable {α β ρ : Type}

def mismatchAt (text : List Char) : Fault :=
  match text with
  | '[' :: _ => .mismatch
  | '\x7b' :: _ => .mismatch
  | '"' :: rest =>
    match Json.readString rest with
    | .ok _ => .mismatch
    | .error fault => fault
  | text =>
    match Json.readScalar text with
    | .ok _ => .mismatch
    | .error fault => fault

def readScalar (pick : Json → Option α) : Reader α := fun text =>
  match Json.readScalar (Json.skipSpaces text) with
  | .error _ => .error (mismatchAt (Json.skipSpaces text))
  | .ok (value, rest) =>
    match pick value with
    | some result => .ok (result, rest)
    | none => .error .mismatch

def scalar (pick : Json → Option α) (resolve : Config.Tree → Option α) : Decoder α where
  read _ := readScalar pick
  accept := pick
  resolve tree :=
    match resolve tree with
    | some value => .ok value
    | none => .error []

def text : Decoder String :=
  .scalar Json.string? fun
    | .text value => some value
    | _ => none

def bool : Decoder Bool :=
  .scalar
    (fun
      | .bool value => some value
      | _ => none)
    (fun
      | .bool value => some value
      | _ => none)

def natural (bits : Nat) : Decoder Nat :=
  let within (n : Int) : Option Nat :=
    if 0 ≤ n ∧ n < Int.pow 2 bits then some n.toNat else none
  .scalar
    (fun
      | .number (.whole n) => within n
      | _ => none)
    (fun
      | .whole n => within n
      | _ => none)

def single : Decoder Number.Extended :=
  .scalar
    (fun
      | .number (.whole n) => some (.ofInt Number.single n)
      | .number (.real x) => some ((Number.Extended.finite x).convert Number.single)
      | _ => none)
    (fun
      | .whole n => some (.ofInt Number.single n)
      | .real x => some (x.convert Number.single)
      | _ => none)

/-- Reads a whole document before it looks at its shape. A configuration tree holds none. -/
def buffered (accept : Json → Option α) : Decoder α where
  read depth text :=
    match Json.readValue depth text with
    | .error fault => .error fault
    | .ok (document, rest) =>
      match accept document with
      | some value => .ok (value, rest)
      | none => .error .mismatch
  accept := accept
  resolve _ := .error []

def any : Decoder Json := .buffered fun document => some document.arrange

def optional (item : Decoder α) : Decoder (Option α) where
  read depth text :=
    match Json.skipSpaces text with
    | 'n' :: rest =>
      (Json.readWord ['n', 'u', 'l', 'l'] .null ('n' :: rest)).map fun (_, rest) => (none, rest)
    | text => (item.read depth text).map fun (value, rest) => (some value, rest)
  accept
    | .null => some none
    | value => (item.accept value).map some
  resolve
    | .absent => .ok none
    | tree => (item.resolve tree).map some

def readInside (inside : Nat → Reader α) : Nat → Reader α
  | 0 => fun _ => .error .malformed
  | depth + 1 => inside depth

def acceptAll (accept : Json → Option α) : List Json → Option (List α)
  | [] => some []
  | item :: items =>
    (accept item).bind fun value => (acceptAll accept items).map (value :: ·)

def resolveAll (resolve : Config.Tree → Except (List String) α) (index : Nat) :
    List Config.Tree → Except (List String) (List α)
  | [] => .ok []
  | item :: items =>
    (beneath (toString index) (resolve item)).bind fun value =>
      (resolveAll resolve (index + 1) items).map (value :: ·)

def list (item : Decoder α) : Decoder (List α) where
  read depth text :=
    match Json.skipSpaces text with
    | '[' :: rest => readInside (fun depth => Json.readSeparated ']' (item.read depth)) depth rest
    | rest => .error (mismatchAt rest)
  accept
    | .array items => acceptAll item.accept items
    | _ => none
  resolve
    | .list items => resolveAll item.resolve 0 items
    | _ => .error []

def acceptMembers (accept : Json → Option α) : Fields → Option (List (String × α))
  | [] => some []
  | (name, value) :: members =>
    (accept value).bind fun value => (acceptMembers accept members).map ((name, value) :: ·)

def resolveEntries (resolve : Config.Tree → Except (List String) α) :
    Members Config.Tree → Except (List String) (List (String × α))
  | [] => .ok []
  | (name, tree) :: entries =>
    (beneath name (resolve tree)).bind fun value =>
      (resolveEntries resolve entries).map ((name, value) :: ·)

def mapping (item : Decoder α) : Decoder (Members α) where
  read depth text :=
    match Json.skipSpaces text with
    | '\x7b' :: rest =>
      (readInside
          (fun depth => Json.readSeparated '\x7d' (Json.readMember Json.readString (item.read depth)))
          depth rest).map
        fun (members, rest) => (Members.ofList members, rest)
    | rest => .error (mismatchAt rest)
  accept
    | .object members => (acceptMembers item.accept members).map Members.ofList
    | _ => none
  resolve
    | .table entries => (resolveEntries item.resolve entries).map Members.ofList
    | _ => .error []

def isComplete (fields : List (Field ρ)) (given : List String) : Bool :=
  fields.all fun field => !field.required || given.contains field.name

def readMembers (fields : List (Field ρ)) (depth : Nat) :
    Nat → List String → ρ → Reader ρ
  | 0, _, _ => fun _ => .error .malformed
  | fuel + 1, given, record => fun text =>
    match Json.readName Json.readString text with
    | .error fault => .error fault
    | .ok (name, text) =>
      let found := fields.find? (·.name == name)
      if found.isSome && given.contains name then .error .mismatch
      else
        let step : Reader (ρ → ρ) :=
          match found with
          | some field => field.read depth
          | none => fun text => (Json.skipValue text.length text).map fun (_, rest) => (id, rest)
        match Json.readAfterColon step text with
        | .error fault => .error fault
        | .ok (change, text) =>
          let given := if found.isSome then name :: given else given
          match Json.skipSpaces text with
          | ',' :: text => readMembers fields depth fuel given (change record) text
          | '\x7d' :: text =>
            if isComplete fields given then .ok (change record, text) else .error .mismatch
          | _ => .error .malformed

def readObject (fields : List (Field ρ)) (initial : ρ) (depth : Nat) : Reader ρ := fun text =>
  match Json.skipSpaces text with
  | '\x7d' :: rest => if isComplete fields [] then .ok (initial, rest) else .error .mismatch
  | rest => readMembers fields depth text.length [] initial rest

def readInOrder (depth : Nat) (first : Bool) : List (Field ρ) → ρ → Reader ρ
  | [], record => fun text =>
    match Json.skipSpaces text with
    | ']' :: rest => .ok (record, rest)
    | _ => .error .malformed
  | field :: fields, record => fun text =>
    let proceed (text : List Char) : Except Fault (ρ × List Char) :=
      match field.read depth text with
      | .error fault => .error fault
      | .ok (change, text) => readInOrder depth false fields (change record) text
    match Json.skipSpaces text with
    | ']' :: rest =>
      if (field :: fields).any (·.required) then .error .mismatch else .ok (record, rest)
    | ',' :: rest => if first then .error .malformed else proceed rest
    | rest => if first then proceed rest else .error .malformed

def acceptObject (fields : List (Field ρ)) (given : List String) (record : ρ) :
    Fields → Option ρ
  | [] => if isComplete fields given then some record else none
  | (name, value) :: members =>
    match fields.find? (·.name == name) with
    | none => acceptObject fields given record members
    | some field =>
      if given.contains name then none
      else
        (field.accept value).bind fun change =>
          acceptObject fields (name :: given) (change record) members

def acceptInOrder (record : ρ) : List (Field ρ) → List Json → Option ρ
  | fields, [] => if fields.any (·.required) then none else some record
  | [], _ :: _ => none
  | field :: fields, value :: values =>
    (field.accept value).bind fun change => acceptInOrder (change record) fields values

def resolveTable (fields : List (Field ρ)) (given : List String) (record : ρ) :
    Members Config.Tree → Except (List String) ρ
  | [] => if isComplete fields given then .ok record else .error []
  | (name, tree) :: entries =>
    match fields.find? (·.name == name) with
    | none => resolveTable fields given record entries
    | some field =>
      (beneath name (field.resolve tree)).bind fun change =>
        resolveTable fields (name :: given) (change record) entries

/-- Items beyond the last field are not looked at. -/
def resolveInOrder (record : ρ) (index : Nat) :
    List (Field ρ) → List Config.Tree → Except (List String) ρ
  | fields, [] => if fields.any (·.required) then .error [] else .ok record
  | [], _ :: _ => .ok record
  | field :: fields, tree :: trees =>
    (beneath (toString index) (field.resolve tree)).bind fun change =>
      resolveInOrder (change record) (index + 1) fields trees

def record (initial : ρ) (fields : List (Field ρ)) : Decoder ρ where
  read depth text :=
    match Json.skipSpaces text with
    | '\x7b' :: rest => readInside (readObject fields initial) depth rest
    | '[' :: rest => readInside (fun depth => readInOrder depth true fields initial) depth rest
    | rest => .error (mismatchAt rest)
  accept
    | .object members => acceptObject fields [] initial members
    | .array items => acceptInOrder initial fields items
    | _ => none
  resolve
    | .table entries => resolveTable fields [] initial entries
    | .list items => resolveInOrder initial 0 fields items
    | _ => .error []

def ofText (decoder : Decoder α) (text : String) : Except Fault α :=
  Json.whole? (decoder.read Json.nesting text.toList)

end Decoder

namespace Field

variable {α ρ : Type}

def of (name : String) (required : Bool) (decoder : Decoder α) (set : α → ρ → ρ) : Field ρ where
  name := name
  required := required
  read depth text := (decoder.read depth text).map fun (value, rest) => (set value, rest)
  accept value := (decoder.accept value).map set
  resolve tree := (decoder.resolve tree).map set

def needed (name : String) (decoder : Decoder α) (set : α → ρ → ρ) : Field ρ :=
  of name true decoder set

def defaulted (name : String) (decoder : Decoder α) (set : α → ρ → ρ) : Field ρ :=
  of name false decoder set

end Field

end CommandGate
