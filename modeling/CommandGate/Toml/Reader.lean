import CommandGate.Toml.Scalar
import CommandGate.Toml.Table
import CommandGate.Toml.Text
/-!
Reading TOML documents. A document is a sequence of lines: headers, which open a table, and keys with
their values, which go into the table that is open. Any fault makes the whole document unreadable.
-/
namespace CommandGate.Toml

open Config Text

/-- How deep arrays and tables in line nest, and how many parts a key has, is below this. -/
def nesting : Nat := 80

def scanKeyPart : Scan String := fun text =>
  match text.takeWhile isKeyChar with
  | [] => (scanShort text).map fun (content, rest) => (String.ofList content, rest)
  | bare => some (String.ofList bare, text.dropWhile isKeyChar)

def scanKey : Nat → Scan (List String)
  | 0, _ => none
  | fuel + 1, text =>
    (scanKeyPart (skipSpacing text)).bind fun (part, text) =>
      match skipSpacing text with
      | '.' :: rest => (scanKey fuel rest).map fun (parts, rest) => (part :: parts, rest)
      | rest => some ([part], rest)

def scanPair (value : Scan Tree) : Scan ((List String × String) × Tree) := fun text =>
  (scanKey (nesting - 1) text).bind fun (parts, text) =>
    match parts.getLast?, text with
    | some name, '=' :: text =>
      (value (skipSpacing text)).map fun (tree, rest) => (((parts.dropLast, name), tree), rest)
    | _, _ => none

def scanItems (item : Scan Tree) : Nat → Scan (List Tree)
  | 0, _ => none
  | fuel + 1, text =>
    (skipFiller false text).bind fun text =>
      match text with
      | ']' :: rest => some ([], rest)
      | text =>
        (item text).bind fun (tree, text) =>
          (skipFiller false text).bind fun text =>
            match text with
            | ']' :: rest => some ([tree], rest)
            | ',' :: rest => (scanItems item fuel rest).map fun (trees, rest) => (tree :: trees, rest)
            | _ => none

def scanPairs (value : Scan Tree) (entries : Entries) : Nat → Scan Entries
  | 0, _ => none
  | fuel + 1, text =>
    (scanPair value text).bind fun (((path, name), tree), text) =>
      (entries.addDotted name (.value tree) path).bind fun entries =>
        match skipSpacing text with
        | '\x7d' :: rest => some (entries, rest)
        | ',' :: rest => scanPairs value entries fuel rest
        | _ => none

def scanValue : Nat → Scan Tree
  | depth, '[' :: rest =>
    match depth with
    | 0 => none
    | depth + 1 =>
      (scanItems (scanValue depth) (rest.length + 1) rest).map fun (trees, rest) =>
        (.list trees, rest)
  | depth, '\x7b' :: rest =>
    match depth with
    | 0 => none
    | depth + 1 =>
      match skipSpacing rest with
      | '\x7d' :: rest => some (.table [], rest)
      | text =>
        (scanPairs (scanValue depth) [] (text.length + 1) text).map fun (entries, rest) =>
          (.table (Members.ofList (entryTrees entries)), rest)
  | _, '"' :: rest => (scanString ('"' :: rest)).map fun (content, rest) => (.text content, rest)
  | _, '\'' :: rest => (scanString ('\'' :: rest)).map fun (content, rest) => (.text content, rest)
  | _, text => scanScalar text

structure Draft where
  entries : Entries
  opened : List String

def Draft.openTable (draft : Draft) (isElement : Bool) (text : List Char) :
    Option (Draft × List Char) :=
  (scanKey (nesting - 1) text).bind fun (parts, text) =>
    let close := if isElement then [']', ']'] else [']']
    (dropStart? close text).bind fun rest =>
      parts.getLast?.bind fun name =>
        let change := if isElement then Entries.defineElement name else Entries.define name
        (draft.entries.within change parts.dropLast).map fun entries => (⟨entries, parts⟩, rest)

def Draft.addPair (draft : Draft) (text : List Char) : Option (Draft × List Char) :=
  (scanPair (scanValue (nesting - 1)) text).bind fun (((path, name), tree), rest) =>
    (draft.entries.within (fun entries => entries.addDotted name (.value tree) path)
      draft.opened).map fun entries => ({ draft with entries }, rest)

def Draft.readLines : Nat → Draft → List Char → Option Draft
  | 0, _, _ => none
  | fuel + 1, draft, text =>
    (skipFiller false text).bind fun text =>
      match text with
      | [] => some draft
      | text =>
        let line :=
          match text with
          | '[' :: '[' :: rest => draft.openTable true rest
          | '[' :: rest => draft.openTable false rest
          | text => draft.addPair text
        line.bind fun (draft, rest) => (lineEnd? rest).bind (readLines fuel draft)

def read? (text : String) : Option (Members Tree) :=
  let content :=
    match text.toList with
    | '\uFEFF' :: rest => rest
    | content => content
  (Draft.readLines (content.length + 1) ⟨[], []⟩ content).map fun draft =>
    Members.ofList (entryTrees draft.entries)

end CommandGate.Toml
