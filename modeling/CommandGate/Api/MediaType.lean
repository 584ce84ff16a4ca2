/-!
Media types of request bodies. A type is two tokens with a slash between them, and parameters after
semicolons; the part of the subtype after its last plus sign is its suffix. Letters count without case.
-/
namespace CommandGate

structure MediaType where
  kind : List Char
  subtype : List Char
  suffix : Option (List Char)
  deriving DecidableEq, Repr

namespace MediaType

def isTokenChar (c : Char) : Bool :=
  c.isAlphanum ||
    ['!', '#', '$', '%', '&', '\'', '*', '+', '-', '.', '^', '_', '\x60', '|', '~'].contains c

def isQuotedChar (c : Char) : Bool := 0x1F < c.val && c.val != 0x7F

def afterQuoted : List Char → Option (List Char)
  | [] => some []
  | ' ' :: text => afterQuoted text
  | ';' :: text => some text
  | _ => none

/-- The text after the value of a parameter. A quoted value has at least one character. -/
def dropValue? (text : List Char) : Option (List Char) :=
  match text with
  | '"' :: c :: text =>
    if !isQuotedChar c then none
    else
      match text.dropWhile fun c => isQuotedChar c && c != '"' with
      | '"' :: text => afterQuoted text
      | _ => none
  | text =>
    match text.dropWhile isTokenChar with
    | [] => some []
    | ';' :: rest => if rest.length + 1 = text.length then none else some rest
    | _ => none

def areParameters : Nat → List Char → Bool
  | 0, _ => false
  | fuel + 1, text =>
    match text.dropWhile (· == ' ') with
    | [] => true
    | text =>
      match text.dropWhile isTokenChar with
      | '=' :: value =>
        value.length + 1 != text.length && (dropValue? value).any (areParameters fuel)
      | _ => false

/-- A subtype in its parts. A plus sign at the start belongs to the name. -/
def ofSubtype (kind subtype : List Char) : MediaType :=
  let suffix := (subtype.reverse.takeWhile (· != '+')).reverse
  if suffix.length + 1 < subtype.length then
    ⟨kind, subtype.take (subtype.length - suffix.length - 1), some suffix⟩
  else ⟨kind, subtype, none⟩

def parse? (text : List Char) : Option MediaType :=
  let text := text.map Char.toLower
  match text.takeWhile isTokenChar, text.dropWhile isTokenChar with
  | [], _ => none
  | kind, '/' :: rest =>
    match rest.takeWhile isTokenChar, rest.dropWhile isTokenChar with
    | [], _ => none
    | subtype, [] => some (ofSubtype kind subtype)
    | subtype, ';' :: parameters =>
      if areParameters (parameters.length + 1) parameters then some (ofSubtype kind subtype)
      else none
    | _, _ => none
  | _, _ => none

/-- JSON itself, and formats that say by their suffix that they are written in it. -/
def isJson (type : MediaType) : Bool :=
  type.kind == "application".toList &&
    (type.subtype == "json".toList || type.suffix == some "json".toList)

end MediaType

def declaresJson (contentType : String) : Bool :=
  contentType.toList.all (fun c => c == '\t' || (0x20 ≤ c.val && c.val < 0x7F)) &&
    (MediaType.parse? contentType.toList).any MediaType.isJson

end CommandGate
