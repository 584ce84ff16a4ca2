import CommandGate.Text.Scan
import CommandGate.Text.Search
/-!
Mailboxes in the text form of a mail header: an address alone, or a display name followed by the
address in angle brackets. The local part is a dotted atom or a quoted string; the labels of a domain
start and end with a letter or digit. Spaces and tabs may stand before each part, an end of line
nowhere; in a display name one of them counts, in an address none.
-/
namespace CommandGate.Mail

open Text

inductive AddressFault where
  | shape
  | user
  | domain
  deriving DecidableEq, Repr

def AddressFault.message : AddressFault → String
  | shape => "Invalid input"
  | user => "Invalid email user"
  | domain => "Invalid email domain"

structure Mailbox where
  name : Option (List Char)
  user : List Char
  domain : List Char
  deriving DecidableEq, Repr

def isAtomChar (c : Char) : Bool :=
  c.isAlphanum || 0x7F < c.val ||
    ['!', '#', '$', '%', '&', '\'', '*', '+', '-', '/', '=', '?', '^', '_', '\x60', '\x7b', '|',
      '\x7d', '~'].contains c

def isQuotable (c : Char) : Bool :=
  c != '"' && c != '\\' && c != '\x00' && c != '\n' && c != '\r' && !isSpacing c

def scanRun (isMember : Char → Bool) : Scan (List Char) := fun text =>
  match text.takeWhile isMember with
  | [] => none
  | run => some (run, text.dropWhile isMember)

def scanAtom : Scan (List Char) := scanRun isAtomChar

def scanDotAtom : Scan (List Char) := fun text =>
  (scanRun (fun c => isAtomChar c || c == '.') text).filter fun (run, _) =>
    (splitOn '.' run).all (!·.isEmpty)

/-- The content of a quoted string from after its first quote; `space` waits for what follows it. -/
def quotedContent (space : List Char) : Scan (List Char)
  | [] => none
  | '"' :: rest => some ([], rest)
  | '\\' :: c :: rest =>
    if c = '\x00' ∨ c = '\n' ∨ c = '\r' then none
    else (quotedContent [] rest).map fun (content, rest) => (space ++ c :: content, rest)
  | c :: rest =>
    if isSpacing c then quotedContent (if space.isEmpty then [c] else space) rest
    else if isQuotable c then
      (quotedContent [] rest).map fun (content, rest) => (space ++ c :: content, rest)
    else none

def scanQuoted : Scan (List Char)
  | '"' :: rest => quotedContent [] rest
  | _ => none

def scanWord : Scan (List Char) := fun text =>
  let spacing := (text.takeWhile isSpacing).take 1
  let text := skipSpacing text
  ((scanQuoted text).or (scanAtom text)).map fun (word, rest) => (spacing ++ word, rest)

def scanPhraseRest : Nat → List Char → List Char × List Char
  | 0, text => ([], text)
  | fuel + 1, text =>
    match scanWord text with
    | some (word, rest) =>
      let (more, rest) := scanPhraseRest fuel rest
      (word ++ more, rest)
    | none =>
      match text with
      | '.' :: rest =>
        let (more, rest) := scanPhraseRest fuel rest
        ('.' :: more, rest)
      | text => ([], text)

def scanPhrase : Scan (List Char) := fun text =>
  (scanWord text).map fun (word, rest) =>
    let (more, rest) := scanPhraseRest rest.length rest
    (word ++ more, rest)

def scanAddress : Scan (List Char × List Char) := fun text =>
  let text := skipSpacing text
  ((scanDotAtom text).or (scanQuoted text)).bind fun (user, rest) =>
    match rest with
    | '@' :: rest =>
      (scanDotAtom (skipSpacing rest)).map fun (domain, rest) => ((user, domain), rest)
    | _ => none

def scanBracketed : Scan (List Char × List Char) := fun text =>
  match skipSpacing text with
  | '<' :: rest =>
    (scanAddress rest).bind fun (address, rest) =>
      match rest with
      | '>' :: rest => some (address, skipSpacing rest)
      | _ => none
  | _ => none

def scanNamed : Scan (Option (List Char) × List Char × List Char) := fun text =>
  match scanPhrase text with
  | some (name, rest) => (scanBracketed rest).map fun (address, rest) => ((some name, address), rest)
  | none => (scanBracketed text).map fun (address, rest) => ((none, address), rest)

def utf8Size (text : List Char) : Nat := text.foldr (fun c size => c.utf8Size + size) 0

def isValidUser (user : List Char) : Bool :=
  utf8Size user ≤ 64 && (splitOn '.' user).all fun atom => !atom.isEmpty && atom.all isAtomChar

def isLabelEdge (c : Char) : Bool := c.isAlphanum || 0x7F < c.val

def isValidLabel (label : List Char) : Bool :=
  utf8Size label ≤ 63 && label.all isAtomChar && label.head?.any isLabelEdge &&
    label.getLast?.any isLabelEdge

def isValidDomain (domain : List Char) : Bool :=
  utf8Size domain ≤ 254 && (splitOn '.' domain).all isValidLabel

namespace Mailbox

def parse (text : List Char) : Except AddressFault Mailbox :=
  let text := ((skipSpacing text).reverse.dropWhile isSpacing).reverse
  let found :=
    match scanNamed text with
    | some found => some found
    | none => (scanAddress text).map fun (address, rest) => ((none, address), rest)
  match found with
  | some ((name, user, domain), []) =>
    if !isValidUser user then .error .user
    else if !isValidDomain domain then .error .domain
    else .ok ⟨name, user, domain⟩
  | _ => .error .shape

def address (mailbox : Mailbox) : List Char := mailbox.user ++ '@' :: mailbox.domain

end Mailbox

end CommandGate.Mail
