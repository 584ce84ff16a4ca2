import CommandGate.Mail.Address
import CommandGate.Text.Base64
/-!
Header lines of a mail. A line holds at most 76 characters where it can be broken at a space, which
is never before its first word; what is no plain ASCII text is written as encoded words.
-/
namespace CommandGate.Mail

open Text

/-- A header being written: finished lines, the current line, whether its value has begun on that
line, and spaces not yet written. -/
structure Folded where
  finished : List (List Char)
  current : List Char
  begun : Bool
  spaces : Nat

namespace Folded

def lineLimit : Nat := 76

def start (name : String) : Folded := ⟨[], name.toList ++ [':', ' '], false, 0⟩

def length (folded : Folded) : Nat := folded.current.length + folded.spaces

def breakLine (folded : Folded) : Folded :=
  { folded with finished := folded.finished ++ [folded.current], current := [], begun := false }

def writeSpaces (folded : Folded) : Folded :=
  { folded with current := folded.current ++ List.replicate folded.spaces ' ', spaces := 0 }

def write (folded : Folded) (text : List Char) : Folded :=
  let folded := folded.writeSpaces
  { folded with current := folded.current ++ text, begun := true }

def space (folded : Folded) : Folded := { folded with spaces := folded.spaces + 1 }

/-- Writes a word, on a new line if it comes after a space and the current line, on which something
stands already, has no room. -/
def writeWord (folded : Folded) (word : List Char) : Folded :=
  if word.isEmpty then folded
  else if folded.begun ∧ 0 < folded.spaces ∧ lineLimit < folded.length + word.length then
    folded.breakLine.write word
  else folded.write word

def writeWords (folded : Folded) : List (List Char) → Folded
  | [] => folded
  | [word] => folded.writeWord word
  | word :: words => writeWords (folded.writeWord word).space words

def writeText (folded : Folded) (text : List Char) : Folded :=
  folded.writeWords (splitOn ' ' text)

/-- A line that ends in an encoded word keeps room for its line end. -/
def encodedLimit : Nat := 74

def encodedStart : List Char := "=?utf-8?b?".toList

def encodedEnd : List Char := ['?', '=']

def encodedWord (text : List Char) : List Char :=
  encodedStart ++ base64 (String.ofList text).toUTF8.toList ++ encodedEnd

def fitting (room : Nat) : List Char → List Char
  | [] => []
  | c :: text => if c.utf8Size ≤ room then c :: fitting (room - c.utf8Size) text else []

/-- Writes a text as encoded words, as much on each line as it has room for; `more` says that a word
was written before. -/
def writeEncoded (more : Bool) : Nat → Folded → List Char → Folded
  | 0, folded, _ => folded
  | _ + 1, folded, [] => folded
  | fuel + 1, folded, text =>
    let used := encodedStart.length + encodedEnd.length + folded.length
    let part := fitting ((encodedLimit - used) / 4 * 3) text
    if part.isEmpty then
      if more ∨ 0 < folded.spaces then
        let folded := folded.breakLine
        writeEncoded more fuel (if folded.spaces = 0 then folded.space else folded) text
      else folded.write (encodedWord text)
    else writeEncoded true fuel (folded.write (encodedWord part)) (text.drop part.length)

def lines (folded : Folded) : List String :=
  let folded := folded.writeSpaces
  (folded.finished ++ [folded.current]).map String.ofList

end Folded

def isPlainChar (c : Char) : Bool :=
  c != '\x00' && c != '\n' && c != '\r' && c.val < 0x80

/-- Words that need no encoding are written as they are, runs of others together as encoded words;
`waiting` is such a run. -/
def writeValue (waiting : List Char) (folded : Folded) : List (List Char) → Folded
  | [] => folded.writeEncoded false (2 * waiting.length + 2) waiting
  | [word] =>
    if word.all isPlainChar then (flush folded).writeWord word
    else folded.writeEncoded false (2 * (waiting ++ word).length + 2) (waiting ++ word)
  | word :: words =>
    if word.all isPlainChar then writeValue [] ((flush folded).writeWord word).space words
    else writeValue (waiting ++ word ++ [' ']) folded words
where
  /-- Writes the waiting run, its last spaces after it. -/
  flush (folded : Folded) : Folded :=
    let text := (waiting.reverse.dropWhile (· == ' ')).reverse
    let folded := folded.writeEncoded false (2 * text.length + 2) text
    { folded with spaces := folded.spaces + (waiting.length - text.length) }

def textHeader (name : String) (value : List Char) : List String :=
  (writeValue [] (.start name) (splitOn ' ' value)).lines

/-- A display name: alone if it has only letters and digits, between quotes if besides them it has
only spaces and what an escape can show there, else encoded. Where escapes occur a line is broken
only once it is full. -/
def writeName (folded : Folded) (name : List Char) : Folded :=
  if name.all Char.isAlphanum then folded.writeText name
  else if name.all fun c => c.isAlphanum || c == ' ' then
    ((folded.write ['"']).writeText name).write ['"']
  else if name.all fun c => c.isAlphanum || c == ' ' || c == '"' || c == '\\' then
    (name.foldl writeEscaped (folded.write ['"'])).write ['"']
  else folded.writeEncoded false (2 * name.length + 2) name
where
  writeEscaped (folded : Folded) (c : Char) : Folded :=
    if c = ' ' then folded.space
    else if c = '"' ∨ c = '\\' then (folded.writeWord ['\\']).writeWord [c]
    else folded.writeWord [c]

def mailboxHeader (name : String) (mailbox : Mailbox) : List String :=
  match mailbox.name with
  | none => ((Folded.start name).write mailbox.address).lines
  | some shown =>
    ((writeName (.start name) shown).space.write ('<' :: mailbox.address ++ ['>'])).lines

end CommandGate.Mail
