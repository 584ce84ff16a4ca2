import CommandGate.Text.Scan
/-!
Strings and comments of TOML: basic strings with escapes, literal strings without, each also over
several lines between triple quotes. A line break in a string counts as one line feed.
-/
namespace CommandGate.Toml

open Text

def isPlain (c : Char) : Bool := c == '\t' || (0x20 ≤ c.val && c.val != 0x7F)

def lineBreak? : List Char → Option (List Char)
  | '\n' :: rest => some rest
  | '\r' :: '\n' :: rest => some rest
  | _ => none

def scanEscape : Scan Char
  | [] => none
  | 'u' :: rest => scanCodePoint 4 rest
  | 'U' :: rest => scanCodePoint 8 rest
  | c :: rest => (shortEscape? c).map fun c => (c, rest)

def basicBody : Nat → Scan (List Char)
  | 0, _ => none
  | _ + 1, [] => none
  | _ + 1, '"' :: rest => some ([], rest)
  | fuel + 1, '\\' :: rest =>
    (scanEscape rest).bind fun (c, rest) =>
      (basicBody fuel rest).map fun (content, rest) => (c :: content, rest)
  | fuel + 1, c :: rest =>
    if isPlain c then (basicBody fuel rest).map fun (content, rest) => (c :: content, rest)
    else none

def literalBody : Scan (List Char)
  | [] => none
  | '\'' :: rest => some ([], rest)
  | c :: rest =>
    if isPlain c then (literalBody rest).map fun (content, rest) => (c :: content, rest)
    else none

/-- The end of a string over several lines: three quotes, before which one or two more may stand that
belong to the content. -/
def closing? (quote : Char) (text : List Char) : Option (List Char × List Char) :=
  let run := ((text.takeWhile (· == quote)).take 5)
  if run.length < 3 then none else some (run.drop 3, text.drop run.length)

def skipBreaks : List Char → List Char
  | '\r' :: '\n' :: rest => skipBreaks rest
  | c :: rest => if isSpacing c || c == '\n' then skipBreaks rest else c :: rest
  | [] => []

def longBody (quote : Char) : Nat → Scan (List Char)
  | 0, _ => none
  | fuel + 1, text =>
    match closing? quote text with
    | some closed => some closed
    | none =>
      let keep (c : Char) (rest : List Char) : Option (List Char × List Char) :=
        (longBody quote fuel rest).map fun (content, rest) => (c :: content, rest)
      match lineBreak? text, text with
      | some rest, _ => keep '\n' rest
      | none, [] => none
      | none, c :: rest =>
        if c = '\\' ∧ quote = '"' then
          match lineBreak? (skipSpacing rest) with
          | some rest => longBody quote fuel (skipBreaks rest)
          | none => (scanEscape rest).bind fun (c, rest) => keep c rest
        else if isPlain c then keep c rest
        else none

def dropFirstBreak (text : List Char) : List Char := (lineBreak? text).getD text

def scanLong (quote : Char) : Scan (List Char) := fun text =>
  longBody quote (text.length + 1) (dropFirstBreak text)

def scanShort : Scan (List Char)
  | '"' :: rest => basicBody (rest.length + 1) rest
  | '\'' :: rest => literalBody rest
  | _ => none

def scanString : Scan String := fun text =>
  let found :=
    match text with
    | '"' :: '"' :: '"' :: rest => scanLong '"' rest
    | '\'' :: '\'' :: '\'' :: rest => scanLong '\'' rest
    | text => scanShort text
  found.map fun (content, rest) => (String.ofList content, rest)

/-- The text after the blanks, line breaks and comments at its start; `inComment` says where it
starts. A comment with a control character in it is none. -/
def skipFiller (inComment : Bool) : List Char → Option (List Char)
  | [] => some []
  | '\n' :: rest => skipFiller false rest
  | '\r' :: '\n' :: rest => skipFiller false rest
  | c :: rest =>
    if inComment then if isPlain c then skipFiller true rest else none
    else if isSpacing c then skipFiller false rest
    else if c = '#' then skipFiller true rest
    else some (c :: rest)

def lineEnd? (text : List Char) : Option (List Char) :=
  let text := skipSpacing text
  let text :=
    match text with
    | '#' :: comment => comment.dropWhile isPlain
    | text => text
  match text with
  | [] => some []
  | text => lineBreak? text

end CommandGate.Toml
