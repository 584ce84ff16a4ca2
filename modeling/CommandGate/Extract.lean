import CommandGate.Text.Blank
import CommandGate.Text.Search
/-!
Recovering the payload from an oracle's text, which may wrap it in prose or in code fences: the
content of the first closed fence, else the span from the first opening to the last closing brace,
else the text itself, each without the blanks around it.
-/
namespace CommandGate

open Text

def emptyObject : List Char := ['{', '}']

def fence : List Char := ['`', '`', '`']

def dropTag (content : List Char) : List Char :=
  match dropStart? ['j', 's', 'o', 'n'] content with
  | some rest => rest
  | none =>
    match dropStart? ['J', 'S', 'O', 'N'] content with
    | some rest => rest
    | none => content

def fencedContent? (raw : List Char) : Option (List Char) :=
  (splitAtFirst fence raw).bind fun (_, opened) =>
    (splitAtFirst fence opened).map fun (content, _) => trim (dropTag content)

/-- The span from the first `{` to the last `}` after it. Several objects in one text stay one span,
so none of them is silently preferred. -/
def objectSpan? (raw : List Char) : Option (List Char) :=
  let opened := raw.dropWhile (· != '\x7b')
  let closed := (opened.reverse.dropWhile (· != '\x7d')).reverse
  if closed.isEmpty then none else some closed

def extract (raw : List Char) : List Char :=
  match fencedContent? raw with
  | some content => content
  | none =>
    match objectSpan? raw with
    | some span => span
    | none => if (trim raw).isEmpty then emptyObject else trim raw

end CommandGate
