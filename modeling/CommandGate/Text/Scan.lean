/-!
Scanning a text from its start: a scan gives a value and the characters that are left, if the text
starts as it should.
-/
namespace CommandGate.Text

abbrev Scan (α : Type) := List Char → Option (α × List Char)

def hexValue? (c : Char) : Option Nat :=
  if c.isDigit then some (c.toNat - 48)
  else if 'a' ≤ c ∧ c ≤ 'f' then some (c.toNat - 87)
  else if 'A' ≤ c ∧ c ≤ 'F' then some (c.toNat - 55)
  else none

def hexDigit (n : Nat) : Char := if n < 10 then Char.ofNat (48 + n) else Char.ofNat (55 + n)

def numberIn? (base : Nat) (value? : Char → Option Nat) (digits : List Char) : Option Nat :=
  digits.foldl (fun n c => n.bind fun n => (value? c).map (base * n + ·)) (some 0)

def scanCodePoint (count : Nat) : Scan Char := fun text =>
  let digits := text.take count
  if digits.length < count then none
  else
    (numberIn? 16 hexValue? digits).bind fun point =>
      if point.isValidChar then some (Char.ofNat point, text.drop count) else none

/-- What a character after a backslash stands for, in the escapes of one letter that TOML has. -/
def shortEscape? (c : Char) : Option Char :=
  if c = '"' ∨ c = '\\' then some c
  else if c = 'b' then some '\x08'
  else if c = 't' then some '\t'
  else if c = 'n' then some '\n'
  else if c = 'f' then some '\x0c'
  else if c = 'r' then some '\r'
  else none

def isSpacing (c : Char) : Bool := c == ' ' || c == '\t'

def skipSpacing (text : List Char) : List Char := text.dropWhile isSpacing

def isKeyChar (c : Char) : Bool := c.isAlphanum || c == '_' || c == '-'

end CommandGate.Text
