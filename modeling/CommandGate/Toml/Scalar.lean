import CommandGate.Config.Tree
import CommandGate.Number.DecimalText
import CommandGate.Text.Scan
import CommandGate.Text.Search
/-!
Values of TOML that are written without quotes: truth values, whole numbers of 64 bits, doubles, dates
and times. Digits may be grouped by single underscores. A date or time stands in a configuration as a
table with one entry of a reserved name.
-/
namespace CommandGate.Toml

open Number Text Config

def ungrouped? (isMember : Char → Bool) (text : List Char) : Option (List Char) :=
  let groups := splitOn '_' text
  if groups.all fun group => !group.isEmpty && group.all isMember then some groups.flatten else none

def leadingDigits? (text : List Char) : Option (List Char) :=
  (ungrouped? Char.isDigit text).filter fun digits =>
    match digits with
    | '0' :: _ :: _ => false
    | _ => true

def digitIn? (base : Nat) (c : Char) : Option Nat := (hexValue? c).filter (· < base)

def wholeIn? (base : Nat) (text : List Char) : Option Int :=
  (ungrouped? (fun c => (digitIn? base c).isSome) text).bind fun digits =>
    (numberIn? base (digitIn? base) digits).map Int.ofNat

/-- A whole number of 64 bits; only a decimal one has a sign. -/
def whole? (text : List Char) : Option Int :=
  let value :=
    match text with
    | '0' :: 'x' :: digits => wholeIn? 16 digits
    | '0' :: 'o' :: digits => wholeIn? 8 digits
    | '0' :: 'b' :: digits => wholeIn? 2 digits
    | text =>
      let (negative, digits) := splitSign text
      (leadingDigits? digits).map fun digits =>
        if negative then -(natOfDigits digits : Int) else natOfDigits digits
  value.filter fun n => -Int.pow 2 63 ≤ n && n < Int.pow 2 63

def power? : List Char → Option (List Char)
  | [] => some []
  | c :: text =>
    if c = 'e' ∨ c = 'E' then
      let (negative, digits) := splitSign text
      (ungrouped? Char.isDigit digits).map fun digits =>
        'e' :: (if negative then ['-'] else []) ++ digits
    else none

def plainReal? (text : List Char) : Option (List Char) :=
  let isPart (c : Char) : Bool := c.isDigit || c == '_'
  (leadingDigits? (text.takeWhile isPart)).bind fun before =>
    match text.dropWhile isPart with
    | '.' :: rest =>
      (ungrouped? Char.isDigit (rest.takeWhile isPart)).bind fun after =>
        (power? (rest.dropWhile isPart)).map fun power => before ++ '.' :: after ++ power
    | c :: rest => (power? (c :: rest)).map fun power => before ++ power
    | [] => none

/-- A double; a positive number beyond the largest one is refused. -/
def real? (text : List Char) : Option Extended :=
  let (negative, body) := splitSign text
  if body = ['i', 'n', 'f'] then some (.infinite negative)
  else if body = ['n', 'a', 'n'] then some .undefined
  else
    (plainReal? body).bind fun digits =>
      (extended? double (if negative then '-' :: digits else digits)).filter fun value =>
        match value with
        | .infinite false => false
        | _ => true

def scanDigits (count : Nat) : Scan Nat := fun text =>
  let digits := text.take count
  if digits.length = count then (digits? digits).map fun n => (n, text.drop count) else none

def scanMark (mark : Char) : Scan Unit
  | c :: rest => if c = mark then some ((), rest) else none
  | [] => none

def isLeapYear (year : Nat) : Bool := year % 4 == 0 && (year % 100 != 0 || year % 400 == 0)

def daysIn (year month : Nat) : Nat :=
  if month = 2 then if isLeapYear year then 29 else 28
  else if month ∈ [4, 6, 9, 11] then 30
  else 31

def scanDate : Scan Unit := fun text => do
  let (year, text) ← scanDigits 4 text
  let (_, text) ← scanMark '-' text
  let (month, text) ← scanDigits 2 text
  let (_, text) ← scanMark '-' text
  let (day, text) ← scanDigits 2 text
  if 1 ≤ month ∧ month ≤ 12 ∧ 1 ≤ day ∧ day ≤ daysIn year month then some ((), text) else none

def scanClock : Scan Unit := fun text => do
  let (hour, text) ← scanDigits 2 text
  let (_, text) ← scanMark ':' text
  let (minute, text) ← scanDigits 2 text
  if hour < 24 ∧ minute < 60 then some ((), text) else none

def scanTime : Scan Unit := fun text => do
  let (_, text) ← scanClock text
  let (_, text) ← scanMark ':' text
  let (second, text) ← scanDigits 2 text
  if 60 < second then none
  else
    match text with
    | '.' :: rest =>
      if (rest.takeWhile Char.isDigit).isEmpty then none else some ((), rest.dropWhile Char.isDigit)
    | text => some ((), text)

def isOffset : List Char → Bool
  | [] => true
  | c :: text =>
    if c = 'Z' ∨ c = 'z' then text.isEmpty
    else if c = '+' ∨ c = '-' then (scanClock text).any (·.2.isEmpty)
    else false

def isMoment (text : List Char) : Bool :=
  match scanDate text with
  | some (_, []) => true
  | some (_, c :: rest) =>
    (c == 'T' || c == 't' || c == ' ') && (scanTime rest).any fun (_, rest) => isOffset rest
  | none => (scanTime text).any (·.2.isEmpty)

def momentKey : String := "$__toml_private_datetime"

def scalar? (text : List Char) : Option Tree :=
  if text = ['t', 'r', 'u', 'e'] then some (.bool true)
  else if text = ['f', 'a', 'l', 's', 'e'] then some (.bool false)
  else if isMoment text then some (.table [(momentKey, .text (String.ofList text))])
  else
    match whole? text with
    | some n => some (.whole n)
    | none => (real? text).map .real

def isScalarChar (c : Char) : Bool :=
  c.isAlphanum || c == '_' || c == '+' || c == '-' || c == '.' || c == ':'

def scanScalar : Scan Tree := fun text =>
  let first := text.takeWhile isScalarChar
  let rest := text.dropWhile isScalarChar
  let found :=
    match scanDate first, rest with
    | some (_, []), ' ' :: after =>
      let time := after.takeWhile isScalarChar
      if (scanTime time).isSome then (first ++ ' ' :: time, after.dropWhile isScalarChar)
      else (first, rest)
    | _, _ => (first, rest)
  (scalar? found.1).map fun tree => (tree, found.2)

end CommandGate.Toml
