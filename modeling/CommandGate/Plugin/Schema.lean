import CommandGate.Json.Value
import CommandGate.Number.DecimalText
import CommandGate.Text.Blank
/-!
Coarse types of parameters. The leading word of the hint that an action declares decides the kind;
other hints take any value. A string stands for a number where a number is asked for. Undeclared
parameters pass as they are.
-/
namespace CommandGate

open Number

inductive ParameterKind where
  | string
  | number
  | integer
  | boolean
  | array
  | object
  | any
  deriving DecidableEq, Repr

inductive SchemaError where
  | missing (name : String)
  | wrongType (name : String) (expected : ParameterKind)
  deriving DecidableEq

namespace ParameterKind

def describe : ParameterKind → String
  | string => "a string"
  | number => "a number"
  | integer => "an integer"
  | boolean => "a boolean"
  | array => "an array"
  | object => "an object"
  | any => "any value"

def leadingWord (hint : String) : String :=
  String.ofList (((Text.trimStart hint.toList).takeWhile Char.isAlpha).map Char.toLower)

def ofWord (word : String) : ParameterKind :=
  if word ∈ ["string", "str", "text"] then string
  else if word ∈ ["number", "float"] then number
  else if word ∈ ["integer", "int"] then integer
  else if word ∈ ["boolean", "bool"] then boolean
  else if word ∈ ["array", "list"] then array
  else if word ∈ ["object", "map"] then object
  else any

def ofHint (hint : String) : ParameterKind := ofWord (leadingWord hint)

/-- The number that a string stands for: a signed 64-bit whole number, else a finite double. -/
def numberOfText? (text : String) : Option Json :=
  let trimmed := Text.trim text.toList
  match signedWord? trimmed with
  | some n => some (.whole n)
  | none =>
    match extended? double trimmed with
    | some (.finite x) => some (.number (.real x))
    | _ => none

def integerOfText? (text : String) : Option Json :=
  ((digits? (Text.trim text.toList)).filter (· < Nat.pow 2 64)).map fun n => .whole n

def accept : ParameterKind → Json → Option Json
  | any, value => some value
  | string, .string value => some (.string value)
  | boolean, .bool value => some (.bool value)
  | array, .array items => some (.array items)
  | object, .object members => some (.object members)
  | number, .number value => some (.number value)
  | number, .string text => numberOfText? text
  | integer, .number (.whole n) => some (.whole n)
  | integer, .string text => integerOfText? text
  | _, _ => none

end ParameterKind

def SchemaError.message : SchemaError → String
  | missing name => "missing parameter '" ++ name ++ "'"
  | wrongType name expected => "parameter '" ++ name ++ "' must be " ++ expected.describe

namespace Schema

def fault? (parameters : Fields) (name hint : String) : Option SchemaError :=
  match parameters.get? name with
  | none => some (.missing name)
  | some .null => some (.missing name)
  | some value =>
    match (ParameterKind.ofHint hint).accept value with
    | some _ => none
    | none => some (.wrongType name (.ofHint hint))

def passOn (schema : Members String) (name : String) (value : Json) : Json :=
  match schema.get? name with
  | some hint => ((ParameterKind.ofHint hint).accept value).getD value
  | none => value

def check (schema : Members String) (parameters : Fields) : Except SchemaError Fields :=
  match schema.findSome? fun (name, hint) => fault? parameters name hint with
  | some fault => .error fault
  | none => .ok (parameters.map fun (name, value) => (name, passOn schema name value))

end Schema

end CommandGate
