import CommandGate.Json.Writer
import CommandGate.Plugin.Action
import CommandGate.Text.Quoted
/-!
The account that mails are sent from, read out of parameters. The parameters are looked at in their
own order and the first value of a wrong type is the fault; after that the first missing field in
declared order is. Other parameters are ignored.
-/
namespace CommandGate.Mail

structure Account where
  server : String
  port : Nat
  email : String
  password : String
  deriving DecidableEq, Repr

def shownValue : Json → String
  | .null => "null"
  | .bool value => "boolean `" ++ (if value then "true" else "false") ++ "`"
  | .number (.whole n) => "integer `" ++ toString n ++ "`"
  | .number (.real x) => "floating point `" ++ String.ofList (Numeral.real x).write ++ "`"
  | .string value => "string " ++ Text.quoted value
  | .array _ => "sequence"
  | .object _ => "map"

def readText : Json → Except String String
  | .string value => .ok value
  | value => .error ("invalid type: " ++ shownValue value ++ ", expected a string")

def readPort : Json → Except String Nat
  | .number (.whole n) =>
    if 0 ≤ n ∧ n < 65536 then .ok n.toNat
    else .error ("invalid value: " ++ shownValue (.whole n) ++ ", expected u16")
  | value => .error ("invalid type: " ++ shownValue value ++ ", expected u16")

def typeFault? (name : String) (value : Json) : Option String :=
  if name = "smtp_port" then
    match readPort value with
    | .error fault => some fault
    | .ok _ => none
  else if name ∈ ["smtp_server", "email", "password"] then
    match readText value with
    | .error fault => some fault
    | .ok _ => none
  else none

def field {α : Type} (read : Json → Except String α) (parameters : Fields) (name : String) :
    Except String α :=
  match parameters.get? name with
  | some value => read value
  | none => .error ("missing field `" ++ name ++ "`")

namespace Account

def ofParameters (parameters : Fields) : Except String Account :=
  match parameters.findSome? fun (name, value) => typeFault? name value with
  | some fault => .error fault
  | none => do
    let server ← field readText parameters "smtp_server"
    let port ← field readPort parameters "smtp_port"
    let email ← field readText parameters "email"
    let password ← field readText parameters "password"
    return ⟨server, port, email, password⟩

end Account

def breaksLine (text : String) : Bool := text.toList.any fun c => c == '\r' || c == '\n'

namespace Account

def check (account : Account) : Except ActionError Unit :=
  if Text.isBlankText account.server || Text.isBlankText account.email || account.password == "" then
    .error (.invalidParameters "All parameters are required")
  else if breaksLine account.email || breaksLine account.server then
    .error (.invalidParameters "email and smtp_server must be a single line")
  else .ok ()

def configured (parameters : Fields) : Except ActionError Account :=
  match ofParameters parameters with
  | .error fault => .error (.invalidParameters fault)
  | .ok account => account.check.map fun _ => account

end Account

end CommandGate.Mail
