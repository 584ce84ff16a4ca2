import CommandGate.Command.Json
import CommandGate.Json.Writer
import CommandGate.Settings.Basic
import CommandGate.Text.Lowercase
import CommandGate.Text.Search
/-!
The policy in front of the dispatcher. Every node of a command passes its own tests in a fixed order:
it can be dispatched, its action is allowed, no denied pattern occurs in its compact text, and the
authorizer accepts it. A chain is tested before its tasks, the tasks left to right, and the first
failure is the rejection. A chain itself needs no allowance; its leaves do.
-/
namespace CommandGate

inductive Rejection where
  | malformed (source : CommandError)
  | notDispatchable
  | notAllowed (action : String)
  | deniedPattern (pattern : String)
  | unauthorized (action : String)
  | chainTask (index : Nat) (source : Rejection)
  deriving DecidableEq

def Rejection.message : Rejection → String
  | malformed source => "malformed command: " ++ source.message
  | notDispatchable => "not an executable command"
  | notAllowed action => "action '" ++ action ++ "' is not allowed"
  | deniedPattern pattern => "command contains a denied pattern '" ++ pattern ++ "'"
  | unauthorized action => "not authorized to run '" ++ action ++ "'"
  | chainTask index source => "chain task " ++ toString index ++ ": " ++ source.message

/-- Patterns are in lower case and not empty where the policy comes from settings. -/
structure Policy where
  allowed : List String
  denied : List String
  authorize : Command → Bool

namespace Policy

def ofSettings (settings : PolicySettings) (authorize : Command → Bool) : Policy where
  allowed := settings.allowedActions
  denied := (settings.deniedPatterns.filter (· != "")).map Text.lowercase
  authorize := authorize

def permitAll : Command → Bool := fun _ => true

def scannedText (command : Command) : List Char := Text.lower command.toJson.write

def deniedPattern? (policy : Policy) (command : Command) : Option String :=
  let text := scannedText command
  policy.denied.find? fun pattern => Text.contains pattern.toList text

def shapeFault? (policy : Policy) : Command → Option Rejection
  | .tool call => if policy.allowed.contains call.action then none else some (.notAllowed call.action)
  | .chain _ => none
  | .text _ => some .notDispatchable
  | .error _ => some .notDispatchable

def nodeFault? (policy : Policy) (command : Command) : Option Rejection :=
  match policy.shapeFault? command with
  | some rejection => some rejection
  | none =>
    match policy.deniedPattern? command with
    | some pattern => some (.deniedPattern pattern)
    | none =>
      if policy.authorize command then none
      else some (.unauthorized (command.action?.getD ""))

mutual

def check (policy : Policy) (command : Command) : Except Rejection Unit :=
  match policy.nodeFault? command with
  | some rejection => .error rejection
  | none =>
    match command with
    | .chain tasks => checkTasks policy 0 tasks
    | _ => .ok ()

def checkTasks (policy : Policy) (index : Nat) : List Command → Except Rejection Unit
  | [] => .ok ()
  | task :: tasks =>
    match check policy task with
    | .error rejection => .error (.chainTask index rejection)
    | .ok _ => checkTasks policy (index + 1) tasks

end

def accepts (policy : Policy) (command : Command) : Bool :=
  match policy.check command with
  | .ok _ => true
  | .error _ => false

def acceptsJson (policy : Policy) (value : Json) : Bool :=
  match Command.ofJson value with
  | .ok command => policy.accepts command
  | .error _ => false

end Policy

end CommandGate
