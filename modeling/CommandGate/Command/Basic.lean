import CommandGate.Json.Value
/-!
Commands: a call of one tool, a chain of commands, or a reply of the oracle in prose or as an error.
The leaves of a command are its tool calls, left to right, at any depth of chains.
-/
namespace CommandGate

/-- The reserved action name of a chain. -/
def chainAction : String := "chain"

/-- One action with its parameters. A call may carry its own confirmation. -/
structure ToolCall where
  action : String
  parameters : Fields
  confirm : Option Bool

inductive Command where
  | tool (call : ToolCall)
  | chain (tasks : List Command)
  | text (message : String)
  | error (message : String)

inductive CommandField where
  | action
  | parameters
  | confirm
  | tasks
  | message
  deriving DecidableEq, Repr

def CommandField.name : CommandField → String
  | action => "action"
  | parameters => "parameters"
  | confirm => "confirm"
  | tasks => "tasks"
  | message => "message"

inductive CommandError where
  | notAnObject
  | missingAction
  | badField (field : CommandField)
  | task (index : Nat) (source : CommandError)
  deriving DecidableEq, Repr

def CommandError.message : CommandError → String
  | notAnObject => "command is not a JSON object"
  | missingAction => "command has no 'action'"
  | badField field => "field '" ++ field.name ++ "' has the wrong type"
  | task index source => "chain task " ++ toString index ++ ": " ++ source.message

namespace ToolCall

def confirmed (call : ToolCall) : ToolCall := { call with confirm := some true }

/-- Confirmed by its own flag or by a parameter `confirm` that is true. -/
def isConfirmed (call : ToolCall) : Bool :=
  call.confirm == some true ||
    match call.parameters.get? "confirm" with
    | some (.bool true) => true
    | _ => false

end ToolCall

namespace Command

def isDispatchable : Command → Bool
  | tool _ => true
  | chain _ => true
  | text _ => false
  | error _ => false

/-- The action of a tool call, the reserved name for a chain, none for a reply. -/
def action? : Command → Option String
  | tool call => some call.action
  | chain _ => some chainAction
  | text _ => none
  | error _ => none

mutual

def leaves : Command → List ToolCall
  | .tool call => [call]
  | .chain tasks => leavesOfAll tasks
  | .text _ => []
  | .error _ => []

def leavesOfAll : List Command → List ToolCall
  | [] => []
  | task :: tasks => leaves task ++ leavesOfAll tasks

end

theorem leavesOfAll_append (xs ys : List Command) :
    leavesOfAll (xs ++ ys) = leavesOfAll xs ++ leavesOfAll ys := by
  induction xs with
  | nil => rfl
  | cons x xs ih => simp [leavesOfAll, ih]

end Command

end CommandGate
