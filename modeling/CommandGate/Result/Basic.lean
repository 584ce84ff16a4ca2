import CommandGate.Command.Basic
/-!
Results of dispatching: one per tool call, and the list of them for a chain.
-/
namespace CommandGate

/-- What became of one tool call. A cancelled call was dangerous and not confirmed; it is held as
`command`, ready to be sent again. -/
inductive ExecutionResult where
  | success (result : Json)
  | error (message : String)
  | cancelled (action message : String) (needsConfirmation : Bool) (command : ToolCall)

inductive DispatchResult where
  | single (result : ExecutionResult)
  | chain (results : List ExecutionResult)

namespace ExecutionResult

def held (call : ToolCall) : ExecutionResult :=
  .cancelled call.action (call.action ++ " is a dangerous action and requires confirmation") true
    call.confirmed

def isSuccess : ExecutionResult → Bool
  | success _ => true
  | _ => false

def isError : ExecutionResult → Bool
  | error _ => true
  | _ => false

end ExecutionResult

def DispatchResult.results : DispatchResult → List ExecutionResult
  | single result => [result]
  | chain results => results

end CommandGate
