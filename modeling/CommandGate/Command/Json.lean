import CommandGate.Command.Basic
/-!
Commands as JSON values. Reading is loose: unknown members are ignored, absent and null members take
their defaults, and the shape is chosen by which members are present. A value without `action` whose
`status` is a string is a reply; anything else needs an `action`. The first refused task of a chain,
left to right, is the one reported.
-/
namespace CommandGate

def textStatus : String := "text_response"

def errorStatus : String := "error"

def ToolCall.toJson (call : ToolCall) : Json :=
  .object <|
    ("action", .string call.action) ::
      match call.confirm with
      | some confirm => [("confirm", .bool confirm), ("parameters", .object call.parameters)]
      | none => [("parameters", .object call.parameters)]

namespace Command

mutual

def toJson : Command → Json
  | .tool call => call.toJson
  | .chain tasks => .object [("action", .string chainAction), ("tasks", .array (toJsonAll tasks))]
  | .text message => .object [("message", .string message), ("status", .string textStatus)]
  | .error message => .object [("message", .string message), ("status", .string errorStatus)]

def toJsonAll : List Command → List Json
  | [] => []
  | task :: tasks => toJson task :: toJsonAll tasks

end

/-- What the members of a command object say apart from the tasks of a chain. -/
inductive Head where
  | tool (call : ToolCall)
  | chain
  | text (message : String)
  | error (message : String)

def replyHead (status : String) (members : Fields) : Except CommandError Head :=
  let message : Except CommandError String :=
    match members.get? "message" with
    | some (.string message) => .ok message
    | some .null => .ok ""
    | none => .ok ""
    | some _ => .error (.badField .message)
  message.bind fun message =>
    if status = textStatus then .ok (.text message)
    else if status = errorStatus then .ok (.error message)
    else .error .missingAction

def parametersOf (members : Fields) : Except CommandError Fields :=
  match members.get? "parameters" with
  | some (.object parameters) => .ok parameters
  | some .null => .ok []
  | none => .ok []
  | some _ => .error (.badField .parameters)

def confirmOf (members : Fields) : Except CommandError (Option Bool) :=
  match members.get? "confirm" with
  | some (.bool confirm) => .ok (some confirm)
  | some .null => .ok none
  | none => .ok none
  | some _ => .error (.badField .confirm)

def actionHead (action : Json) (members : Fields) : Except CommandError Head :=
  match action with
  | .string action =>
    if action = chainAction then .ok .chain
    else
      (parametersOf members).bind fun parameters =>
        (confirmOf members).map fun confirm => .tool ⟨action, parameters, confirm⟩
  | _ => .error (.badField .action)

def headOf (members : Fields) : Except CommandError Head :=
  match members.get? "action" with
  | some action => actionHead action members
  | none =>
    match members.get? "status" with
    | some (.string status) => replyHead status members
    | _ => .error .missingAction

mutual

def ofJson : Json → Except CommandError Command
  | .object members =>
    match headOf members with
    | .error fault => .error fault
    | .ok (.tool call) => .ok (.tool call)
    | .ok (.text message) => .ok (.text message)
    | .ok (.error message) => .ok (.error message)
    | .ok .chain =>
      match tasksIn members with
      | .error fault => .error fault
      | .ok tasks => .ok (.chain tasks)
  | _ => .error .notAnObject

def tasksIn : List (String × Json) → Except CommandError (List Command)
  | [] => .ok []
  | (name, value) :: members => if name = "tasks" then tasksOf value else tasksIn members

def tasksOf : Json → Except CommandError (List Command)
  | .array items => ofJsonAll 0 items
  | .null => .ok []
  | _ => .error (.badField .tasks)

def ofJsonAll (index : Nat) : List Json → Except CommandError (List Command)
  | [] => .ok []
  | item :: items =>
    match ofJson item with
    | .error source => .error (.task index source)
    | .ok task =>
      match ofJsonAll (index + 1) items with
      | .error fault => .error fault
      | .ok tasks => .ok (task :: tasks)

end

end Command

end CommandGate
