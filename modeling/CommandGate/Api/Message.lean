import CommandGate.Decoder
/-!
The bodies of requests and answers of the HTTP interface.
-/
namespace CommandGate

open Decoder

/-- The body of a command request: free text, or a command sent again as it is. -/
inductive CommandRequest where
  | text (userInput : String)
  | resubmit (command : Json)

structure ChatRequest where
  message : String

structure StatusMessage where
  status : String
  message : String

structure EmailStatus where
  emailConfigured : Bool

namespace CommandRequest

def toJson : CommandRequest → Json
  | text userInput => .object [("user_input", .string userInput)]
  | resubmit command => .object [("command", command)]

/-- The one member of an object that has the name. -/
def only? (name : String) (members : Fields) : Option Json :=
  match members.filter (·.1 == name) with
  | [(_, value)] => some value
  | _ => none

/-- Free text if the object has one string under `user_input`, else the one `command`. -/
def ofJson? : Json → Option CommandRequest
  | .object members =>
    match only? "user_input" members with
    | some (.string userInput) => some (.text userInput)
    | _ => (only? "command" members).map fun command => .resubmit command.arrange
  | _ => none

def decoder : Decoder CommandRequest := .buffered ofJson?

end CommandRequest

namespace ChatRequest

def toJson (request : ChatRequest) : Json := .object [("message", .string request.message)]

def decoder : Decoder ChatRequest :=
  .record ⟨""⟩ [.needed "message" .text fun message _ => ⟨message⟩]

end ChatRequest

namespace StatusMessage

def success (message : String) : StatusMessage := ⟨"success", message⟩

def error (message : String) : StatusMessage := ⟨"error", message⟩

def toJson (answer : StatusMessage) : Json :=
  .object [("message", .string answer.message), ("status", .string answer.status)]

def decoder : Decoder StatusMessage :=
  .record ⟨"", ""⟩ [
    .needed "status" .text fun status answer => { answer with status },
    .needed "message" .text fun message answer => { answer with message }]

end StatusMessage

namespace EmailStatus

def toJson (status : EmailStatus) : Json :=
  .object [("email_configured", .bool status.emailConfigured)]

def decoder : Decoder EmailStatus :=
  .record ⟨false⟩ [.needed "email_configured" .bool fun configured _ => ⟨configured⟩]

end EmailStatus

end CommandGate
