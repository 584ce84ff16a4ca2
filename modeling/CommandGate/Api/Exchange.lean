import CommandGate.Api.MediaType
import CommandGate.Api.Message
import CommandGate.Text.Search
/-!
Requests and responses of the HTTP interface. A body that is read has to be declared as JSON, to be no
larger than the limit, to be JSON, and to have the form asked for, in that order.
-/
namespace CommandGate.Api

structure Request where
  method : String
  target : String
  contentType : Option String
  body : String

inductive Body where
  | text (value : String)
  | json (value : Json)

structure Response where
  status : Nat
  body : Body

inductive Failure where
  | badRequest (message : String)
  | notFound (message : String)
  | internal (message : String)
  deriving DecidableEq

namespace Failure

def status : Failure → Nat
  | badRequest _ => 400
  | notFound _ => 404
  | internal _ => 500

def message : Failure → String
  | badRequest message => message
  | notFound message => message
  | internal message => message

def response (failure : Failure) : Response :=
  ⟨failure.status, .json (StatusMessage.error failure.message).toJson⟩

end Failure

inductive BodyFault where
  | undeclared
  | tooLarge
  | unreadable (fault : Json.Fault)
  deriving DecidableEq

def BodyFault.message : BodyFault → String
  | undeclared => "Expected request with `Content-Type: application/json`"
  | tooLarge => "Failed to buffer the request body: length limit exceeded"
  | unreadable .malformed =>
    "Failed to parse the request body as JSON: " ++ Json.Fault.malformed.message
  | unreadable .mismatch =>
    "Failed to deserialize the JSON body into the target type: " ++ Json.Fault.mismatch.message

namespace Request

def bodyLimit : Nat := 2097152

def readBody {α : Type} (request : Request) (decoder : Decoder α) : Except BodyFault α :=
  if !request.contentType.any declaresJson then .error .undeclared
  else if bodyLimit < request.body.utf8ByteSize then .error .tooLarge
  else
    match decoder.ofText request.body with
    | .ok value => .ok value
    | .error fault => .error (.unreadable fault)

def body? {α : Type} (request : Request) (decoder : Decoder α) : Except Failure α :=
  match request.readBody decoder with
  | .ok value => .ok value
  | .error fault => .error (.badRequest ("Invalid request body: " ++ fault.message))

/-- A target in absolute form without its scheme and authority; any other target as it is. -/
def localTarget (target : List Char) : List Char :=
  match target with
  | '/' :: _ => target
  | _ =>
    match Text.splitAtFirst [':', '/', '/'] target with
    | some (_, after) => after.dropWhile fun c => c != '/' && c != '?' && c != '#'
    | none => target

def path (request : Request) : String :=
  String.ofList ((localTarget request.target.toList).takeWhile fun c => c != '?' && c != '#')

end Request

end CommandGate.Api
