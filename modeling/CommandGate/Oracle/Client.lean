import CommandGate.Http.Client
import CommandGate.Oracle.Generator
/-!
The oracle behind an HTTP server. A reply with a text under `error` reports a failure of the server,
whatever its status is; otherwise the status decides, and then whether there is a generated text.
-/
namespace CommandGate

namespace OracleError

def ofFault : Http.Fault → OracleError
  | .timedOut _ => .timeout
  | .cutShort url => .badResponse (Http.Fault.cutShort url).message
  | fault => .connection fault.message

end OracleError

def backendFailure? : Json → Option String
  | .object members =>
    match members.filter (·.1 == "error") with
    | [(_, .string reason)] => some reason
    | _ => none
  | _ => none

def GenerateReply.classify (status : Nat) (body : String) : Except OracleError GenerateReply :=
  let isSuccess := 200 ≤ status && status < 300
  match Json.readDocument Json.nesting body.toList with
  | .error fault =>
    if isSuccess then .error (.badResponse fault.message) else .error (.status status body)
  | .ok document =>
    match backendFailure? document with
    | some reason => .error (.backend reason)
    | none =>
      if !isSuccess then .error (.status status body)
      else
        match GenerateReply.ofJson? document with
        | some reply => .ok reply
        | none => .error (.badResponse Json.Fault.mismatch.message)

namespace OracleSettings

variable {σ : Type}

def endpoint (settings : OracleSettings) (path : String) : String :=
  Http.baseOf settings.baseUrl ++ path

def generate (settings : OracleSettings) (network : Http.Network σ) (request : GenerateRequest)
    (state : σ) : Except OracleError GenerateReply × σ :=
  match Http.Request.build "POST" (settings.endpoint "/api/generate") none (some request.toJson)
      (some settings.timeoutSecs) with
  | .error fault => (.error (.ofFault fault), state)
  | .ok message =>
    match message.send network state with
    | (.error fault, state) => (.error (.ofFault fault), state)
    | (.ok reply, state) =>
      match reply.body with
      | none => (.error (.ofFault (.cutShort message.url)), state)
      | some body => (GenerateReply.classify reply.status body, state)

def checkPatience : Nat := 5

def check (settings : OracleSettings) (network : Http.Network σ) (state : σ) :
    Except OracleError Unit × σ :=
  match Http.Request.build "GET" (settings.endpoint "/api/tags") none none (some checkPatience) with
  | .error fault => (.error (.ofFault fault), state)
  | .ok message =>
    match message.send network state with
    | (.error fault, state) => (.error (.ofFault fault), state)
    | (.ok reply, state) =>
      if reply.isSuccess then (.ok (), state)
      else (.error (.status reply.status (reply.body.getD "")), state)

def client (settings : OracleSettings) (network : Http.Network σ) : Oracle σ where
  generate := settings.generate network
  check := settings.check network

end OracleSettings

end CommandGate
