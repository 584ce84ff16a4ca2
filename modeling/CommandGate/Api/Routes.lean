import CommandGate.Api.Exchange
import CommandGate.Gate
import CommandGate.Plugin.Schema
import CommandGate.Result.Json
/-!
The HTTP interface of a gate. Commands and chat messages are posted; the capabilities and the state of
the mail account can be read. The mail account is configured past the policy, once the body fits the
parameters that the action declares; the handlers of these two mail actions run unguarded, so a crash
there ends the exchange without a response.
-/
namespace CommandGate

namespace Api

inductive Endpoint where
  | health
  | command
  | chat
  | capabilities
  | configureEmail
  | emailStatus
  deriving DecidableEq, Repr

namespace Endpoint

def path : Endpoint → String
  | health => "/api/health"
  | command => "/command"
  | chat => "/chat"
  | capabilities => "/capabilities"
  | configureEmail => "/configure_email"
  | emailStatus => "/email_status"

def all : List Endpoint := [health, command, chat, capabilities, configureEmail, emailStatus]

def ofPath? (path : String) : Option Endpoint := all.find? (·.path == path)

def isRead : Endpoint → Bool
  | health => true
  | command => false
  | chat => false
  | capabilities => true
  | configureEmail => false
  | emailStatus => true

/-- What is read may also be asked for without its body. -/
def allows (endpoint : Endpoint) (method : String) : Bool :=
  if endpoint.isRead then method == "GET" || method == "HEAD" else method == "POST"

end Endpoint

inductive Ending where
  | response (response : Response)
  | aborted (trace : Option String)

namespace Ending

def withoutBody : Ending → Ending
  | .response answer => .response { answer with body := .text "" }
  | .aborted trace => .aborted trace

end Ending

/-- The response that tells how a command ended. Only a single error counts as a failure of the
server: the errors of a chain stand among its results. -/
def outcomeResponse : Outcome → Response
  | .text message =>
    ⟨200, .json (.object [("message", .string message), ("status", .string "text_response")])⟩
  | .failed message => (Failure.internal message).response
  | .rejected rejection =>
    (Failure.internal ("Unauthorized or invalid command: " ++ rejection.message)).response
  | .dispatched (.single (.error message)) =>
    ⟨500, .json (DispatchResult.single (.error message)).toJson⟩
  | .dispatched result => ⟨200, .json result.toJson⟩

end Api

namespace Gate

open Api

variable {σ : Type}

def runCommand (gate : Gate σ) (request : Request) (world : World σ) : Ending × World σ :=
  match request.body? CommandRequest.decoder with
  | .error failure => (.response failure.response, world)
  | .ok (.text userInput) =>
    if Text.isBlankText userInput then
      (.response (Failure.badRequest "'user_input' is empty").response, world)
    else
      let (outcome, world) := gate.handleText userInput world
      (.response (outcomeResponse outcome), world)
  | .ok (.resubmit command) =>
    let (outcome, world) := gate.handleValue command world
    (.response (outcomeResponse outcome), world)

def runChat (gate : Gate σ) (request : Request) (world : World σ) : Ending × World σ :=
  match request.body? ChatRequest.decoder with
  | .error failure => (.response failure.response, world)
  | .ok chat =>
    match gate.chat chat.message world with
    | (.ok reply, world) => (.response ⟨200, .json reply.toJson⟩, world)
    | (.error error, world) =>
      (.response (Failure.internal ("LLM error: " ++ error.message)).response, world)

def listCapabilities (gate : Gate σ) : Response :=
  ⟨200, .json (.array (gate.registry.describe.map Capability.toJson))⟩

/-- The parameters of a mail configuration that fit the action and name an address. -/
def mailParameters (action : Action σ) (parameters : Fields) : Except Failure Fields :=
  match Schema.check action.parameters parameters with
  | .error fault => .error (.badRequest fault.message)
  | .ok checked =>
    match checked.get? "email" with
    | some (.string email) =>
      if email.toList.contains '@' then .ok checked
      else .error (.badRequest "'email' is not a valid address")
    | _ => .error (.badRequest "'email' is not a valid address")

def configuredResponse : Answer → Ending
  | .done result =>
    let message :=
      match result.get? "message" with
      | some (.string message) => message
      | _ => "SMTP settings saved"
    .response ⟨200, .json (StatusMessage.success message).toJson⟩
  | .failed (.invalidParameters reason) =>
    .response (Failure.badRequest (ActionError.invalidParameters reason).message).response
  | .failed error => .response (Failure.internal error.message).response
  | .crashed trace => .aborted trace

def configureEmail (gate : Gate σ) (request : Request) (world : World σ) : Ending × World σ :=
  match request.body? (.mapping .any) with
  | .error failure => (.response failure.response, world)
  | .ok parameters =>
    match gate.registry.lookup "configure_email" with
    | none => (.response (Failure.notFound "Email plugin is not loaded").response, world)
    | some action =>
      match mailParameters action parameters with
      | .error failure => (.response failure.response, world)
      | .ok parameters =>
        let (answer, world) := action.invoke "configure_email" parameters world
        (configuredResponse answer, world)

def statusResponse : Answer → Ending
  | .done result =>
    match EmailStatus.decoder.accept result with
    | some status => .response ⟨200, .json status.toJson⟩
    | none =>
      .response
        (Failure.internal ("Unexpected email status: " ++ Json.Fault.mismatch.message)).response
  | .failed error => .response (Failure.internal error.message).response
  | .crashed trace => .aborted trace

def emailStatus (gate : Gate σ) (world : World σ) : Ending × World σ :=
  match gate.registry.lookup "email_status" with
  | none => (.response ⟨200, .json (EmailStatus.toJson ⟨false⟩)⟩, world)
  | some action =>
    let (answer, world) := action.invoke "email_status" [] world
    (statusResponse answer, world)

def runEndpoint (gate : Gate σ) (endpoint : Endpoint) (request : Request) (world : World σ) :
    Ending × World σ :=
  match endpoint with
  | .health => (.response ⟨200, .text "OK"⟩, world)
  | .command => gate.runCommand request world
  | .chat => gate.runChat request world
  | .capabilities => (.response gate.listCapabilities, world)
  | .configureEmail => gate.configureEmail request world
  | .emailStatus => gate.emailStatus world

/-- Answers a request. An `OPTIONS` request is answered for every target: any origin may ask. -/
def serve (gate : Gate σ) (request : Request) (world : World σ) : Ending × World σ :=
  if request.method == "OPTIONS" then (.response ⟨200, .text ""⟩, world)
  else
    match Endpoint.ofPath? request.path with
    | none => (.response ⟨404, .text ""⟩, world)
    | some endpoint =>
      if !endpoint.allows request.method then (.response ⟨405, .text ""⟩, world)
      else
        let (ending, world) := gate.runEndpoint endpoint request world
        (if request.method == "HEAD" then ending.withoutBody else ending, world)

end Gate

end CommandGate
