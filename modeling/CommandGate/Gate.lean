import CommandGate.Extract
import CommandGate.Oracle.Generator
import CommandGate.Policy
/-!
The gate: a request in free text is turned into a command by the oracle, a structured one is taken as
it is, and a command is dispatched only after the policy has accepted the whole of it. Replies in
prose and error replies end before the policy.
-/
namespace CommandGate

inductive Outcome where
  | text (message : String)
  | failed (message : String)
  | rejected (rejection : Rejection)
  | dispatched (result : DispatchResult)

structure Gate (σ : Type) where
  registry : Registry σ
  oracle : Oracle σ
  settings : OracleSettings
  policy : Policy
  dangerousActions : List String

namespace Gate

variable {σ : Type}

def ofSettings (registry : Registry σ) (oracle : Oracle σ) (settings : Settings)
    (authorize : Command → Bool) : Gate σ where
  registry := registry
  oracle := oracle
  settings := settings.oracle
  policy := .ofSettings settings.policy authorize
  dangerousActions := settings.policy.dangerousActions

def dispatcher (gate : Gate σ) : Dispatcher σ := ⟨gate.registry, gate.dangerousActions⟩

def generate (gate : Gate σ) (userText : String) (world : World σ) :
    Except OracleError String × World σ :=
  let request := gate.settings.commandRequest userText gate.registry.describe
  let (reply, world) := gate.oracle.generateWithRetry request gate.settings.maxAttempts world
  (reply.map (·.response), world)

def chat (gate : Gate σ) (message : String) (world : World σ) :
    Except OracleError GenerateReply × World σ :=
  gate.oracle.generateWithRetry (gate.settings.chatRequest message) gate.settings.maxAttempts world

def handleCommand (gate : Gate σ) (command : Command) (world : World σ) : Outcome × World σ :=
  match command with
  | .text message => (.text message, world)
  | .error message => (.failed message, world)
  | command =>
    match gate.policy.check command with
    | .error rejection => (.rejected rejection, world)
    | .ok _ =>
      let (result, world) := gate.dispatcher.dispatch command world
      (.dispatched result, world)

def handleValue (gate : Gate σ) (value : Json) (world : World σ) : Outcome × World σ :=
  match Command.ofJson value with
  | .error source => (.rejected (.malformed source), world)
  | .ok command => gate.handleCommand command world

def handleText (gate : Gate σ) (userText : String) (world : World σ) : Outcome × World σ :=
  match gate.generate userText world with
  | (.error error, world) => (.failed ("LLM error: " ++ error.message), world)
  | (.ok raw, world) =>
    match Json.read? (extract raw.toList) with
    | none =>
      (.failed ("Malformed response from LLM: " ++ Json.Fault.malformed.message), world)
    | some value => gate.handleValue value world

end Gate

end CommandGate
