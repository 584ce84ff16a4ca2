import CommandGate.Dispatcher
import CommandGate.Prompt
/-!
Asking the oracle. Only a timeout is asked again, up to a total number of calls that is at least one;
any other reply is final. Every request is recorded.
-/
namespace CommandGate

structure Oracle (σ : Type) where
  generate : GenerateRequest → σ → Except OracleError GenerateReply × σ
  check : σ → Except OracleError Unit × σ

namespace Oracle

variable {σ : Type}

def ask (oracle : Oracle σ) (request : GenerateRequest) (world : World σ) :
    Except OracleError GenerateReply × World σ :=
  let (reply, state) := oracle.generate request world.state
  (reply, { world with state, requests := world.requests ++ [request] })

def askAgain (oracle : Oracle σ) (request : GenerateRequest) :
    Nat → World σ → Except OracleError GenerateReply × World σ
  | 0, world => oracle.ask request world
  | more + 1, world =>
    match oracle.ask request world with
    | (.error error, world) =>
      if error.isTransient then askAgain oracle request more world else (.error error, world)
    | answered => answered

def generateWithRetry (oracle : Oracle σ) (request : GenerateRequest) (attempts : UInt32)
    (world : World σ) : Except OracleError GenerateReply × World σ :=
  oracle.askAgain request (attempts.toNat - 1) world

def reachable (oracle : Oracle σ) (world : World σ) : Bool × World σ :=
  match oracle.check world.state with
  | (.ok _, state) => (true, { world with state })
  | (.error _, state) => (false, { world with state })

end Oracle

def OracleSettings.commandRequest (settings : OracleSettings) (userText : String)
    (capabilities : List Capability) : GenerateRequest where
  model := settings.model
  prompt := Prompt.build userText capabilities
  stream := false
  temperature := settings.commandTemperature
  format := some "json"

def OracleSettings.chatRequest (settings : OracleSettings) (message : String) :
    GenerateRequest where
  model := settings.model
  prompt := message
  stream := false
  temperature := settings.chatTemperature
  format := none

end CommandGate
