import CommandGate.Oracle.Basic
import CommandGate.Plugin.Registry
import CommandGate.Result.Basic
/-!
Dispatching commands to the plugins that own their actions. The leaves of a chain run one after the
other in task order; a leaf that fails does not stop the rest, and nothing is rolled back. A crash is
caught at its leaf. Every call of a handler is recorded.
-/
namespace CommandGate

structure Call where
  action : String
  parameters : Fields

/-- What a run has to do with: the state of the surroundings, and what was asked of handlers and of
the oracle so far, oldest first. -/
structure World (σ : Type) where
  state : σ
  calls : List Call
  requests : List GenerateRequest

def World.start {σ : Type} (state : σ) : World σ := ⟨state, [], []⟩

def Action.invoke {σ : Type} (action : Action σ) (name : String) (parameters : Fields)
    (world : World σ) : Answer × World σ :=
  let (answer, state) := action.handler parameters world.state
  (answer, { world with state, calls := world.calls ++ [⟨name, parameters⟩] })

/-- Where to dispatch to; `dangerousActions` adds to what plugins declare dangerous. -/
structure Dispatcher (σ : Type) where
  registry : Registry σ
  dangerousActions : List String

namespace Dispatcher

variable {σ : Type}

def isDangerous (dispatcher : Dispatcher σ) (name : String) (action : Action σ) : Bool :=
  action.dangerous || dispatcher.dangerousActions.contains name

def resultOf (action : String) : Answer → ExecutionResult
  | .done result => .success result
  | .failed error => .error error.message
  | .crashed trace => .error (action ++ " crashed: " ++ trace.getD "unknown panic")

def execute (dispatcher : Dispatcher σ) (call : ToolCall) (world : World σ) :
    ExecutionResult × World σ :=
  match dispatcher.registry.lookup call.action with
  | none => (.error (call.action ++ " not found"), world)
  | some action =>
    if dispatcher.isDangerous call.action action && !call.isConfirmed then (.held call, world)
    else
      let (answer, world) := action.invoke call.action call.parameters world
      (resultOf call.action answer, world)

def executeAll (dispatcher : Dispatcher σ) :
    List ToolCall → World σ → List ExecutionResult × World σ
  | [], world => ([], world)
  | call :: calls, world =>
    let (result, world) := dispatcher.execute call world
    let (results, world) := executeAll dispatcher calls world
    (result :: results, world)

def dispatch (dispatcher : Dispatcher σ) (command : Command) (world : World σ) :
    DispatchResult × World σ :=
  match command with
  | .tool call =>
    let (result, world) := dispatcher.execute call world
    (.single result, world)
  | .chain tasks =>
    let (results, world) := dispatcher.executeAll (Command.leavesOfAll tasks) world
    (.chain results, world)
  | .text _ => (.single (.error "Not an executable command"), world)
  | .error _ => (.single (.error "Not an executable command"), world)

theorem executeAll_append (dispatcher : Dispatcher σ) (xs ys : List ToolCall) (world : World σ) :
    dispatcher.executeAll (xs ++ ys) world =
      let (front, middle) := dispatcher.executeAll xs world
      let (back, last) := dispatcher.executeAll ys middle
      (front ++ back, last) := by
  induction xs generalizing world with
  | nil => rfl
  | cons x xs ih => simp [executeAll, ih]

end Dispatcher

end CommandGate
