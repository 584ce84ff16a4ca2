import CommandGate.Proofs.CommandReading
import CommandGate.Proofs.Mediation
import CommandGate.Result.Json

/-!
Held calls. A dangerous call without confirmation is not run but handed back with its own flag set.
The JSON of the result says exactly this call, and a gate that is given it runs the handler, unless
setting the flag has made a denied pattern occur in the text of the call.
-/

namespace CommandGate

variable {σ : Type}

namespace DispatchResult

/-- The JSON of one result: all of the document for a single result, an item of its list for a
chain. -/
def entryJson? (index : Nat) : DispatchResult → Option Json
  | single result => if index = 0 then some (single result).toJson else none
  | chain results =>
    (((chain results).toJson.get? "results").bind Json.array?).bind (·[index]?)

def heldJson? (index : Nat) (result : DispatchResult) : Option Json :=
  (result.entryJson? index).bind (Json.get? "command")

theorem entryJson?_eq_map (index : Nat) (result : DispatchResult) :
    result.entryJson? index = result.results[index]?.map ExecutionResult.toJson := by
  cases result with
  | single result => cases index <;> rfl
  | chain results => exact List.getElem?_map

theorem heldJson?_of_cancelled {result : DispatchResult} {index : Nat} {action message : String}
    {needs : Bool} {held : ToolCall}
    (here : result.results[index]? = some (.cancelled action message needs held)) :
    result.heldJson? index = some held.toJson := by
  rw [heldJson?, entryJson?_eq_map, here]
  rfl

end DispatchResult

namespace Dispatcher

variable {dispatcher : Dispatcher σ} {call : ToolCall}

theorem resultOf_isSuccess_or_isError (action : String) (answer : Answer) :
    (resultOf action answer).isSuccess = true ∨ (resultOf action answer).isError = true := by
  cases answer with
  | done result => exact .inl rfl
  | failed error => exact .inr rfl
  | crashed trace => exact .inr rfl

theorem resultOf_ne_cancelled (name : String) (answer : Answer) (action message : String)
    (needs : Bool) (held : ToolCall) :
    resultOf name answer ≠ .cancelled action message needs held := by
  cases answer <;> exact nofun

theorem execute_eq_cancelled {world : World σ} {action message : String} {needs : Bool}
    {held : ToolCall}
    (cancelled : (dispatcher.execute call world).1 = .cancelled action message needs held) :
    ∃ owner, dispatcher.registry.lookup call.action = some owner ∧ held = call.confirmed := by
  cases owned : dispatcher.registry.lookup call.action with
  | none =>
    rw [execute_absent owned] at cancelled
    cases cancelled
  | some owner =>
    by_cases runs : dispatcher.Runs call
    · rw [execute_runs owned runs] at cancelled
      exact absurd cancelled (resultOf_ne_cancelled _ _ _ _ _ _)
    · rw [execute_held owned runs] at cancelled
      cases cancelled
      exact ⟨owner, rfl, rfl⟩

theorem runs_confirmed {owner : Action σ}
    (owned : dispatcher.registry.lookup call.action = some owner) :
    dispatcher.Runs call.confirmed :=
  ⟨owner, owned, .inr (.inl rfl)⟩

end Dispatcher

namespace Policy

/-- Setting the flag of a passing call can only make a denied pattern occur in it. -/
theorem check_confirmed {settings : PolicySettings} {authorize : Command → Bool} {call : ToolCall}
    (passes : Passes settings authorize (.tool call))
    (authorized : authorize (.tool call.confirmed) = true) :
    (ofSettings settings authorize).check (.tool call.confirmed) = .ok () ∨
      ∃ pattern ∈ settings.deniedPatterns, pattern ≠ "" ∧
        Occurs pattern (.tool call.confirmed) ∧ ¬Occurs pattern (.tool call) ∧
        (ofSettings settings authorize).check (.tool call.confirmed) =
          .error (.deniedPattern (Text.lowercase pattern)) := by
  cases fault : (ofSettings settings authorize).nodeFault? (.tool call.confirmed) with
  | none => exact .inl (check_single nofun fault)
  | some rejection =>
    have refused := check_of_fault fault
    cases nodeFault?_eq_some_iff.mp fault with
    | notDispatchable inert => cases inert
    | notAllowed other here unlisted =>
      cases here
      exact absurd (passes.allowed call rfl) unlisted
    | deniedPattern before pattern after dispatchable allowed listed nonempty occurs clean =>
      have inside : pattern ∈ settings.deniedPatterns := by simp [listed]
      exact .inr ⟨pattern, inside, nonempty, occurs, passes.clean pattern inside nonempty, refused⟩
    | unauthorized action dispatchable allowed clean denied named =>
      rw [authorized] at denied
      cases denied

end Policy

namespace Gate

variable {gate : Gate σ}

theorem handleValue_of_check_error {value : Json} {call : ToolCall} {rejection : Rejection}
    (read : Command.ofJson value = .ok (.tool call))
    (refused : gate.policy.check (.tool call) = .error rejection) (world : World σ) :
    gate.handleValue value world = (.rejected rejection, world) := by
  simp only [handleValue, read, handleCommand, refused]

theorem handleValue_of_runs {value : Json} {call : ToolCall} {owner : Action σ}
    (read : Command.ofJson value = .ok (.tool call))
    (accepted : gate.policy.check (.tool call) = .ok ())
    (owned : gate.dispatcher.registry.lookup call.action = some owner)
    (runs : gate.dispatcher.Runs call) (world : World σ) :
    gate.handleValue value world =
      (.dispatched (.single (Dispatcher.resultOf call.action
          (owner.invoke call.action call.parameters world).1)),
        (owner.invoke call.action call.parameters world).2) := by
  rw [handleValue_of_check read accepted, Dispatcher.dispatch, Dispatcher.execute_runs owned runs]

theorem dispatched_cases {value : Json} {world : World σ} {result : DispatchResult}
    (dispatched : (gate.handleValue value world).1 = .dispatched result) :
    ∃ command, Command.ofJson value = .ok command ∧ gate.policy.check command = .ok () ∧
      result.results = (gate.dispatcher.executeAll command.leaves world).1 := by
  by_cases accepts : gate.policy.acceptsJson value = true
  · obtain ⟨command, read, checked⟩ := Policy.acceptsJson_iff.mp accepts
    rw [handleValue_of_check read checked] at dispatched
    cases dispatched
    exact ⟨command, read, checked,
      Dispatcher.dispatch_results (Policy.isDispatchable_of_check checked) world⟩
  · exact absurd dispatched ((handleValue_of_not_accepts accepts world).2 result)

/-- What a result holds is a leaf of the command with its own flag set, and the JSON under `command`
is read back as exactly that. Given to the gate again, at whatever time, it runs the handler of the
leaf once, with the parameters of the leaf, or it is rejected for a denied pattern that occurs in
what is held but not in the leaf. -/
theorem held_calls_run_when_sent_again (registry : Registry σ) (oracle : Oracle σ)
    (settings : Settings) (value : Json) (world : World σ) (result : DispatchResult) (index : Nat)
    (action message : String) (needs : Bool) (held : ToolCall)
    (dispatched :
      ((ofSettings registry oracle settings Policy.permitAll).handleValue value world).1 =
        .dispatched result)
    (cancelled : result.results[index]? = some (.cancelled action message needs held)) :
    ∃ command leaf json, Command.ofJson value = .ok command ∧
      command.leaves[index]? = some leaf ∧
      held = { leaf with confirm := some true } ∧
      result.heldJson? index = some json ∧
      Command.ofJson json = .ok (.tool held) ∧
      ∀ later : World σ,
        let again := (ofSettings registry oracle settings Policy.permitAll).handleValue json later
        (∃ ended, again.1 = .dispatched (.single ended) ∧
          (ended.isSuccess = true ∨ ended.isError = true) ∧
          again.2 = registry.invoke later ⟨leaf.action, leaf.parameters⟩ ∧
          again.2.calls = later.calls ++ [⟨leaf.action, leaf.parameters⟩]) ∨
        ∃ pattern ∈ settings.policy.deniedPatterns, pattern ≠ "" ∧
          Policy.Occurs pattern (.tool held) ∧ ¬Policy.Occurs pattern (.tool leaf) ∧
          again = (.rejected (.deniedPattern (Text.lowercase pattern)), later) := by
  obtain ⟨command, read, checked, results⟩ := dispatched_cases dispatched
  rw [results, Dispatcher.executeAll_getElem?, Option.map_eq_some_iff] at cancelled
  obtain ⟨leaf, place, ended⟩ := cancelled
  obtain ⟨owner, owned, rfl⟩ := Dispatcher.execute_eq_cancelled ended
  have inside : leaf ∈ command.leaves := List.mem_of_getElem? place
  have again : Command.ofJson leaf.confirmed.toJson = .ok (.tool leaf.confirmed) :=
    Command.ofJson_toJson (Command.action_ne_of_ofJson read leaf inside)
  have here : result.results[index]? = some (.cancelled action message needs leaf.confirmed) := by
    rw [results, Dispatcher.executeAll_getElem?, place, Option.map_some, ended]
  refine ⟨command, leaf, _, read, place, rfl, DispatchResult.heldJson?_of_cancelled here, again,
    fun later => ?_⟩
  rcases Policy.check_confirmed (Policy.passes_of_mem_leaves checked inside) rfl with
    accepted | ⟨pattern, listed, nonempty, occurs, absent, refused⟩
  · have ran := handleValue_of_runs again accepted owned (Dispatcher.runs_confirmed owned) later
    refine .inl ⟨_, congrArg Prod.fst ran, Dispatcher.resultOf_isSuccess_or_isError _ _, ?_, ?_⟩
    · rw [ran]
      exact (Registry.invoke_of_lookup owned leaf.parameters later).symm
    · rw [ran]
      rfl
  · exact .inr ⟨pattern, listed, nonempty, occurs, absent,
      handleValue_of_check_error again refused later⟩

end Gate

namespace House

set_option maxRecDepth 4000 in
theorem held_lock_runs :
    let gate := Gate.ofSettings registry silent settings Policy.permitAll
    ∃ result json, (gate.handleValue evening (.start 0)).1 = .dispatched result ∧
      result.heldJson? 2 = some json ∧
      (gate.handleValue json (.start 7)).2.calls = [⟨"lock", [("confirm", .bool false)]⟩] := by
  obtain ⟨command, leaf, json, read, place, same, found, -, again⟩ :=
    Gate.held_calls_run_when_sent_again registry silent settings evening (.start 0)
      (.chain [.success (.whole 1), .success (.whole 2),
        .held ⟨"lock", [("confirm", .bool false)], none⟩, .error "sing not found"]) 2 _ _ _ _
      rfl rfl
  refine ⟨_, json, rfl, found, ?_⟩
  cases read
  cases place
  rcases again (.start 7) with ⟨ended, -, -, -, ran⟩ | ⟨pattern, listed, nonempty, occurs, -⟩
  · exact ran
  · have off : pattern = "Off" := by simpa [settings, nonempty] using listed
    rw [off, same] at occurs
    exact absurd occurs (by decide +kernel)

/-- The flag alone may be what is denied. -/
example :
    let policy : PolicySettings :=
      { allowedActions := ["lock"], deniedPatterns := ["\"Confirm\":True"] }
    let gate := Gate.ofSettings registry silent { settings with policy } Policy.permitAll
    (gate.handleValue (call "lock" []) (.start 0)).1 =
        .dispatched (.single (.held ⟨"lock", [], none⟩)) ∧
      (gate.handleValue (ToolCall.toJson ⟨"lock", [], some true⟩) (.start 0)).1 =
        .rejected (.deniedPattern "\"confirm\":true") :=
  ⟨rfl, rfl⟩

end House

end CommandGate
