import CommandGate.Proofs.Mediation

/-!
Comparing two runs. What a gate does with a value is decided by the state of the surroundings alone:
neither the calls nor the requests made so far are read, and which handlers are called does not even
depend on the state. So a request in free text can be compared with a value handed in directly.
-/

namespace CommandGate

variable {σ α : Type}

def EndAlike (first second : α × World σ) : Prop :=
  first.1 = second.1 ∧ first.2.state = second.2.state

variable {first second : World σ}

namespace Dispatcher

variable {dispatcher : Dispatcher σ}

theorem execute_alike (same : first.state = second.state) (call : ToolCall) :
    EndAlike (dispatcher.execute call first) (dispatcher.execute call second) := by
  cases owned : dispatcher.registry.lookup call.action with
  | none =>
    rw [execute_absent owned, execute_absent owned]
    exact ⟨rfl, same⟩
  | some action =>
    by_cases runs : dispatcher.Runs call
    · rw [execute_runs owned runs, execute_runs owned runs]
      simp only [EndAlike, Action.invoke, same, and_self]
    · rw [execute_held owned runs, execute_held owned runs]
      exact ⟨rfl, same⟩

theorem executeAll_alike (same : first.state = second.state) (calls : List ToolCall) :
    EndAlike (dispatcher.executeAll calls first) (dispatcher.executeAll calls second) := by
  induction calls generalizing first second with
  | nil => exact ⟨rfl, same⟩
  | cons call calls ih =>
    obtain ⟨here, left⟩ := dispatcher.execute_alike same call
    obtain ⟨there, ended⟩ := ih left
    rw [executeAll_cons, executeAll_cons]
    exact ⟨congrArg₂ List.cons here there, ended⟩

theorem dispatch_alike (same : first.state = second.state) (command : Command) :
    EndAlike (dispatcher.dispatch command first) (dispatcher.dispatch command second) := by
  cases command with
  | tool call =>
    obtain ⟨result, state⟩ := dispatcher.execute_alike same call
    exact ⟨congrArg DispatchResult.single result, state⟩
  | chain tasks =>
    obtain ⟨results, state⟩ :=
      dispatcher.executeAll_alike same (Command.leavesOfAll tasks)
    exact ⟨congrArg DispatchResult.chain results, state⟩
  | text message => exact ⟨rfl, same⟩
  | error message => exact ⟨rfl, same⟩

end Dispatcher

namespace Gate

variable {gate : Gate σ} {userText raw : String} {world : World σ} {value : Json}

theorem handleValue_alike (same : first.state = second.state) (value : Json) :
    EndAlike (gate.handleValue value first) (gate.handleValue value second) := by
  cases read : Command.ofJson value with
  | error source =>
    simp only [handleValue, read]
    exact ⟨rfl, same⟩
  | ok command =>
    cases checked : gate.policy.check command with
    | ok _ =>
      obtain ⟨result, state⟩ := gate.dispatcher.dispatch_alike same command
      rw [handleValue_of_check read checked, handleValue_of_check read checked]
      exact ⟨congrArg Outcome.dispatched result, state⟩
    | error rejection =>
      simp only [handleValue, read]
      cases command <;> simp only [handleCommand, checked] <;> exact ⟨rfl, same⟩

theorem handleValue_calls (gate : Gate σ) (value : Json) :
    ∃ calls, ∀ world : World σ,
      (gate.handleValue value world).2.calls = world.calls ++ calls := by
  by_cases accepts : gate.policy.acceptsJson value = true
  · obtain ⟨command, read, checked⟩ := Policy.acceptsJson_iff.mp accepts
    refine ⟨(command.leaves.filter gate.dispatcher.Runs).map ToolCall.invocation, fun world => ?_⟩
    rw [handleValue_of_check read checked]
    exact gate.dispatcher.dispatch_calls command world
  · refine ⟨[], fun world => ?_⟩
    rw [(handleValue_of_not_accepts accepts world).1, List.append_nil]

/-- A request in free text is taken for a value: it is handled as the value is in the world that the
oracle leaves, so it ends as the value does wherever the surroundings are in the same state, and it
calls the handlers that the value calls anywhere. -/
structure ComesTo (gate : Gate σ) (userText : String) (world : World σ) (value : Json) : Prop where
  handled : gate.handleText userText world =
    gate.handleValue value (gate.generate userText world).2
  alike : ∀ other : World σ, other.state = (gate.generate userText world).2.state →
    EndAlike (gate.handleText userText world) (gate.handleValue value other)
  calls : ∃ calls, (gate.handleText userText world).2.calls = world.calls ++ calls ∧
    ∀ other : World σ, (gate.handleValue value other).2.calls = other.calls ++ calls

theorem comesTo_of_read (answered : (gate.generate userText world).1 = .ok raw)
    (read : Json.read? (extract raw.toList) = some value) :
    gate.ComesTo userText world value := by
  have received : gate.receive (.text userText) world =
      (some value, (gate.generate userText world).2) := by
    rcases answer : gate.generate userText world with ⟨reply, after⟩
    rw [answer] at answered
    cases answered
    simp only [receive, answer, read]
  have handled : gate.handleText userText world =
      gate.handleValue value (gate.generate userText world).2 := by
    have taken := handle_of_receive_eq_some (congrArg Prod.fst received)
    rwa [received] at taken
  have quiet : (gate.generate userText world).2.calls = world.calls := by
    have asked := gate.receive_calls (.text userText) world
    rwa [received] at asked
  obtain ⟨calls, ran⟩ := gate.handleValue_calls value
  refine ⟨handled, fun other same => ?_, calls, ?_, ran⟩
  · rw [handled]
    exact handleValue_alike same.symm value
  · rw [handled, ran, quiet]

theorem handleText_of_unread (answered : (gate.generate userText world).1 = .ok raw)
    (unread : Json.read? (extract raw.toList) = none) :
    gate.handleText userText world =
      (.failed ("Malformed response from LLM: " ++ Json.Fault.malformed.message),
        (gate.generate userText world).2) := by
  rcases answer : gate.generate userText world with ⟨reply, after⟩
  rw [answer] at answered
  cases answered
  simp only [handleText, answer, unread]

end Gate

end CommandGate
