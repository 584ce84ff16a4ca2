import CommandGate.Dispatcher
import CommandGate.Proofs.CommandNodes

/-!
What a dispatcher does to its surroundings: it invokes the handlers of the leaves that run, each
once and in their order, and nothing else. Which leaves run is decided by the registry, the
dangerous actions and the leaf alone, so it does not change while a chain is executed.
-/

namespace CommandGate

variable {σ : Type}

def ToolCall.invocation (call : ToolCall) : Call := ⟨call.action, call.parameters⟩

namespace Registry

def invoke (registry : Registry σ) (world : World σ) (call : Call) : World σ :=
  match registry.lookup call.action with
  | none => world
  | some action => (action.invoke call.action call.parameters world).2

def invokeAll (registry : Registry σ) (calls : List Call) (world : World σ) : World σ :=
  calls.foldl registry.invoke world

theorem invoke_of_lookup {registry : Registry σ} {name : String} {action : Action σ}
    (owned : registry.lookup name = some action) (parameters : Fields) (world : World σ) :
    registry.invoke world ⟨name, parameters⟩ = (action.invoke name parameters world).2 := by
  rw [invoke, owned]

theorem invokeAll_append (registry : Registry σ) (xs ys : List Call) (world : World σ) :
    registry.invokeAll (xs ++ ys) world = registry.invokeAll ys (registry.invokeAll xs world) :=
  List.foldl_append

theorem invokeAll_calls {registry : Registry σ} {calls : List Call}
    (owned : ∀ call ∈ calls, ∃ action, registry.lookup call.action = some action)
    (world : World σ) : (registry.invokeAll calls world).calls = world.calls ++ calls := by
  induction calls generalizing world with
  | nil => exact (List.append_nil _).symm
  | cons call calls ih =>
    obtain ⟨⟨action, here⟩, there⟩ := List.forall_mem_cons.mp owned
    have recorded : (registry.invoke world call).calls = world.calls ++ [call] := by
      rw [invoke_of_lookup here call.parameters]
      rfl
    calc
      _ = (registry.invoke world call).calls ++ calls := ih there _
      _ = world.calls ++ call :: calls := by rw [recorded, List.append_assoc, List.singleton_append]

end Registry

namespace Dispatcher

/-- The handler of the call is reached: its action is installed, and the action is dangerous neither
by its plugin nor by the settings, or the call carries its own confirmation. -/
def Runs (dispatcher : Dispatcher σ) (call : ToolCall) : Prop :=
  ∃ action, dispatcher.registry.lookup call.action = some action ∧
    ((action.dangerous = false ∧ call.action ∉ dispatcher.dangerousActions) ∨
      call.confirm = some true ∨ call.parameters.get? "confirm" = some (.bool true))

variable {dispatcher : Dispatcher σ} {call : ToolCall} {action : Action σ}

theorem isConfirmed_iff :
    call.isConfirmed = true ↔
      call.confirm = some true ∨ call.parameters.get? "confirm" = some (.bool true) := by
  unfold ToolCall.isConfirmed
  rw [Bool.or_eq_true, beq_iff_eq]
  split <;> simp_all

theorem isDangerous_eq_false_iff :
    dispatcher.isDangerous call.action action = false ↔
      action.dangerous = false ∧ call.action ∉ dispatcher.dangerousActions := by
  simp [isDangerous]

theorem runs_iff (owned : dispatcher.registry.lookup call.action = some action) :
    dispatcher.Runs call ↔
      (dispatcher.isDangerous call.action action && !call.isConfirmed) = false := by
  rw [Bool.and_eq_false_iff, isDangerous_eq_false_iff, Bool.not_eq_false', isConfirmed_iff]
  simp [Runs, owned]

theorem not_runs_of_lookup_eq_none (absent : dispatcher.registry.lookup call.action = none) :
    ¬dispatcher.Runs call := by
  rintro ⟨action, owned, -⟩
  rw [absent] at owned
  cases owned

instance (dispatcher : Dispatcher σ) : DecidablePred dispatcher.Runs := fun call =>
  match owned : dispatcher.registry.lookup call.action with
  | none => isFalse (not_runs_of_lookup_eq_none owned)
  | some _ => decidable_of_iff _ (runs_iff owned).symm

/-! ### One call -/

theorem execute_absent (absent : dispatcher.registry.lookup call.action = none) (world : World σ) :
    dispatcher.execute call world = (.error (call.action ++ " not found"), world) := by
  rw [execute, absent]

theorem execute_held (owned : dispatcher.registry.lookup call.action = some action)
    (held : ¬dispatcher.Runs call) (world : World σ) :
    dispatcher.execute call world = (.held call, world) := by
  rw [runs_iff owned, Bool.not_eq_false] at held
  simp only [execute, owned, held, if_true]

theorem execute_runs (owned : dispatcher.registry.lookup call.action = some action)
    (runs : dispatcher.Runs call) (world : World σ) :
    dispatcher.execute call world =
      (resultOf call.action (action.invoke call.action call.parameters world).1,
        (action.invoke call.action call.parameters world).2) := by
  rw [runs_iff owned] at runs
  simp only [execute, owned, runs, Bool.false_eq_true, if_false]

theorem execute_world (call : ToolCall) (world : World σ) :
    (dispatcher.execute call world).2 =
      dispatcher.registry.invokeAll (([call].filter dispatcher.Runs).map ToolCall.invocation)
        world := by
  by_cases runs : dispatcher.Runs call
  · have ⟨action, owned, _⟩ := runs
    rw [execute_runs owned runs, List.filter_cons_of_pos (by simpa using runs)]
    exact (Registry.invoke_of_lookup owned call.parameters world).symm
  · rw [List.filter_cons_of_neg (by simpa using runs)]
    cases owned : dispatcher.registry.lookup call.action with
    | none => rw [execute_absent owned]; rfl
    | some action => rw [execute_held owned runs]; rfl

/-! ### Whole commands -/

theorem executeAll_cons (call : ToolCall) (calls : List ToolCall) (world : World σ) :
    dispatcher.executeAll (call :: calls) world =
      ((dispatcher.execute call world).1 ::
          (dispatcher.executeAll calls (dispatcher.execute call world).2).1,
        (dispatcher.executeAll calls (dispatcher.execute call world).2).2) := rfl

theorem executeAll_world (calls : List ToolCall) (world : World σ) :
    (dispatcher.executeAll calls world).2 =
      dispatcher.registry.invokeAll ((calls.filter dispatcher.Runs).map ToolCall.invocation)
        world := by
  induction calls generalizing world with
  | nil => rfl
  | cons call calls ih =>
    rw [executeAll_cons, ih, execute_world, ← Registry.invokeAll_append, ← List.map_append,
      ← List.filter_append, List.singleton_append]

theorem executeAll_getElem? (calls : List ToolCall) (world : World σ) (index : Nat) :
    (dispatcher.executeAll calls world).1[index]? =
      calls[index]?.map fun call =>
        (dispatcher.execute call (dispatcher.executeAll (calls.take index) world).2).1 := by
  induction calls generalizing world index with
  | nil => rfl
  | cons call calls ih =>
    cases index with
    | zero => rfl
    | succ index => exact ih (dispatcher.execute call world).2 index

theorem dispatch_world (command : Command) (world : World σ) :
    (dispatcher.dispatch command world).2 =
      dispatcher.registry.invokeAll
        ((command.leaves.filter dispatcher.Runs).map ToolCall.invocation) world := by
  cases command with
  | tool call => exact execute_world call world
  | chain tasks => exact executeAll_world _ world
  | text message => rfl
  | error message => rfl

theorem dispatch_results {command : Command} (dispatchable : command.isDispatchable = true)
    (world : World σ) :
    (dispatcher.dispatch command world).1.results =
      (dispatcher.executeAll command.leaves world).1 := by
  cases command with
  | tool call => rfl
  | chain tasks => rfl
  | text message => cases dispatchable
  | error message => cases dispatchable

theorem dispatch_calls (command : Command) (world : World σ) :
    (dispatcher.dispatch command world).2.calls =
      world.calls ++ (command.leaves.filter dispatcher.Runs).map ToolCall.invocation := by
  rw [dispatch_world]
  apply Registry.invokeAll_calls
  intro call inside
  obtain ⟨leaf, kept, rfl⟩ := List.mem_map.mp inside
  obtain ⟨action, owned, -⟩ := of_decide_eq_true (List.mem_filter.mp kept).2
  exact ⟨action, owned⟩

end Dispatcher

end CommandGate
