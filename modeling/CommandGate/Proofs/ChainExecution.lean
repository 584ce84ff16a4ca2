import CommandGate.Proofs.LeafPaths
import CommandGate.Proofs.Mediation

/-!
How a chain is executed. Its leaves are taken one after the other, each in the world that those
before it left, and each gives one result whatever became of the others. The nesting of the chain
has no part in it.
-/

namespace CommandGate

variable {σ : Type}

namespace Dispatcher

variable {dispatcher : Dispatcher σ}

/-- Every leaf of the command gives one result, in the order of the paths to the leaves, and is
executed in the world that the leaf before it left: `stage index` is the world before the leaf at
that place. -/
structure LeafByLeaf (dispatcher : Dispatcher σ) (command : Command) (world : World σ)
    (results : List ExecutionResult) (last : World σ) (paths : List (List Nat))
    (stage : Nat → World σ) : Prop where
  leaves : ∀ path, path ∈ paths ↔ ∃ leaf, command.at? path = some (.tool leaf)
  ordered : paths.Pairwise (· < ·)
  length : results.length = paths.length
  starts : stage 0 = world
  ends : stage paths.length = last
  step : ∀ index path leaf, paths[index]? = some path → command.at? path = some (.tool leaf) →
    ∃ result, results[index]? = some result ∧
      dispatcher.execute leaf (stage index) = (result, stage (index + 1))

theorem executeAll_length (calls : List ToolCall) (world : World σ) :
    (dispatcher.executeAll calls world).1.length = calls.length := by
  induction calls generalizing world with
  | nil => rfl
  | cons call calls ih => rw [executeAll_cons, List.length_cons, List.length_cons, ih]

def stageOf (dispatcher : Dispatcher σ) (calls : List ToolCall) (world : World σ) (index : Nat) :
    World σ :=
  (dispatcher.executeAll (calls.take index) world).2

theorem stageOf_length (calls : List ToolCall) (world : World σ) :
    dispatcher.stageOf calls world calls.length = (dispatcher.executeAll calls world).2 := by
  rw [stageOf, List.take_length]

theorem execute_stageOf {calls : List ToolCall} {index : Nat} {call : ToolCall}
    (here : calls[index]? = some call) (world : World σ) :
    ∃ result, (dispatcher.executeAll calls world).1[index]? = some result ∧
      dispatcher.execute call (dispatcher.stageOf calls world index) =
        (result, dispatcher.stageOf calls world (index + 1)) := by
  refine ⟨(dispatcher.execute call (dispatcher.stageOf calls world index)).1, ?_, ?_⟩
  · rw [executeAll_getElem?, here, Option.map_some, stageOf]
  · rw [stageOf, stageOf, List.take_add_one, here, Option.toList_some, executeAll_append]
    rfl

theorem dispatch_last (command : Command) (world : World σ) :
    (dispatcher.dispatch command world).2 = (dispatcher.executeAll command.leaves world).2 := by
  cases command <;> rfl

theorem leafByLeaf_dispatch {command : Command} (dispatchable : command.isDispatchable = true)
    (world : World σ) :
    LeafByLeaf dispatcher command world (dispatcher.dispatch command world).1.results
      (dispatcher.dispatch command world).2 command.leafPaths
      (dispatcher.stageOf command.leaves world) where
  leaves _ := Command.mem_leafPaths_iff
  ordered := command.pairwise_leafPaths
  length := by rw [dispatch_results dispatchable, executeAll_length, Command.length_leafPaths]
  starts := rfl
  ends := by rw [Command.length_leafPaths, stageOf_length, dispatch_last]
  step index path leaf listed found := by
    rw [dispatch_results dispatchable]
    exact execute_stageOf (Command.leaves_getElem?_of_leafPaths listed found) world

theorem dispatch_chain (tasks : List Command) (world : World σ) :
    dispatcher.dispatch (.chain tasks) world =
      (.chain (dispatcher.executeAll (Command.leavesOfAll tasks) world).1,
        (dispatcher.executeAll (Command.leavesOfAll tasks) world).2) := rfl

theorem dispatch_chain_append (xs ys : List Command) (world : World σ) :
    let front := dispatcher.dispatch (.chain xs) world
    let back := dispatcher.dispatch (.chain ys) front.2
    dispatcher.dispatch (.chain (xs ++ ys)) world =
      (.chain (front.1.results ++ back.1.results), back.2) := by
  intro front back
  rw [dispatch_chain, Command.leavesOfAll_append, executeAll_append]
  rfl

end Dispatcher

namespace Policy

variable {policy : Policy}

theorem isDispatchable_of_nodeFault?_eq_none {node : Command}
    (quiet : policy.nodeFault? node = none) : node.isDispatchable = true := by
  cases node with
  | tool call => rfl
  | chain tasks => rfl
  | text message => cases quiet
  | error message => cases quiet

theorem mem_leafPaths_of_check {command node : Command} {path : List Nat}
    (accepted : policy.check command = .ok ()) (found : command.at? path = some node)
    (single : ∀ tasks, node ≠ .chain tasks) : path ∈ command.leafPaths := by
  have dispatchable :=
    isDispatchable_of_nodeFault?_eq_none (check_eq_ok_iff.mp accepted path node found)
  cases node with
  | tool leaf => exact Command.mem_leafPaths_iff.mpr ⟨leaf, found⟩
  | chain tasks => exact absurd rfl (single tasks)
  | text message => cases dispatchable
  | error message => cases dispatchable

end Policy

namespace Dispatcher

/-- A chain is executed leaf by leaf; the results of one chain followed by another are those of
both; chains with the same leaves end alike; and in a command that a policy accepts every node that
is no chain has a result of its own. -/
theorem chains_run_leaf_by_leaf (dispatcher : Dispatcher σ) (world : World σ) :
    (∀ tasks, ∃ results last paths stage,
      dispatcher.dispatch (.chain tasks) world = (.chain results, last) ∧
        LeafByLeaf dispatcher (.chain tasks) world results last paths stage) ∧
    (∀ xs ys,
      let front := dispatcher.dispatch (.chain xs) world
      let back := dispatcher.dispatch (.chain ys) front.2
      dispatcher.dispatch (.chain (xs ++ ys)) world =
        (.chain (front.1.results ++ back.1.results), back.2)) ∧
    (∀ xs ys, (Command.chain xs).leaves = (Command.chain ys).leaves →
      dispatcher.dispatch (.chain xs) world = dispatcher.dispatch (.chain ys) world) ∧
    ∀ (policy : Policy) (command : Command), policy.check command = .ok () →
      ∃ paths stage,
        LeafByLeaf dispatcher command world (dispatcher.dispatch command world).1.results
          (dispatcher.dispatch command world).2 paths stage ∧
        ∀ path node, command.at? path = some node → (∀ tasks, node ≠ .chain tasks) →
          path ∈ paths := by
  refine ⟨fun tasks => ?_, fun xs ys => dispatch_chain_append xs ys world, fun xs ys same => ?_,
    fun policy command accepted => ?_⟩
  · exact ⟨_, _, _, _, rfl, leafByLeaf_dispatch rfl world⟩
  · have leaves : Command.leavesOfAll xs = Command.leavesOfAll ys := same
    rw [dispatch_chain, dispatch_chain, leaves]
  · have dispatchable := Policy.isDispatchable_of_check accepted
    exact ⟨_, _, leafByLeaf_dispatch dispatchable world,
      fun path node found single => Policy.mem_leafPaths_of_check accepted found single⟩

end Dispatcher

namespace House

def dispatcher : Dispatcher Nat := ⟨registry, settings.policy.dangerousActions⟩

def bare (action : String) : Command := .tool ⟨action, [], none⟩

/-- An unknown action and a call that is held stand in a chain of their own between two rings. -/
theorem rings_around_a_chain_run :
    let nested := [bare "ring", .chain [bare "sing", bare "lock"], bare "ring"]
    let flat := ["ring", "sing", "lock", "ring"].map bare
    dispatcher.dispatch (.chain nested) (.start 0) =
      dispatcher.dispatch (.chain flat) (.start 0) ∧
    (Policy.ofSettings settings.policy Policy.permitAll).check (.chain nested) = .ok () ∧
    (dispatcher.dispatch (.chain nested) (.start 0)).1.results =
      [.success (.whole 1), .error "sing not found", .held ⟨"lock", [], none⟩,
        .success (.whole 2)] ∧
    ∃ paths stage,
      Dispatcher.LeafByLeaf dispatcher (.chain nested) (.start 0)
        (dispatcher.dispatch (.chain nested) (.start 0)).1.results
        (dispatcher.dispatch (.chain nested) (.start 0)).2 paths stage ∧
      [1, 1] ∈ paths := by
  intro nested flat
  obtain ⟨-, -, alike, entries⟩ := Dispatcher.chains_run_leaf_by_leaf dispatcher (.start 0)
  have accepted :
      (Policy.ofSettings settings.policy Policy.permitAll).check (.chain nested) = .ok () := rfl
  obtain ⟨paths, stage, run, listed⟩ := entries _ (.chain nested) accepted
  exact ⟨alike nested flat rfl, accepted, rfl, paths, stage, run,
    listed [1, 1] (bare "lock") rfl nofun⟩

end House

end CommandGate
