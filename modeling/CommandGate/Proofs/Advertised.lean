import CommandGate.Proofs.HeldCalls
import CommandGate.Proofs.RegistryOwners

/-!
What is advertised and what can be called. The capabilities list exactly the actions that are found,
and a confirmed call of one of them runs its handler, if the policy allows the action and denies no
text. One name is left out: nothing keeps a plugin from declaring an action under the reserved name of
chains, and a call of it is read as a chain without tasks.
-/

namespace CommandGate

variable {σ : Type}

namespace Registry

variable {registry : Registry σ}

def Advertises (registry : Registry σ) (action : String) : Prop :=
  ∃ capability ∈ registry.describe, action ∈ Members.names capability.actions

theorem names_capability (plugin : Plugin σ) :
    Members.names plugin.capability.actions = Members.names plugin.actions := by
  rw [Plugin.capability, Members.names_mapValues]

theorem exists_lookup_iff {name : String} :
    (∃ action, registry.lookup name = some action) ↔ registry.Advertises name := by
  have listed (plugin : Plugin σ) :
      (plugin.actions.get? name).isSome = true ↔
        name ∈ Members.names plugin.capability.actions := by
    rw [Option.isSome_iff_exists, Members.exists_get?_iff, names_capability]
  rw [← Option.isSome_iff_exists, lookup, List.findSome?_isSome_iff]
  simp [listed, Advertises, describe]

end Registry

namespace Command

theorem ofJson_toJson_of_reserved {call : ToolCall} (reserved : call.action = chainAction) :
    ofJson call.toJson = .ok (.chain []) := by
  obtain ⟨action, parameters, confirm⟩ := call
  cases reserved
  cases confirm <;> rfl

end Command

namespace Policy

variable {settings : PolicySettings} {authorize : Command → Bool} {command : Command}

theorem clean_of_undenied {patterns : List String} (undenied : ∀ pattern ∈ patterns, pattern = "") :
    Clean patterns command :=
  fun pattern listed nonempty => absurd (undenied pattern listed) nonempty

theorem check_tool_of_allowed {call : ToolCall}
    (undenied : ∀ pattern ∈ settings.deniedPatterns, pattern = "")
    (allowed : call.action ∈ settings.allowedActions) :
    (ofSettings settings permitAll).check (.tool call) = .ok () := by
  have passes : Passes settings permitAll (.tool call) :=
    { dispatchable := rfl
      allowed := by
        rintro _ ⟨⟩
        exact allowed
      clean := clean_of_undenied undenied
      authorized := rfl }
  exact check_single nofun (nodeFault?_eq_none_iff.mpr passes)

theorem check_empty_chain (undenied : ∀ pattern ∈ settings.deniedPatterns, pattern = "") :
    (ofSettings settings permitAll).check (.chain []) = .ok () := by
  have passes : Passes settings permitAll (.chain []) :=
    { dispatchable := rfl
      allowed := nofun
      clean := clean_of_undenied undenied
      authorized := rfl }
  exact check_chain (nodeFault?_eq_none_iff.mpr passes)

end Policy

namespace Gate

/-- An advertised action is found. A confirmed call of it, where the policy allows the action and
denies no text, runs the handler that is found, once and with the parameters of the call, and ends
with what became of the handler; but a call of the reserved name of chains runs nothing. -/
theorem advertised_actions_run_unless_reserved (registry : Registry σ) (oracle : Oracle σ)
    (settings : Settings) (name : String) (parameters : Fields) (world : World σ)
    (advertised : registry.Advertises name) (allowed : name ∈ settings.policy.allowedActions)
    (undenied : ∀ pattern ∈ settings.policy.deniedPatterns, pattern = "") :
    let gate := ofSettings registry oracle settings Policy.permitAll
    let value := Json.object [("action", .string name), ("confirm", .bool true),
      ("parameters", .object parameters)]
    ∃ action, registry.lookup name = some action ∧
      (name ≠ chainAction →
        let ended := action.handler parameters world.state
        gate.handleValue value world =
          (.dispatched (.single (Dispatcher.resultOf name ended.1)),
            { world with state := ended.2, calls := world.calls ++ [⟨name, parameters⟩] })) ∧
      (name = chainAction → gate.handleValue value world = (.dispatched (.chain []), world)) := by
  intro gate value
  obtain ⟨action, owned⟩ := Registry.exists_lookup_iff.mpr advertised
  have written : value = ToolCall.toJson ⟨name, parameters, some true⟩ := rfl
  refine ⟨action, owned, fun unreserved => ?_, fun reserved => ?_⟩
  · have read : Command.ofJson value = .ok (.tool ⟨name, parameters, some true⟩) := by
      rw [written, Command.ofJson_toJson unreserved]
    have found : gate.dispatcher.registry.lookup
        (ToolCall.action ⟨name, parameters, some true⟩) = some action := owned
    exact handleValue_of_runs read (Policy.check_tool_of_allowed undenied allowed) found
      ⟨action, found, .inr (.inl rfl)⟩ world
  · have read : Command.ofJson value = .ok (.chain []) := by
      rw [written, Command.ofJson_toJson_of_reserved reserved]
    rw [handleValue_of_check read (Policy.check_empty_chain undenied)]
    rfl

end Gate

namespace House

def watch : PluginRegistration Nat where
  name := "watch"
  description := "A watch on its chain"
  actions := [
    ⟨"wind", ⟨"Winds the watch", [], true, count⟩⟩,
    ⟨"chain", ⟨"Pulls the chain", [("links", "number")], false, count⟩⟩]

def watchSettings : Settings where
  policy := { allowedActions := ["wind", "chain"], deniedPatterns := [""] }

def watchRegistry : Registry Nat := Registry.empty.registerAll [watch]

theorem watch_is_wound :
    let gate := Gate.ofSettings watchRegistry silent watchSettings Policy.permitAll
    let value := Json.object [("action", .string "wind"), ("confirm", .bool true),
      ("parameters", .object [("turns", .whole 3)])]
    watchRegistry.Advertises "wind" ∧
      (gate.handleValue value (.start 0)).1 = .dispatched (.single (.success (.whole 1))) ∧
      (gate.handleValue value (.start 0)).2.calls = [⟨"wind", [("turns", .whole 3)]⟩] := by
  have advertised : watchRegistry.Advertises "wind" := Registry.exists_lookup_iff.mp ⟨_, rfl⟩
  obtain ⟨action, owned, runs, -⟩ := Gate.advertised_actions_run_unless_reserved watchRegistry silent
    watchSettings "wind" [("turns", .whole 3)] (.start 0) advertised (by decide) (by decide)
  cases owned
  have ran := runs (by decide)
  exact ⟨advertised, congrArg Prod.fst ran, congrArg (fun ended => ended.2.calls) ran⟩

/-- The chain is installed, advertised and allowed, but a call of it pulls nothing. -/
theorem chain_of_the_watch_is_never_pulled :
    let gate := Gate.ofSettings watchRegistry silent watchSettings Policy.permitAll
    let value := Json.object [("action", .string "chain"), ("confirm", .bool true),
      ("parameters", .object [("links", .whole 3)])]
    (∃ after, Registry.empty.register watch = (.ok (), after)) ∧ watchRegistry.Advertises "chain" ∧
      "chain" ∈ watchSettings.policy.allowedActions ∧
      (∀ pattern ∈ watchSettings.policy.deniedPatterns, pattern = "") ∧
      (∃ action, watchRegistry.lookup "chain" = some action) ∧
      gate.handleValue value (.start 0) = (.dispatched (.chain []), .start 0) :=
  ⟨⟨_, rfl⟩, Registry.exists_lookup_iff.mp ⟨_, rfl⟩, by decide, by decide, ⟨_, rfl⟩, rfl⟩

end House

end CommandGate
