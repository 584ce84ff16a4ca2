import CommandGate.Proofs.Mediation
import CommandGate.Proofs.WrittenTexts

/-!
What the deny-list keeps out. Patterns are looked for in the lower-cased JSON text of a command, not
in its texts; for a pattern of plain characters this finds every occurrence in any text of a leaf,
upper and lower case of ASCII letters not told apart. So no handler is ever given such a text.
-/

namespace CommandGate

open Text (IsPlain OccursCaseless)

variable {σ : Type}

namespace Policy

theorem occurs_of_occursCaseless {pattern text : String} {leaf : ToolCall}
    (plain : ∀ c ∈ pattern.toList, IsPlain c) (holds : leaf.Holds text)
    (occurs : OccursCaseless pattern.toList text.toList) : Occurs pattern (.tool leaf) := by
  obtain ⟨part, inside, same⟩ := List.infix_map_iff.mp occurs
  -- the part of the text may differ from the pattern in case, but it is as plain
  have partPlain : ∀ c ∈ part, IsPlain c := by
    intro c here
    have lowered : c.toLower ∈ pattern.toList.map Char.toLower := same ▸ List.mem_map_of_mem here
    obtain ⟨d, there, equal⟩ := List.mem_map.mp lowered
    exact (plain d there).of_toLower_eq equal.symm
  have ascii : ∀ {text : List Char}, (∀ c ∈ text, IsPlain c) → Text.IsAscii text :=
    fun plain c here => lt_trans (plain c here).2.1 (by decide)
  rw [Occurs, Text.lower_ascii (ascii plain), same]
  exact Text.map_toLower_infix_lower (ascii partPlain)
    (Json.infix_write partPlain inside holds.toJson)

end Policy

namespace Gate

/-- No text of an accepted command contains a denied pattern of plain characters, and no handler is
given parameters with such a text, whatever is handed to the gate. -/
theorem denied_patterns_are_kept_out (registry : Registry σ) (oracle : Oracle σ)
    (settings : Settings) (authorize : Command → Bool) (pattern : String)
    (listed : pattern ∈ settings.policy.deniedPatterns) (nonempty : pattern ≠ "")
    (plain : ∀ c ∈ pattern.toList, IsPlain c) :
    (∀ command, (Policy.ofSettings settings.policy authorize).check command = .ok () →
      ∀ leaf ∈ command.leaves, ∀ text, leaf.Holds text →
        ¬OccursCaseless pattern.toList text.toList) ∧
    ∀ submission world,
      let gate := ofSettings registry oracle settings authorize
      ∃ calls, (gate.handle submission world).2.calls = world.calls ++ calls ∧
        (gate.handle submission world).2 =
          registry.invokeAll calls (gate.receive submission world).2 ∧
        ∀ call ∈ calls, ∀ text, Json.Holds text (.object call.parameters) →
          ¬OccursCaseless pattern.toList text.toList := by
  have keptOut : ∀ command, (Policy.ofSettings settings.policy authorize).check command = .ok () →
      ∀ leaf ∈ command.leaves, ∀ text, leaf.Holds text →
        ¬OccursCaseless pattern.toList text.toList := by
    intro command accepted leaf inside text holds occurs
    have clean := (Policy.passes_of_mem_leaves accepted inside).clean
    exact clean pattern listed nonempty (Policy.occurs_of_occursCaseless plain holds occurs)
  refine ⟨keptOut, fun submission world => ?_⟩
  intro gate
  have quiet : (gate.receive submission world).2.calls = world.calls :=
    receive_calls submission world
  rcases gate.handle_cases submission world with
    ⟨value, command, -, -, accepted, handled⟩ | ⟨-, unchanged, -⟩
  · refine ⟨(command.leaves.filter gate.dispatcher.Runs).map ToolCall.invocation, ?_, ?_, ?_⟩
    · rw [handled, Dispatcher.dispatch_calls, quiet]
    · rw [handled, Dispatcher.dispatch_world]
      rfl
    · intro call inside text holds
      obtain ⟨leaf, kept, rfl⟩ := List.mem_map.mp inside
      exact keptOut command accepted leaf (List.mem_filter.mp kept).1 text (.inr holds)
  · refine ⟨[], ?_, unchanged, nofun⟩
    rw [unchanged, quiet, List.append_nil]

end Gate

namespace House

def ring (tone : String) : Json :=
  call "ring" [("parameters", .object [("tone", .string tone)])]

theorem off_is_kept_out :
    let after := ((Gate.ofSettings registry silent settings Policy.permitAll).handle
      (.value (ring "of iron")) (.start 0)).2
    after.calls = [⟨"ring", [("tone", .string "of iron")]⟩] ∧
      ∀ call ∈ after.calls, ∀ text, Json.Holds text (.object call.parameters) →
        ¬OccursCaseless "Off".toList text.toList := by
  have plain : ∀ c ∈ "Off".toList, IsPlain c := by simp [IsPlain]
  have keptOut := Gate.denied_patterns_are_kept_out registry silent settings Policy.permitAll "Off"
    (by decide) (by decide) plain
  obtain ⟨calls, recorded, -, clean⟩ := keptOut.2 (.value (ring "of iron")) (.start 0)
  refine ⟨rfl, ?_⟩
  rw [recorded]
  exact clean

end House

end CommandGate
