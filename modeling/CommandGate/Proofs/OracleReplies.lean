import CommandGate.Proofs.ExtractedText
import CommandGate.Proofs.RunComparison
import CommandGate.Proofs.ValueReading

/-!
Replies of the oracle that hold a value in its compact text. In a fence the value is taken for what it
is, whatever prose stands around it. A bare object is taken for what it is as long as its strings
close no fence: fences are looked for first, inside of strings as well.
-/

namespace CommandGate

namespace Json

variable {value : Json}

theorem unfenced_write (whole : value.Whole) (absent : ¬fence <:+: value.write) :
    Unfenced value.write where
  absent := absent
  apart := by
    obtain ⟨front, c, ends, closes⟩ := exists_last_write whole
    rw [ends, List.getLast?_concat, Option.mem_some_iff]
    exact (closers_distinct c closes).2

theorem untagged_write (whole : value.Whole) : Untagged value.write := by
  obtain ⟨c, later, starts, opens⟩ := exists_head_write whole
  have letters : ∀ d ∈ fenceTags.filterMap List.head?, d ∈ [',', ']', '}', '`', 'j', 'J'] :=
    List.all_iff_forall_prop.mp (by decide)
  intro tag listed nonempty leads
  obtain ⟨d, tag, rfl⟩ := List.exists_cons_of_ne_nil nonempty
  rw [starts, List.cons_prefix_cons] at leads
  have first : d ∈ fenceTags.filterMap List.head? := List.mem_filterMap.mpr ⟨_, listed, rfl⟩
  exact (openers_distinct c opens).2.2 (leads.1 ▸ letters d first)

theorem trim_write (whole : value.Whole) : Text.trim value.write = value.write := by
  obtain ⟨c, later, starts, opens⟩ := exists_head_write whole
  obtain ⟨front, d, ends, closes⟩ := exists_last_write whole
  exact Text.trim_of_ends starts ends (openers_distinct c opens).2.1 (closers_distinct d closes).1

end Json

namespace Gate

variable {σ : Type}

/-- A reply that holds the compact text of a value in its first fence is taken for the value. -/
theorem fenced_replies_come_to_value (gate : Gate σ) (userText : String) (world : World σ)
    {value : Json} (ordered : value.Ordered) (whole : value.Whole)
    (shallow : value.depth ≤ Json.nesting) (absent : ¬fence <:+: value.write) (wrapping : Wrapping)
    (answered : (gate.generate userText world).1 =
      .ok (String.ofList (wrapping.around value.write))) :
    gate.ComesTo userText world value := by
  have recovered : extract (wrapping.around value.write) = value.write := by
    rw [wrapping.extract_around (Json.unfenced_write whole absent)
      fun _ _ => Json.untagged_write whole]
    exact Json.trim_write whole
  refine comesTo_of_read answered ?_
  rw [String.toList_ofList, recovered]
  exact Json.read?_write ordered whole shallow

end Gate

namespace House

def answering (text : List Char) : Oracle Nat where
  generate _ rings := (.ok ⟨String.ofList text, []⟩, rings)
  check rings := (.ok (), rings)

def gateAnswering (text : List Char) : Gate Nat :=
  .ofSettings registry (answering text) settings Policy.permitAll

def chime (tone : String) : Json := call "ring" [("parameters", .object [("tone", .string tone)])]

theorem ordered_chime (tone : String) : (chime tone).Ordered := by
  have outer : ["action", "parameters"].Pairwise (· < ·) := by decide
  have inner : ["tone"].Pairwise (· < ·) := by decide
  exact ⟨outer, trivial, ⟨inner, trivial, trivial⟩, trivial⟩

theorem whole_chime (tone : String) : (chime tone).Whole :=
  ⟨trivial, ⟨trivial, trivial⟩, trivial⟩

theorem shallow_chime (tone : String) : (chime tone).depth ≤ Json.nesting := by
  have two : (chime tone).depth = 2 := rfl
  rw [two]
  decide

def chatty : Wrapping where
  prose := "So \x7bbe\x7d `it`:\n".toList
  tag := ['j', 's', 'o', 'n']
  lead := ['\n']
  trail := ['\n', ' ']
  rest := "\x7d or\n```\n\x7b\x7d```".toList
  unfenced := ⟨by decide +kernel, by decide +kernel⟩
  tagged := by decide
  leadBlank := List.all_eq_true.mp rfl
  trailBlank := List.all_eq_true.mp rfl

theorem chatty_chime_rings :
    let gate := gateAnswering (chatty.around (chime "``").write)
    (gate.handleText "Chime!" (.start 0)).1 = .dispatched (.single (.success (.whole 1))) ∧
      (gate.handleText "Chime!" (.start 0)).2.calls = [⟨"ring", [("tone", .string "``")]⟩] := by
  intro gate
  have comes := gate.fenced_replies_come_to_value "Chime!" (.start 0) (ordered_chime "``")
    (whole_chime "``") (shallow_chime "``") (by decide +kernel) chatty rfl
  rw [comes.handled]
  exact ⟨rfl, rfl⟩

end House

namespace Gate

variable {σ : Type}

/-- The compact text of an object is recovered as it is exactly if no two fences stand in it; then a
reply that is this text is taken for the object. -/
theorem bare_objects_are_taken_unless_fenced (gate : Gate σ) (userText : String) (world : World σ)
    {members : List (String × Json)} (ordered : (Json.object members).Ordered)
    (whole : (Json.object members).Whole) (shallow : (Json.object members).depth ≤ Json.nesting) :
    let text := (Json.object members).write
    (extract text = text ↔ ¬HasClosedFence text) ∧
      ((gate.generate userText world).1 = .ok (String.ofList text) → ¬HasClosedFence text →
        gate.ComesTo userText world (.object members)) := by
  intro text
  have taken : extract text = text ↔ ¬HasClosedFence text :=
    extract_eq_self_iff rfl List.getLast?_concat
  refine ⟨taken, fun answered unclosed => comesTo_of_read answered ?_⟩
  rw [String.toList_ofList, taken.mpr unclosed]
  exact Json.read?_write ordered whole shallow

end Gate

namespace House

theorem plain_chime_rings :
    let gate := gateAnswering (chime "```").write
    (gate.handleText "Chime!" (.start 0)).1 = .dispatched (.single (.success (.whole 1))) ∧
      (gate.handleText "Chime!" (.start 0)).2.calls = [⟨"ring", [("tone", .string "```")]⟩] := by
  intro gate
  have taken := gate.bare_objects_are_taken_unless_fenced "Chime!" (.start 0) (ordered_chime "```")
    (whole_chime "```") (shallow_chime "```")
  have unclosed : ¬HasClosedFence (chime "```").write :=
    fencedContent?_eq_none_iff.mp (by decide +kernel)
  rw [(taken.2 rfl unclosed).handled]
  exact ⟨rfl, rfl⟩

/-- A tone in a fence of its own is all that is recovered, and the reply fails that would have rung as
a value. -/
theorem fenced_tone_is_taken_for_the_reply :
    let tune := chime "```bell```"
    let gate := gateAnswering tune.write
    tune.Ordered ∧ tune.Whole ∧ tune.depth ≤ Json.nesting ∧
      (gate.generate "Chime!" (.start 0)).1 = .ok (String.ofList tune.write) ∧
      extract tune.write = ['b', 'e', 'l', 'l'] ∧
      (gate.handleText "Chime!" (.start 0)).1 =
        .failed ("Malformed response from LLM: " ++ Json.Fault.malformed.message) ∧
      (gate.handleText "Chime!" (.start 0)).2.calls = [] ∧
      (gate.handleValue tune (.start 0)).1 = .dispatched (.single (.success (.whole 1))) ∧
      (gate.handleValue tune (.start 0)).2.calls =
        [⟨"ring", [("tone", .string "```bell```")]⟩] := by
  intro tune gate
  have recovered : extract tune.write = ['b', 'e', 'l', 'l'] := by decide +kernel
  have failed : gate.handleText "Chime!" (.start 0) =
      (.failed ("Malformed response from LLM: " ++ Json.Fault.malformed.message),
        (gate.generate "Chime!" (.start 0)).2) := by
    refine Gate.handleText_of_unread rfl ?_
    rw [String.toList_ofList, recovered]
    rfl
  refine ⟨ordered_chime _, whole_chime _, shallow_chime _, rfl, recovered, ?_, ?_, rfl, rfl⟩
  · rw [failed]
  · rw [failed]
    rfl

end House

end CommandGate
