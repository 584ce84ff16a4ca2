import CommandGate.Proofs.OracleReplies

/-!
Replies with nothing in them. What is recovered from a text never has blanks at its ends. A blank text
comes to an object without members, which names no action and is rejected for that; but a fence with
nothing in it comes to the empty text, which is no JSON.
-/

namespace CommandGate

namespace Text

variable {text : List Char}

/-- Neither the first nor the last character of the text is blank. -/
structure Flush (text : List Char) : Prop where
  first : ∀ c ∈ text.head?, isBlank c = false
  last : ∀ c ∈ text.getLast?, isBlank c = false

theorem head?_dropWhile (p : Char → Bool) (text : List Char) :
    ∀ c ∈ (text.dropWhile p).head?, p c = false := by
  intro c first
  have stops := List.head?_dropWhile_not p text
  rw [Option.mem_def.mp first] at stops
  exact stops

theorem head?_cut {p : Char → Bool} {c : Char}
    (first : c ∈ (text.reverse.dropWhile p).reverse.head?) : c ∈ text.head? := by
  have ahead : (text.reverse.dropWhile p).reverse <+: text := by
    rw [← List.reverse_suffix, List.reverse_reverse]
    exact List.dropWhile_suffix _
  obtain ⟨rest, whole⟩ := ahead
  rw [← whole, List.head?_append, Option.mem_def.mp first]
  rfl

theorem flush_trim (text : List Char) : Flush (trim text) where
  first c first := head?_dropWhile isBlank text c (head?_cut first)
  last c last := by
    rw [trim, trimEnd, List.getLast?_reverse] at last
    exact head?_dropWhile isBlank _ c last

theorem trim_eq_nil_iff : trim text = [] ↔ ∀ c ∈ text, isBlank c = true := by
  constructor
  · intro nothing
    rw [trim, trimEnd, List.reverse_eq_nil_iff, List.dropWhile_eq_nil_iff] at nothing
    have started : trimStart text = [] := by
      cases starts : trimStart text with
      | nil => rfl
      | cons c rest =>
        have visible : isBlank c = false := head?_dropWhile isBlank text c (by
          rw [← trimStart, starts]
          rfl)
        have blank := nothing c (by simp [starts])
        rw [visible] at blank
        cases blank
    exact List.dropWhile_eq_nil_iff.mp started
  · intro blank
    have started : trimStart text = [] := List.dropWhile_eq_nil_iff.mpr blank
    rw [trim, started, trimEnd_nil]

theorem length_le_of_splitAtFirst {part before after front back : List Char}
    (found : splitAtFirst part text = some (before, after))
    (occurs : text = front ++ part ++ back) : back.length ≤ after.length := by
  obtain ⟨first, rest, split, ends⟩ := exists_splitAtFirst_append front part back
  rw [← occurs, found] at split
  cases split
  exact ends.length_le

end Text

/-! ### A fence with nothing in it -/

theorem unfenced_of_splitAtFirst {text before after : List Char}
    (found : Text.splitAtFirst fence text = some (before, after)) : Unfenced before where
  absent := by
    rintro ⟨front, back, rfl⟩
    have whole := Text.append_of_splitAtFirst found
    have earlier : text = front ++ fence ++ (back ++ fence ++ after) := by
      simp only [whole, List.append_assoc]
    have size := Text.length_le_of_splitAtFirst found earlier
    have mark : 0 < fence.length := by decide
    simp only [List.length_append] at size
    omega
  apart := by
    intro last
    obtain ⟨front, rfl⟩ := List.getLast?_eq_some_iff.mp last
    have whole := Text.append_of_splitAtFirst found
    -- a mark in front of a fence starts a fence itself
    have earlier : text = front ++ fence ++ ('`' :: after) := by
      rw [whole]
      simp [fence]
    have size := Text.length_le_of_splitAtFirst found earlier
    rw [List.length_cons] at size
    omega

theorem exists_tag_append (content : List Char) :
    ∃ tag ∈ fenceTags, content = tag ++ dropTag content := by
  unfold dropTag
  split
  next rest lower => exact ⟨_, by decide, Text.dropStart?_eq_some_iff.mp lower⟩
  next =>
    split
    next rest upper => exact ⟨_, by decide, Text.dropStart?_eq_some_iff.mp upper⟩
    next => exact ⟨[], by decide, rfl⟩

/-- The first fence of the text is closed, and between it and the next one stands nothing but a tag
and blanks. -/
def FencesNothing (text : List Char) : Prop := ∃ wrapping : Wrapping, text = wrapping.around []

theorem fencesNothing_of_fencedContent? {text : List Char} (nothing : fencedContent? text = some []) :
    FencesNothing text := by
  rw [fencedContent?, Option.bind_eq_some_iff] at nothing
  obtain ⟨⟨prose, opened⟩, first, nothing⟩ := nothing
  obtain ⟨⟨content, rest⟩, second, trimmed⟩ := Option.map_eq_some_iff.mp nothing
  obtain ⟨tag, tagged, same⟩ := exists_tag_append content
  let wrapping : Wrapping := {
    prose, tag, rest, tagged
    lead := dropTag content
    trail := []
    unfenced := unfenced_of_splitAtFirst first
    leadBlank := Text.trim_eq_nil_iff.mp trimmed
    trailBlank := fun _ inside => absurd inside List.not_mem_nil }
  have inner : wrapping.content [] = content := by
    simp [Wrapping.content, wrapping, ← same]
  refine ⟨wrapping, ?_⟩
  rw [Wrapping.around, inner, Text.append_of_splitAtFirst first, Text.append_of_splitAtFirst second]

theorem braced_of_objectSpan? {text span : List Char} (found : objectSpan? text = some span) :
    span ≠ [] ∧ (∀ c ∈ span.head?, c = '\x7b') ∧ ∀ c ∈ span.getLast?, c = '\x7d' := by
  simp only [objectSpan?] at found
  split at found
  · cases found
  next nonempty =>
    cases found
    refine ⟨mt List.isEmpty_iff.mpr nonempty, fun c first => ?_, fun c last => ?_⟩
    · exact bne_eq_false_iff_eq.mp (Text.head?_dropWhile _ _ c (Text.head?_cut first))
    · rw [List.getLast?_reverse] at last
      exact bne_eq_false_iff_eq.mp (Text.head?_dropWhile _ _ c last)

/-! ### What is handed on -/

theorem flush_extract (raw : List Char) : Text.Flush (extract raw) := by
  unfold extract
  split
  next content fenced =>
    obtain ⟨-, content, -, -, rfl⟩ := exists_of_fencedContent? fenced
    exact Text.flush_trim _
  next =>
    split
    next span found =>
      obtain ⟨-, opens, closes⟩ := braced_of_objectSpan? found
      exact ⟨fun c first => opens c first ▸ rfl, fun c last => closes c last ▸ rfl⟩
    next =>
      split
      · refine ⟨fun c first => ?_, fun c last => ?_⟩
        · obtain rfl : '\x7b' = c := Option.some.inj first
          rfl
        · obtain rfl : '\x7d' = c := Option.some.inj last
          rfl
      · exact Text.flush_trim raw

theorem extract_eq_nil_iff {raw : List Char} : extract raw = [] ↔ FencesNothing raw := by
  constructor
  · intro nothing
    refine fencesNothing_of_fencedContent? ?_
    unfold extract at nothing
    split at nothing
    next content fenced => rw [fenced, nothing]
    next =>
      split at nothing
      next span found => exact absurd nothing (braced_of_objectSpan? found).1
      next =>
        split at nothing
        · cases nothing
        next visible => simp [nothing] at visible
  · rintro ⟨wrapping, rfl⟩
    have empty : Unfenced [] := ⟨by decide, by decide⟩
    rw [wrapping.extract_around empty]
    · rfl
    · intro _ _ tag listed nonempty starts
      exact nonempty (List.prefix_nil.mp starts)

theorem extract_of_blank {raw : List Char} (blank : ∀ c ∈ raw, Text.isBlank c = true) :
    extract raw = emptyObject := by
  have absent : ∀ {c : Char}, Text.isBlank c = false → c ∉ raw := by
    intro c visible inside
    rw [blank c inside] at visible
    cases visible
  have unfenced : fencedContent? raw = none := by
    rw [fencedContent?_eq_none_iff]
    rintro ⟨before, content, after, rfl⟩
    exact absent (c := '`') rfl (by simp [fence])
  have unopened : raw.dropWhile (· != '\x7b') = [] := by
    rw [List.dropWhile_eq_nil_iff]
    intro c inside
    exact bne_iff_ne.mpr fun same => absent (c := '\x7b') rfl (same ▸ inside)
  have spanless : objectSpan? raw = none := by simp [objectSpan?, unopened]
  rw [extract, unfenced, spanless, Text.trim_eq_nil_iff.mpr blank]
  rfl

namespace Gate

variable {σ : Type} {gate : Gate σ} {userText : String} {world : World σ} {raw : List Char}

theorem handleText_of_blank (answered : (gate.generate userText world).1 = .ok (String.ofList raw))
    (blank : ∀ c ∈ raw, Text.isBlank c = true) :
    gate.handleText userText world =
      (.rejected (.malformed .missingAction), (gate.generate userText world).2) := by
  have comes : gate.ComesTo userText world (.object []) := by
    refine comesTo_of_read answered ?_
    rw [String.toList_ofList, extract_of_blank blank]
    rfl
  exact comes.handled

theorem handleText_of_fencesNothing
    (answered : (gate.generate userText world).1 = .ok (String.ofList raw))
    (hollow : FencesNothing raw) :
    gate.handleText userText world =
      (.failed ("Malformed response from LLM: " ++ Json.Fault.malformed.message),
        (gate.generate userText world).2) := by
  refine handleText_of_unread answered ?_
  rw [String.toList_ofList, extract_eq_nil_iff.mpr hollow]
  rfl

/-- What is recovered from a text has no blanks at its ends, and it is empty exactly if the first fence
holds nothing. A blank text comes to the placeholder, so a reply that is blank is rejected for naming no
action; a reply whose first fence holds nothing is no JSON. -/
theorem blank_replies_are_rejected_unless_fenced (gate : Gate σ) (userText : String)
    (world : World σ) (raw : List Char) :
    Text.Flush (extract raw) ∧
    (extract raw = [] ↔ FencesNothing raw) ∧
    ((∀ c ∈ raw, Text.isBlank c = true) → extract raw = emptyObject) ∧
    ((gate.generate userText world).1 = .ok (String.ofList raw) →
      ((∀ c ∈ raw, Text.isBlank c = true) → gate.handleText userText world =
        (.rejected (.malformed .missingAction), (gate.generate userText world).2)) ∧
      (FencesNothing raw → gate.handleText userText world =
        (.failed ("Malformed response from LLM: " ++ Json.Fault.malformed.message),
          (gate.generate userText world).2))) := by
  refine ⟨flush_extract raw, extract_eq_nil_iff, extract_of_blank, fun answered => ⟨?_, ?_⟩⟩
  · exact handleText_of_blank answered
  · exact handleText_of_fencesNothing answered

end Gate

namespace House

def hush : List Char := [' ', '\n', '\u3000']

theorem hush_is_rejected :
    extract hush = emptyObject ∧
      ((gateAnswering hush).handleText "Chime!" (.start 0)).1 =
        .rejected (.malformed .missingAction) ∧
      ((gateAnswering hush).handleText "Chime!" (.start 0)).2.calls = [] := by
  have blank : ∀ c ∈ hush, Text.isBlank c = true := List.all_iff_forall_prop.mp (by decide)
  obtain ⟨-, -, recovered, handled⟩ :=
    (gateAnswering hush).blank_replies_are_rejected_unless_fenced "Chime!" (.start 0) hush
  have rejected := (handled rfl).1 blank
  refine ⟨recovered blank, ?_, ?_⟩
  · rw [rejected]
  · rw [rejected]
    rfl

def hollow : List Char := fence ++ ['j', 's', 'o', 'n', '\n'] ++ fence

/-- Nothing stands between the fences, and still no placeholder is recovered: the empty text is handed
on, and the reply fails as no JSON in place of being rejected for want of an action. -/
theorem hollow_fence_is_handed_on :
    extract hollow = [] ∧
      ((gateAnswering hollow).generate "Chime!" (.start 0)).1 = .ok (String.ofList hollow) ∧
      ((gateAnswering hollow).handleText "Chime!" (.start 0)).1 =
        .failed ("Malformed response from LLM: " ++ Json.Fault.malformed.message) ∧
      ((gateAnswering hollow).handleText "Chime!" (.start 0)).1 ≠
        .rejected (.malformed .missingAction) := by
  have recovered : extract hollow = [] := by decide +kernel
  have failed : (gateAnswering hollow).handleText "Chime!" (.start 0) = _ :=
    Gate.handleText_of_fencesNothing rfl (extract_eq_nil_iff.mp recovered)
  refine ⟨recovered, rfl, ?_, ?_⟩
  · rw [failed]
  · rw [failed]
    nofun

end House

end CommandGate
