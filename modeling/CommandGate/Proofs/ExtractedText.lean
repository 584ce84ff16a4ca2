import Mathlib.Data.Bool.AllAny
import Mathlib.Data.List.TakeWhile
import CommandGate.Extract

/-!
What is recovered from a text. A payload is recovered from between two fences whatever the prose
before them and the text after them hold, as long as the fences are the first two. A text without a
closed fence gives the span between its braces.
-/

namespace CommandGate

namespace Text

variable {part before text : List Char}

/-! ### The first occurrence -/

theorem dropStart?_eq_none_iff : dropStart? part text = none ↔ ¬part <+: text := by
  rw [Option.eq_none_iff_forall_ne_some]
  constructor
  · rintro absent ⟨rest, rfl⟩
    exact absent rest (dropStart?_eq_some_iff.mpr rfl)
  · intro absent rest found
    exact absent ⟨rest, (dropStart?_eq_some_iff.mp found).symm⟩

theorem splitAtFirst_start (part after : List Char) :
    splitAtFirst part (part ++ after) = some ([], after) := by
  have starts : dropStart? part (part ++ after) = some after := dropStart?_eq_some_iff.mpr rfl
  cases whole : part ++ after with
  | nil =>
    obtain ⟨rfl, rfl⟩ := List.append_eq_nil_iff.mp whole
    rfl
  | cons c rest =>
    rw [whole] at starts
    rw [splitAtFirst, starts]

theorem splitAtFirst_append (absent : ¬part <:+: before) (apart : ∀ c ∈ before.getLast?, c ∉ part)
    (after : List Char) : splitAtFirst part (before ++ part ++ after) = some (before, after) := by
  induction before with
  | nil => exact splitAtFirst_start part after
  | cons c before ih =>
    have later : dropStart? part (c :: (before ++ part ++ after)) = none := by
      rw [dropStart?_eq_none_iff, List.append_assoc, ← List.cons_append]
      intro starts
      rcases List.prefix_or_prefix_of_prefix starts (List.prefix_append _ _) with inside | across
      · exact absent inside.isInfix
      · have nonempty := List.cons_ne_nil c before
        exact apart _ (List.getLast?_eq_some_getLast nonempty)
          (across.subset (List.getLast_mem nonempty))
    have absent' : ¬part <:+: before := fun inside => absent (List.infix_cons inside)
    have apart' : ∀ d ∈ before.getLast?, d ∉ part := by
      intro d last
      refine apart d ?_
      rw [List.getLast?_cons, Option.mem_def.mp last]
      rfl
    rw [List.cons_append, List.cons_append, splitAtFirst, later, ih absent' apart']
    rfl

theorem exists_splitAtFirst_append (before part after : List Char) :
    ∃ front rest, splitAtFirst part (before ++ part ++ after) = some (front, rest) ∧
      after <:+ rest := by
  induction before with
  | nil => exact ⟨[], after, splitAtFirst_start part after, List.suffix_rfl⟩
  | cons c before ih =>
    rw [List.cons_append, List.cons_append, splitAtFirst]
    split
    next rest found =>
      have text := dropStart?_eq_some_iff.mp found
      have ends : after <:+ part ++ rest := text ▸ List.suffix_append (c :: (before ++ part)) after
      have sizes := congrArg List.length text
      have size : after.length ≤ rest.length := by
        simp only [List.length_cons, List.length_append] at sizes
        omega
      exact ⟨[], rest, rfl,
        List.suffix_of_suffix_length_le ends (List.suffix_append part rest) size⟩
    next =>
      obtain ⟨front, rest, found, ends⟩ := ih
      rw [found]
      exact ⟨c :: front, rest, rfl, ends⟩

theorem infix_of_infix_append_right {front : List Char} (nonempty : part ≠ [])
    (distinct : ∀ c ∈ front, c ∉ part) (occurs : part <:+: front ++ text) : part <:+: text := by
  induction front with
  | nil => exact occurs
  | cons c front ih =>
    obtain ⟨here, there⟩ := List.forall_mem_cons.mp distinct
    rcases List.infix_cons_iff.mp occurs with starts | inside
    · obtain ⟨p, part, rfl⟩ := List.exists_cons_of_ne_nil nonempty
      obtain ⟨rfl, -⟩ := List.cons_prefix_cons.mp starts
      exact absurd List.mem_cons_self here
    · exact ih there inside

theorem infix_of_infix_append_left {back : List Char} (nonempty : part ≠ [])
    (distinct : ∀ c ∈ back, c ∉ part) (occurs : part <:+: text ++ back) : part <:+: text := by
  rw [← List.reverse_infix, List.reverse_append] at occurs
  rw [← List.reverse_infix]
  refine infix_of_infix_append_right (by simpa using nonempty) ?_ occurs
  simpa using distinct

/-! ### Blanks around a text -/

theorem trimEnd_append {trail : List Char} (blank : ∀ c ∈ trail, isBlank c = true)
    (text : List Char) : trimEnd (text ++ trail) = trimEnd text := by
  have blank' : ∀ c ∈ trail.reverse, isBlank c = true := by simpa using blank
  rw [trimEnd, List.reverse_append, List.dropWhile_append_of_pos blank', trimEnd]

theorem trim_append {lead trail : List Char} (ahead : ∀ c ∈ lead, isBlank c = true)
    (behind : ∀ c ∈ trail, isBlank c = true) (text : List Char) :
    trim (lead ++ text ++ trail) = trim text := by
  rw [trim, trim, trimStart, trimStart, List.append_assoc, List.dropWhile_append_of_pos ahead,
    List.dropWhile_append]
  split
  next blank =>
    have nothing : trail.dropWhile isBlank = [] := List.dropWhile_eq_nil_iff.mpr behind
    rw [nothing, List.isEmpty_iff.mp blank]
  next => exact trimEnd_append behind _

theorem trim_of_ends {c d : Char} {front back : List Char} (starts : text = c :: back)
    (ends : text = front ++ [d]) (first : isBlank c = false) (last : isBlank d = false) :
    trim text = text := by
  have kept : trimStart text = text := by
    rw [starts]
    exact trimStart_of_head back first
  rw [trim, kept, ends]
  exact trimEnd_of_last front last

theorem length_trim_le (text : List Char) : (trim text).length ≤ text.length := by
  have front : (trimStart text).length ≤ text.length := (List.dropWhile_suffix _).length_le
  have back : (trim text).length ≤ (trimStart text).reverse.length := by
    rw [trim, trimEnd, List.length_reverse]
    exact (List.dropWhile_suffix _).length_le
  rw [List.length_reverse] at back
  exact Nat.le_trans back front

end Text

/-! ### Between two fences -/

/-- A fence put right after the text is the first one. -/
structure Unfenced (text : List Char) : Prop where
  absent : ¬fence <:+: text
  apart : '`' ∉ text.getLast?

theorem splitAtFirst_fence {before : List Char} (unfenced : Unfenced before) (after : List Char) :
    Text.splitAtFirst fence (before ++ fence ++ after) = some (before, after) := by
  refine Text.splitAtFirst_append unfenced.absent ?_ after
  intro c last inside
  have mark : ∀ c ∈ fence, c = '`' := List.all_iff_forall_prop.mp (by decide)
  exact unfenced.apart (mark c inside ▸ last)

theorem fencedContent?_fenced {before content : List Char} (ahead : Unfenced before)
    (unfenced : Unfenced content) (rest : List Char) :
    fencedContent? (before ++ fence ++ (content ++ fence ++ rest)) =
      some (Text.trim (dropTag content)) := by
  rw [fencedContent?, splitAtFirst_fence ahead, Option.bind_some]
  simp only [splitAtFirst_fence unfenced, Option.map_some]

def fenceTags : List (List Char) := [[], ['j', 's', 'o', 'n'], ['J', 'S', 'O', 'N']]

def Untagged (text : List Char) : Prop := ∀ tag ∈ fenceTags, tag ≠ [] → ¬tag <+: text

theorem dropTag_append {tag content : List Char} (tagged : tag ∈ fenceTags)
    (clear : tag = [] → Untagged content) : dropTag (tag ++ content) = content := by
  have start : ∀ part : List Char, Text.dropStart? part (part ++ content) = some content :=
    fun part => Text.dropStart?_eq_some_iff.mpr rfl
  simp only [fenceTags, List.mem_cons, List.not_mem_nil, or_false] at tagged
  rcases tagged with rfl | rfl | rfl
  · have lower : Text.dropStart? ['j', 's', 'o', 'n'] content = none :=
      Text.dropStart?_eq_none_iff.mpr (clear rfl _ (by decide) (by decide))
    have upper : Text.dropStart? ['J', 'S', 'O', 'N'] content = none :=
      Text.dropStart?_eq_none_iff.mpr (clear rfl _ (by decide) (by decide))
    simp only [dropTag, List.nil_append, lower, upper]
  · simp only [dropTag, start]
  · have other : Text.dropStart? ['j', 's', 'o', 'n'] (['J', 'S', 'O', 'N'] ++ content) = none :=
      rfl
    simp only [dropTag, other, start]

theorem plain_of_mem_fenceTags {tag : List Char} (tagged : tag ∈ fenceTags) :
    ∀ c ∈ tag, Text.isBlank c = false ∧ c ∉ fence := by
  have all : ∀ c ∈ fenceTags.flatten, Text.isBlank c = false ∧ c ∉ fence :=
    List.all_iff_forall_prop.mp (by decide)
  exact fun c inside => all c (List.mem_flatten_of_mem tagged inside)

theorem not_mem_fence_of_isBlank {c : Char} (blank : Text.isBlank c = true) : c ∉ fence := by
  have visible : ∀ d ∈ fence, Text.isBlank d = false := List.all_iff_forall_prop.mp (by decide)
  intro inside
  rw [visible c inside] at blank
  cases blank

/-- What an oracle puts around a payload: prose, a fence with its tag, blanks around the payload,
the fence that closes the first one, and any text after it. -/
structure Wrapping where
  prose : List Char
  tag : List Char
  lead : List Char
  trail : List Char
  rest : List Char
  unfenced : Unfenced prose
  tagged : tag ∈ fenceTags
  leadBlank : ∀ c ∈ lead, Text.isBlank c = true
  trailBlank : ∀ c ∈ trail, Text.isBlank c = true

namespace Wrapping

variable (wrapping : Wrapping) {payload : List Char}

def content (payload : List Char) : List Char :=
  wrapping.tag ++ (wrapping.lead ++ payload ++ wrapping.trail)

def around (payload : List Char) : List Char :=
  wrapping.prose ++ fence ++ (wrapping.content payload ++ fence ++ wrapping.rest)

theorem unfenced_content (unfenced : Unfenced payload) : Unfenced (wrapping.content payload) where
  absent := by
    intro occurs
    have nonempty : fence ≠ [] := by decide
    have untagged := Text.infix_of_infix_append_right nonempty
      (fun c inside => (plain_of_mem_fenceTags wrapping.tagged c inside).2) occurs
    have ended := Text.infix_of_infix_append_left nonempty
      (fun c inside => not_mem_fence_of_isBlank (wrapping.trailBlank c inside)) untagged
    have bare := Text.infix_of_infix_append_right nonempty
      (fun c inside => not_mem_fence_of_isBlank (wrapping.leadBlank c inside)) ended
    exact unfenced.absent bare
  apart := by
    have mark : '`' ∈ fence := by decide
    intro last
    simp only [content, List.getLast?_append, Option.mem_def, Option.or_eq_some_iff] at last
    rcases last with (behind | ⟨-, inside | ⟨-, ahead⟩⟩) | ⟨-, tag⟩
    · exact not_mem_fence_of_isBlank (wrapping.trailBlank _ (List.mem_of_getLast? behind)) mark
    · exact unfenced.apart inside
    · exact not_mem_fence_of_isBlank (wrapping.leadBlank _ (List.mem_of_getLast? ahead)) mark
    · exact (plain_of_mem_fenceTags wrapping.tagged _ (List.mem_of_getLast? tag)).2 mark

theorem untagged_between (clear : wrapping.lead = [] → Untagged payload) :
    Untagged (wrapping.lead ++ payload ++ wrapping.trail) := by
  intro tag listed nonempty starts
  have visible := plain_of_mem_fenceTags listed
  have clash : ∀ c ∈ tag, Text.isBlank c ≠ true := by
    intro c inside
    simp [(visible c inside).1]
  by_cases flush : wrapping.lead = []
  · rw [flush, List.nil_append] at starts
    rcases List.prefix_or_prefix_of_prefix starts (List.prefix_append _ _) with whole | ⟨more, rfl⟩
    · exact clear flush tag listed nonempty whole
    · have behind : more <+: wrapping.trail := (List.prefix_append_right_inj payload).mp starts
      cases more with
      | nil =>
        rw [List.append_nil] at listed nonempty
        exact clear flush payload listed nonempty List.prefix_rfl
      | cons d more =>
        have blank := wrapping.trailBlank d (behind.subset List.mem_cons_self)
        exact clash d (List.mem_append_right payload List.mem_cons_self) blank
  · obtain ⟨c, lead, same⟩ := List.exists_cons_of_ne_nil flush
    obtain ⟨d, tag, rfl⟩ := List.exists_cons_of_ne_nil nonempty
    rw [same, List.cons_append, List.cons_append, List.cons_prefix_cons] at starts
    have blank := wrapping.leadBlank c (same ▸ List.mem_cons_self)
    exact clash d List.mem_cons_self (starts.1 ▸ blank)

theorem extract_around (unfenced : Unfenced payload)
    (clear : wrapping.tag = [] → wrapping.lead = [] → Untagged payload) :
    extract (wrapping.around payload) = Text.trim payload := by
  have found := fencedContent?_fenced wrapping.unfenced (wrapping.unfenced_content unfenced)
    wrapping.rest
  have dropped : dropTag (wrapping.content payload) =
      wrapping.lead ++ payload ++ wrapping.trail :=
    dropTag_append wrapping.tagged fun plain => wrapping.untagged_between (clear plain)
  rw [around, extract, found, dropped]
  exact Text.trim_append wrapping.leadBlank wrapping.trailBlank payload

end Wrapping

/-! ### Between braces -/

/-- Two fences stand in the text that do not overlap. -/
def HasClosedFence (text : List Char) : Prop :=
  ∃ before content after, text = before ++ fence ++ (content ++ fence ++ after)

theorem exists_of_fencedContent? {text found : List Char}
    (taken : fencedContent? text = some found) :
    ∃ before content after, text = before ++ fence ++ (content ++ fence ++ after) ∧
      found = Text.trim (dropTag content) := by
  rw [fencedContent?, Option.bind_eq_some_iff] at taken
  obtain ⟨⟨before, opened⟩, first, taken⟩ := taken
  obtain ⟨⟨content, after⟩, second, trimmed⟩ := Option.map_eq_some_iff.mp taken
  have text := Text.append_of_splitAtFirst first
  rw [Text.append_of_splitAtFirst second] at text
  exact ⟨before, content, after, text, trimmed.symm⟩

theorem fencedContent?_eq_none_iff {text : List Char} :
    fencedContent? text = none ↔ ¬HasClosedFence text := by
  rw [Option.eq_none_iff_forall_ne_some]
  constructor
  · rintro absent ⟨before, content, after, rfl⟩
    obtain ⟨front, opened, first, ends⟩ :=
      Text.exists_splitAtFirst_append before fence (content ++ fence ++ after)
    obtain ⟨between, rfl⟩ := ends
    obtain ⟨inner, rest, second, -⟩ :=
      Text.exists_splitAtFirst_append (between ++ content) fence after
    have same : between ++ (content ++ fence ++ after) = between ++ content ++ fence ++ after := by
      simp only [List.append_assoc]
    refine absent (Text.trim (dropTag inner)) ?_
    rw [fencedContent?, first, Option.bind_some]
    simp only [same, second, Option.map_some]
  · intro unclosed found taken
    obtain ⟨before, content, after, whole, -⟩ := exists_of_fencedContent? taken
    exact unclosed ⟨before, content, after, whole⟩

theorem length_dropTag_le (content : List Char) : (dropTag content).length ≤ content.length := by
  have shorter : ∀ {tag rest : List Char}, Text.dropStart? tag content = some rest →
      rest.length ≤ content.length := by
    intro tag rest found
    rw [Text.dropStart?_eq_some_iff.mp found]
    exact (List.suffix_append tag rest).length_le
  unfold dropTag
  split
  next found => exact shorter found
  next =>
    split
    next found => exact shorter found
    next => exact Nat.le_refl _

theorem length_fencedContent?_lt {text found : List Char}
    (taken : fencedContent? text = some found) : found.length < text.length := by
  obtain ⟨before, content, after, rfl, rfl⟩ := exists_of_fencedContent? taken
  have size := Nat.le_trans (Text.length_trim_le (dropTag content)) (length_dropTag_le content)
  have mark : 0 < fence.length := by decide
  simp only [List.length_append]
  omega

theorem objectSpan?_append {before span after : List Char} (ahead : '\x7b' ∉ before)
    (starts : span.head? = some '\x7b') (ends : span.getLast? = some '\x7d')
    (behind : '\x7d' ∉ after) : objectSpan? (before ++ span ++ after) = some span := by
  obtain ⟨inner, opening⟩ := List.head?_eq_some_iff.mp starts
  obtain ⟨front, closing⟩ := List.getLast?_eq_some_iff.mp ends
  have skipped : ∀ c ∈ before, (c != '\x7b') = true := by
    intro c inside
    exact bne_iff_ne.mpr (ne_of_mem_of_not_mem inside ahead)
  have skipped' : ∀ c ∈ after.reverse, (c != '\x7d') = true := by
    intro c inside
    exact bne_iff_ne.mpr (ne_of_mem_of_not_mem (List.mem_reverse.mp inside) behind)
  have opened : (before ++ span ++ after).dropWhile (· != '\x7b') = span ++ after := by
    rw [List.append_assoc, List.dropWhile_append_of_pos skipped, opening, List.cons_append]
    exact List.dropWhile_cons_of_neg (by decide)
  have closed : (span ++ after).reverse.dropWhile (· != '\x7d') = span.reverse := by
    rw [List.reverse_append, List.dropWhile_append_of_pos skipped', closing, List.reverse_append,
      List.reverse_singleton, List.singleton_append]
    exact List.dropWhile_cons_of_neg (by decide)
  simp only [objectSpan?, opened, closed, List.reverse_reverse]
  rw [opening]
  rfl

theorem extract_span {before span after : List Char} (ahead : '\x7b' ∉ before)
    (starts : span.head? = some '\x7b') (ends : span.getLast? = some '\x7d')
    (behind : '\x7d' ∉ after) (unclosed : ¬HasClosedFence (before ++ span ++ after)) :
    extract (before ++ span ++ after) = span := by
  rw [extract, fencedContent?_eq_none_iff.mpr unclosed,
    objectSpan?_append ahead starts ends behind]

/-- A text in braces is recovered as it is exactly if no fence is closed in it. -/
theorem extract_eq_self_iff {text : List Char} (starts : text.head? = some '\x7b')
    (ends : text.getLast? = some '\x7d') : extract text = text ↔ ¬HasClosedFence text := by
  constructor
  · intro same closed
    have fenced : fencedContent? text ≠ none := fun none =>
      fencedContent?_eq_none_iff.mp none closed
    obtain ⟨content, found⟩ := Option.ne_none_iff_exists'.mp fenced
    have shorter := length_fencedContent?_lt found
    rw [extract, found] at same
    exact absurd (congrArg List.length same) (Nat.ne_of_lt shorter)
  · intro unclosed
    have alone : [] ++ text ++ [] = text := List.append_nil text
    have whole := extract_span List.not_mem_nil starts ends List.not_mem_nil (alone.symm ▸ unclosed)
    rwa [alone] at whole

/-! ### What is recovered -/

theorem Text.trim_of_visible {text : List Char} (first : ∀ c ∈ text.head?, isBlank c = false)
    (last : ∀ c ∈ text.getLast?, isBlank c = false) : trim text = text := by
  cases starts : text with
  | nil => exact trim_nil
  | cons c back =>
    have nonempty : text ≠ [] := by simp [starts]
    have ends := (List.dropLast_concat_getLast nonempty).symm
    rw [← starts]
    exact trim_of_ends starts ends (first c (by simp [starts]))
      (last _ (List.getLast?_eq_some_getLast nonempty))

/-- A payload between the first two fences is recovered as it is, with any tag and any blanks around
it, whatever the prose before and the text after hold; without a tag and blanks before it, it must
not start like a tag itself. Where no fence is closed, an object is recovered from prose without an
opening brace before it and a closing one after it. -/
theorem wrapped_payloads_are_recovered :
    (∀ (wrapping : Wrapping) (payload : List Char), Unfenced payload →
      (∀ c ∈ payload.head?, Text.isBlank c = false) →
      (∀ c ∈ payload.getLast?, Text.isBlank c = false) →
      (wrapping.tag = [] → wrapping.lead = [] → Untagged payload) →
      extract (wrapping.around payload) = payload) ∧
    ∀ before span after : List Char, '\x7b' ∉ before → span.head? = some '\x7b' →
      span.getLast? = some '\x7d' → '\x7d' ∉ after → ¬HasClosedFence (before ++ span ++ after) →
      extract (before ++ span ++ after) = span := by
  refine ⟨fun wrapping payload unfenced first last clear => ?_, ?_⟩
  · rw [wrapping.extract_around unfenced clear]
    exact Text.trim_of_visible first last
  · intro before span after ahead starts ends behind unclosed
    exact extract_span ahead starts ends behind unclosed

def wideWrapping : Wrapping where
  prose := "Use `it` \x7bas it is\x7d:".toList
  tag := []
  lead := ['\u2003']
  trail := ['\u0085', ' ']
  rest := "` or ```\x7b\x7d```".toList
  unfenced := ⟨by decide +kernel, by decide +kernel⟩
  tagged := by decide
  leadBlank := List.all_eq_true.mp rfl
  trailBlank := List.all_eq_true.mp rfl

theorem wide_and_braced_are_recovered :
    extract (wideWrapping.around "json ``x".toList) = "json ``x".toList ∧
      extract ("``` so \x7d".toList ++ "\x7b\x7d, \x7b``\x7d".toList ++ " `\x7b".toList) =
        "\x7b\x7d, \x7b``\x7d".toList := by
  obtain ⟨fenced, braced⟩ := wrapped_payloads_are_recovered
  refine ⟨fenced wideWrapping _ ⟨by decide +kernel, by decide +kernel⟩ ?_ ?_ nofun,
    braced _ _ _ (by decide +kernel) (by decide +kernel) (by decide +kernel) (by decide +kernel)
      (fencedContent?_eq_none_iff.mp (by decide +kernel))⟩
  · exact fun c first => by cases first; rfl
  · exact fun c last => by cases last; rfl

end CommandGate
