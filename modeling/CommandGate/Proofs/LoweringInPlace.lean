import CommandGate.Text.Lowercase
import Mathlib.Data.List.Infix
import Mathlib.Data.List.TakeWhile

/-!
Lowering of a part of a text. What stands around a part matters to its capital sigmas alone: the
part lowers in its place as it does by itself exactly if each of its capital sigmas has the same
form in both. This holds of every part without a capital sigma, and of every part that is enclosed
by characters at which the search for a letter next to a sigma stops.
-/

namespace CommandGate.Text

/-- What a part lowers to where it stands between `before`, nearest character first, and `after`. -/
def lowerBetween (before after : List Char) : List Char → List Char
  | [] => []
  | c :: text =>
    (if c = 'Σ' then [lowerSigma before (text ++ after)] else lowerChar c) ++
      lowerBetween (c :: before) after text

theorem lowerAfter_append (before text after : List Char) :
    lowerAfter before (text ++ after) =
      lowerBetween before after text ++ lowerAfter (text.reverse ++ before) after := by
  induction text generalizing before with
  | nil => rfl
  | cons c text ih =>
    rw [List.cons_append, lowerAfter, lowerBetween, ih, List.reverse_cons, List.append_assoc,
      List.append_assoc, List.singleton_append]

theorem lower_append_append (before part after : List Char) :
    lower (before ++ part ++ after) =
      lowerBetween [] (part ++ after) before ++ lowerBetween before.reverse after part ++
        lowerAfter (part.reverse ++ before.reverse) after := by
  rw [lower, List.append_assoc, lowerAfter_append, List.append_nil, lowerAfter_append,
    List.append_assoc]

/-- Every capital sigma of the part has the same form between `before`, nearest character first, and
`after` as in the part by itself. -/
def KeepsSigmas (before part after : List Char) : Prop :=
  ∀ front back, part = front ++ 'Σ' :: back →
    lowerSigma (front.reverse ++ before) (back ++ after) = lowerSigma front.reverse back

theorem forall_cut_cons_iff {P : List Char → List Char → Prop} {c d : Char} {text : List Char} :
    (∀ front back, c :: text = front ++ d :: back → P front back) ↔
      (c = d → P [] text) ∧ ∀ front back, text = front ++ d :: back → P (c :: front) back := by
  constructor
  · intro all
    exact ⟨fun here => all [] text (here ▸ rfl),
      fun front back cut => all (c :: front) back (cut ▸ rfl)⟩
  · rintro ⟨here, there⟩ front back cut
    cases front with
    | nil =>
      cases cut
      exact here rfl
    | cons first front =>
      cases cut
      exact there front back rfl

theorem lowerBetween_eq_lowerAfter_iff (seen before part after : List Char) :
    lowerBetween (seen ++ before) after part = lowerAfter seen part ↔
      ∀ front back, part = front ++ 'Σ' :: back →
        lowerSigma (front.reverse ++ (seen ++ before)) (back ++ after) =
          lowerSigma (front.reverse ++ seen) back := by
  induction part generalizing seen with
  | nil => simp [lowerBetween, lowerAfter]
  | cons c part ih =>
    have later := ih (c :: seen)
    rw [List.cons_append] at later
    rw [forall_cut_cons_iff, lowerBetween, lowerAfter]
    simp only [List.reverse_cons, List.append_assoc, List.reverse_nil, List.nil_append,
      List.cons_append, ← later]
    by_cases sigma : c = 'Σ'
    · simp only [sigma, if_true, List.singleton_append, List.cons.injEq, forall_const]
    · simp only [sigma, if_false, List.append_cancel_left_eq, false_imp_iff, true_and]

theorem lowerBetween_eq_lower_iff {before part after : List Char} :
    lowerBetween before after part = lower part ↔ KeepsSigmas before part after := by
  have whole := lowerBetween_eq_lowerAfter_iff [] before part after
  simp only [List.nil_append, List.append_nil] at whole
  exact whole

theorem lower_infix_lower {before part after : List Char}
    (keeps : KeepsSigmas before.reverse part after) :
    lower part <:+: lower (before ++ part ++ after) := by
  rw [lower_append_append, lowerBetween_eq_lower_iff.mpr keeps]
  exact List.infix_append _ _ _

/-! ### Parts that keep their sigmas in every place -/

theorem keepsSigmas_of_not_mem {before part after : List Char} (absent : 'Σ' ∉ part) :
    KeepsSigmas before part after := by
  rintro front back rfl
  simp at absent

/-- The search for a letter before or after a sigma does not go past the character, which is no
capital sigma itself. -/
def Halts (c : Char) : Prop := isCaseIgnorable c = false ∧ c ≠ 'Σ'

instance (c : Char) : Decidable (Halts c) := inferInstanceAs (Decidable (_ ∧ _))

theorem startsCased_append {text : List Char} (halts : ∃ c ∈ text, isCaseIgnorable c = false)
    (rest : List Char) : startsCased (text ++ rest) = startsCased text := by
  have stops : text.dropWhile isCaseIgnorable ≠ [] := by
    obtain ⟨c, inside, halts⟩ := halts
    intro none
    have ignorable := List.dropWhile_eq_nil_iff.mp none c inside
    rw [halts] at ignorable
    cases ignorable
  obtain ⟨first, later, found⟩ := List.exists_cons_of_ne_nil stops
  rw [startsCased, startsCased, List.dropWhile_append, found]
  rfl

structure Enclosed (part : List Char) : Prop where
  opens : ∀ c ∈ part.head?, Halts c
  closes : ∀ c ∈ part.getLast?, Halts c

theorem enclosed_of_ends {first last : Char} (opens : Halts first) (closes : Halts last)
    (middle : List Char) : Enclosed (first :: middle ++ [last]) where
  opens c here := by
    cases here
    exact opens
  closes c here := by
    rw [List.getLast?_concat] at here
    cases here
    exact closes

theorem Enclosed.keepsSigmas {part : List Char} (enclosed : Enclosed part)
    (before after : List Char) : KeepsSigmas before part after := by
  obtain ⟨opens, closes⟩ := enclosed
  rintro front back rfl
  have inFront : ∃ c ∈ front.reverse, isCaseIgnorable c = false := by
    cases front with
    | nil => exact absurd rfl (opens 'Σ' rfl).2
    | cons c front => exact ⟨c, List.mem_reverse.mpr List.mem_cons_self, (opens c rfl).1⟩
  have inBack : ∃ c ∈ back, isCaseIgnorable c = false := by
    rcases List.eq_nil_or_concat' back with rfl | ⟨back, c, rfl⟩
    · exact absurd rfl (closes 'Σ' List.getLast?_concat).2
    · have last : (front ++ 'Σ' :: (back ++ [c])).getLast? = some c := by
        rw [← List.cons_append, ← List.append_assoc]
        exact List.getLast?_concat
      exact ⟨c, List.mem_append_right _ List.mem_cons_self, (closes c last).1⟩
  rw [lowerSigma, lowerSigma, startsCased_append inFront, startsCased_append inBack]

end CommandGate.Text
