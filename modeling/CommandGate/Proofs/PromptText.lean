import CommandGate.Prompt
import CommandGate.Proofs.IndentedText

/-!
What a prompt says. The user's text stands in it as it is, so it may imitate every other part. Still the
last line that starts with the heading of the capabilities is the real one: their text starts no line
with a letter, and the rules lack a letter of the heading. What follows the heading tells the
capabilities, and with them the rest tells the user's text.
-/

namespace CommandGate

/-! ### Capabilities told apart -/

namespace Members

variable {α β : Type}

theorem mapValues_injective {f : α → β} (injective : Function.Injective f) :
    Function.Injective (mapValues f) := by
  refine List.map_injective_iff.mpr ?_
  rintro ⟨name, value⟩ ⟨name', value'⟩ same
  obtain ⟨rfl, values⟩ := Prod.mk.inj same
  rw [injective values]

end Members

theorem CapabilityAction.toJson_injective : Function.Injective CapabilityAction.toJson := by
  have texts : Function.Injective Json.string := fun _ _ => Json.string.inj
  rintro ⟨description, parameters⟩ ⟨description', parameters'⟩ same
  simp only [toJson, Json.object.injEq, List.cons.injEq, Prod.mk.injEq, Json.string.injEq, true_and,
    and_true] at same
  obtain ⟨rfl, values⟩ := same
  rw [Members.mapValues_injective texts values]

theorem Capability.toJson_injective : Function.Injective Capability.toJson := by
  rintro ⟨name, description, actions⟩ ⟨name', description', actions'⟩ same
  simp only [toJson, Json.object.injEq, List.cons.injEq, Prod.mk.injEq, Json.string.injEq, true_and,
    and_true] at same
  obtain ⟨rfl, rfl, values⟩ := same
  rw [Members.mapValues_injective CapabilityAction.toJson_injective values]

theorem CapabilityAction.whole_toJson (action : CapabilityAction) : action.toJson.Whole := by
  have parameters : (Json.object (action.parameters.mapValues .string)).Whole := by
    refine Json.wholeMembers_iff.mpr fun member inside => ?_
    obtain ⟨source, -, rfl⟩ := List.mem_map.mp inside
    trivial
  exact ⟨trivial, parameters, trivial⟩

theorem Capability.whole_toJson (capability : Capability) : capability.toJson.Whole := by
  have actions : (Json.object (capability.actions.mapValues CapabilityAction.toJson)).Whole := by
    refine Json.wholeMembers_iff.mpr fun member inside => ?_
    obtain ⟨source, -, rfl⟩ := List.mem_map.mp inside
    exact source.2.whole_toJson
  exact ⟨trivial, trivial, actions, trivial⟩

namespace Prompt

theorem whole_capabilities (capabilities : List Capability) :
    (Json.array (capabilities.map Capability.toJson)).Whole := by
  refine Json.wholeItems_iff.mpr ?_
  rw [List.forall_mem_map]
  exact fun capability _ => capability.whole_toJson

theorem capabilityText_injective : Function.Injective capabilityText := by
  intro first second same
  have values := Json.indented_injective (whole_capabilities first) (whole_capabilities second) same
  exact List.map_injective_iff.mpr Capability.toJson_injective (Json.array.inj values)

/-! ### The last line with a heading -/

variable {heading text before rest : List Char}

/-- A line of the text starts with the heading, with these before and after it. -/
structure HeadsLine (heading text before rest : List Char) : Prop where
  cut : text = before ++ (heading ++ rest)
  starts : ∀ c ∈ before.getLast?, c = '\n'

/-- What follows the heading where it starts a line for the last time. -/
def FollowsLast (heading text rest : List Char) : Prop :=
  ∃ before, HeadsLine heading text before rest ∧
    ∀ front back, HeadsLine heading text front back → front.length ≤ before.length

theorem FollowsLast.unique {rest' : List Char} (last : FollowsLast heading text rest)
    (last' : FollowsLast heading text rest') : rest = rest' := by
  obtain ⟨before, here, latest⟩ := last
  obtain ⟨before', here', latest'⟩ := last'
  have sizes := Nat.le_antisymm (latest' _ _ here) (latest _ _ here')
  have tails := (List.append_inj (here.cut.symm.trans here'.cut) sizes).2
  exact List.append_cancel_left tails

theorem infix_of_heads_below {front back : List Char} (unbroken : '\n' ∉ heading)
    (same : heading ++ rest = front ++ '\n' :: (heading ++ back)) : '\n' :: heading <:+: rest := by
  rcases List.append_eq_append_iff.mp same with ⟨middle, -, rfl⟩ | ⟨middle, rfl, across⟩
  · exact ⟨middle, back, by simp⟩
  · cases middle with
    | nil => exact ⟨[], back, across⟩
    | cons c middle =>
      obtain ⟨rfl, -⟩ := List.cons.inj across
      exact absurd (List.mem_append_right front List.mem_cons_self) unbroken

theorem followsLast_of_not_infix (unbroken : '\n' ∉ heading) (absent : ¬ '\n' :: heading <:+: rest)
    (before : List Char) : FollowsLast heading (before ++ '\n' :: (heading ++ rest)) rest := by
  refine ⟨before ++ ['\n'], ⟨List.append_cons _ _ _, by simp⟩, fun front back other => ?_⟩
  by_contra later
  have cut := other.cut
  rw [List.append_cons] at cut
  rcases List.append_eq_append_iff.mp cut with ⟨between, rfl, below⟩ | ⟨between, whole, -⟩
  · rcases List.eq_nil_or_concat' between with rfl | ⟨lines, c, rfl⟩
    · rw [List.append_nil] at later
      exact later (Nat.le_refl _)
    · obtain rfl : c = '\n' := other.starts c (by rw [← List.append_assoc, List.getLast?_concat]; rfl)
      rw [List.append_assoc, List.singleton_append] at below
      exact absent (infix_of_heads_below unbroken below)
  · have shorter : front <+: before ++ ['\n'] := ⟨between, whole.symm⟩
    exact later shorter.length_le

/-! ### The real heading -/

theorem exists_capabilityHeading :
    ∃ later, capabilityHeading.toList = 'A' :: later ∧ '\n' ∉ later ∧ 'V' ∈ later :=
  ⟨_, String.toList_ofList, by decide, by decide⟩

theorem not_mem_of_chars {c : Char} {chars : List Char} (absent : c ∉ chars) :
    c ∉ (String.ofList chars).toList := by
  rwa [String.toList_ofList]

theorem not_mem_append {c : Char} {front back : String} (ahead : c ∉ front.toList)
    (behind : c ∉ back.toList) : c ∉ (front ++ back).toList := by
  rw [String.toList_append, List.mem_append, not_or]
  exact ⟨ahead, behind⟩

/-- The rules do without a letter of the heading. -/
theorem not_mem_rules : 'V' ∉ rules.toList := by
  unfold rules toolFormat chainFormat textFormat examples
  repeat' with_reducible apply not_mem_append
  all_goals exact not_mem_of_chars (by decide)

theorem not_infix_below (capabilities : List Capability) :
    ¬ '\n' :: capabilityHeading.toList <:+: (capabilityText capabilities ++ rules).toList := by
  obtain ⟨later, heading, -, letter⟩ := exists_capabilityHeading
  have breaks := Json.breaksInside_writeIndented (whole_capabilities capabilities) 0
  rw [String.toList_append, capabilityText, Json.indented, String.toList_ofList, heading]
  refine breaks.not_infix_append (by decide) fun inside => not_mem_rules ?_
  exact inside.subset (List.mem_cons_of_mem _ (List.mem_cons_of_mem _ letter))

theorem followsLast_build_iff {userText : String} {capabilities : List Capability} :
    FollowsLast capabilityHeading.toList (build userText capabilities).toList rest ↔
      rest = (capabilityText capabilities ++ rules).toList := by
  have last : FollowsLast capabilityHeading.toList (build userText capabilities).toList
      (capabilityText capabilities ++ rules).toList := by
    have unbroken : '\n' ∉ capabilityHeading.toList := by
      obtain ⟨later, heading, unbroken, -⟩ := exists_capabilityHeading
      simp [heading, unbroken]
    have found := followsLast_of_not_infix unbroken (not_infix_below capabilities)
      (userHeading ++ userText).toList
    simpa [build, String.toList_append] using found
  exact ⟨fun other => other.unique last, fun same => same ▸ last⟩

/-- Prompts are equal only for equal texts and equal capabilities. Whatever the user's text says, what
follows the last line that starts with the heading of the capabilities is their indented form, and then
the rules. -/
theorem prompts_tell_their_parts :
    (∀ (userText userText' : String) (capabilities capabilities' : List Capability),
      build userText capabilities = build userText' capabilities' ↔
        userText = userText' ∧ capabilities = capabilities') ∧
    ∀ (userText : String) (capabilities : List Capability) (rest : List Char),
      FollowsLast capabilityHeading.toList (build userText capabilities).toList rest ↔
        rest = ((Json.array (capabilities.map Capability.toJson)).indented ++ rules).toList := by
  refine ⟨fun userText userText' capabilities capabilities' => ⟨fun same => ?_, ?_⟩,
    fun userText capabilities rest => followsLast_build_iff⟩
  · have last : FollowsLast capabilityHeading.toList (build userText' capabilities').toList
        (capabilityText capabilities ++ rules).toList := same ▸ followsLast_build_iff.mpr rfl
    have below := String.toList_injective (followsLast_build_iff.mp last)
    have told : capabilities = capabilities' :=
      capabilityText_injective ((String.append_left_inj rules).mp below)
    subst told
    simpa only [build, String.append_left_inj, String.append_right_inj, and_true] using same
  · rintro ⟨rfl, rfl⟩
    rfl

end Prompt

end CommandGate
