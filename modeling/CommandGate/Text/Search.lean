/-!
Searching in texts given as lists of characters. `contains` asks for a part anywhere in a text;
`splitAtFirst` cuts a text around the first place where a part occurs.
-/
namespace CommandGate.Text

def dropStart? : (part text : List Char) → Option (List Char)
  | [], text => some text
  | _ :: _, [] => none
  | p :: part, c :: text => if p = c then dropStart? part text else none

def contains (part : List Char) : List Char → Bool
  | [] => part.isEmpty
  | c :: text => part.isPrefixOf (c :: text) || contains part text

def splitAtFirst (part : List Char) : List Char → Option (List Char × List Char)
  | [] => if part.isEmpty then some ([], []) else none
  | c :: text =>
    match dropStart? part (c :: text) with
    | some rest => some ([], rest)
    | none => (splitAtFirst part text).map fun (before, after) => (c :: before, after)

def splitOn (mark : Char) : List Char → List (List Char)
  | [] => [[]]
  | c :: text =>
    match splitOn mark text with
    | [] => [[c]]
    | piece :: pieces => if c = mark then [] :: piece :: pieces else (c :: piece) :: pieces

theorem dropStart?_eq_some_iff {part text rest : List Char} :
    dropStart? part text = some rest ↔ text = part ++ rest := by
  induction part generalizing text with
  | nil => simp [dropStart?]
  | cons p part ih =>
    cases text with
    | nil => simp [dropStart?]
    | cons c text =>
      by_cases same : p = c
      · simp [dropStart?, same, ih]
      · simp [dropStart?, same, Ne.symm same]

theorem contains_iff_infix {part text : List Char} :
    contains part text = true ↔ part <:+: text := by
  induction text with
  | nil => cases part <;> simp [contains]
  | cons c text ih =>
    simp [contains, ih, List.infix_cons_iff]

theorem append_of_splitAtFirst {part text before after : List Char}
    (found : splitAtFirst part text = some (before, after)) :
    text = before ++ part ++ after := by
  induction text generalizing before with
  | nil =>
    cases part with
    | nil => simp_all [splitAtFirst]
    | cons p part => simp [splitAtFirst] at found
  | cons c text ih =>
    simp only [splitAtFirst] at found
    split at found
    · next rest starts =>
      rw [dropStart?_eq_some_iff] at starts
      simp_all
    · next =>
      obtain ⟨⟨front, rest⟩, inner, equal⟩ := Option.map_eq_some_iff.mp found
      simp only [Prod.mk.injEq] at equal
      obtain ⟨rfl, rfl⟩ := equal
      simp [ih inner]

end CommandGate.Text
