import Mathlib.Algebra.Group.Int.Defs
import CommandGate.Plugin.Schema
import CommandGate.Proofs.MemberOrder

/-!
Parameters checked against the kinds that their hints ask for. The check passes exactly if every
declared parameter has a value that fits its kind, and then each is passed on, under its own name, as
its kind takes it. A text stands for a whole number if an optional sign and decimal digits are all that
is visible of it.
-/

namespace CommandGate

namespace Number

inductive Denotes : List Char → Int → Prop where
  | bare {digits : List Char} (nonempty : digits ≠ []) (decimal : ∀ c ∈ digits, c.isDigit = true) :
      Denotes digits (natOfDigits digits)
  | plus {digits : List Char} (nonempty : digits ≠ []) (decimal : ∀ c ∈ digits, c.isDigit = true) :
      Denotes ('+' :: digits) (natOfDigits digits)
  | minus {digits : List Char} (nonempty : digits ≠ []) (decimal : ∀ c ∈ digits, c.isDigit = true) :
      Denotes ('-' :: digits) (-natOfDigits digits)

theorem digits?_eq_some_iff {text : List Char} {n : Nat} :
    digits? text = some n ↔
      text ≠ [] ∧ (∀ c ∈ text, c.isDigit = true) ∧ natOfDigits text = n := by
  simp [digits?, and_assoc]

theorem splitSign_of_digit {c : Char} (rest : List Char) (digit : c.isDigit = true) :
    splitSign (c :: rest) = (false, c :: rest) := by
  have unsigned : c ≠ '-' ∧ c ≠ '+' := by
    constructor
    all_goals
      rintro rfl
      exact absurd digit (by decide)
  simp [splitSign, unsigned]

theorem wholeNumber?_of_splitSign {text rest : List Char} {negative : Bool}
    (split : splitSign text = (negative, rest)) :
    wholeNumber? text =
      (digits? rest).map fun n : Nat => if negative then -(n : Int) else n := by
  simp only [wholeNumber?, split]
  cases digits? rest <;> rfl

theorem wholeNumber?_eq_some_iff {text : List Char} {n : Int} :
    wholeNumber? text = some n ↔ Denotes text n := by
  constructor
  · intro read
    rw [wholeNumber?_of_splitSign (Prod.mk.eta).symm, Option.map_eq_some_iff] at read
    obtain ⟨size, row, rfl⟩ := read
    obtain ⟨nonempty, decimal, rfl⟩ := digits?_eq_some_iff.mp row
    revert nonempty decimal
    unfold splitSign
    split
    · exact .minus
    · exact .plus
    · exact .bare
  · intro denotes
    cases denotes with
    | bare nonempty decimal =>
      have row := digits?_eq_some_iff.mpr ⟨nonempty, decimal, rfl⟩
      obtain ⟨c, rest, rfl⟩ := List.exists_cons_of_ne_nil nonempty
      have unsigned := splitSign_of_digit rest (decimal c List.mem_cons_self)
      rw [wholeNumber?_of_splitSign unsigned, row]
      rfl
    | @plus digits nonempty decimal =>
      have signed : splitSign ('+' :: digits) = (false, digits) := rfl
      rw [wholeNumber?_of_splitSign signed, digits?_eq_some_iff.mpr ⟨nonempty, decimal, rfl⟩]
      rfl
    | @minus digits nonempty decimal =>
      have signed : splitSign ('-' :: digits) = (true, digits) := rfl
      rw [wholeNumber?_of_splitSign signed, digits?_eq_some_iff.mpr ⟨nonempty, decimal, rfl⟩]
      rfl

theorem signedWord?_eq_some_iff {text : List Char} {n : Int} :
    signedWord? text = some n ↔ Denotes text n ∧ -2 ^ 63 ≤ n ∧ n < 2 ^ 63 := by
  simp [signedWord?, Option.filter_eq_some_iff, wholeNumber?_eq_some_iff]

end Number

namespace ParameterKind

open Number

theorem accept_string_eq_some_iff {value accepted : Json} :
    string.accept value = some accepted ↔
      ∃ text, value = .string text ∧ accepted = .string text := by
  cases value <;> simp [accept, eq_comm]

theorem numberOfText?_eq_whole_iff {text : String} {n : Int} :
    numberOfText? text = some (.whole n) ↔ signedWord? (Text.trim text.toList) = some n := by
  unfold numberOfText?
  cases word : signedWord? (Text.trim text.toList) with
  | some m => simp [word, Json.whole]
  | none =>
    simp only [word, reduceCtorEq, iff_false]
    split
    · simp [Json.whole]
    · simp

theorem accept_number_eq_whole_iff {value : Json} {n : Int} :
    number.accept value = some (.whole n) ↔
      value = .whole n ∨
        ∃ text, value = .string text ∧ signedWord? (Text.trim text.toList) = some n := by
  cases value with
  | string text =>
    rw [accept, numberOfText?_eq_whole_iff]
    simp [Json.whole]
  | number numeral => simp [accept, Json.whole]
  | _ => simp [accept, Json.whole]

end ParameterKind

namespace Schema

variable {schema : Members String} {parameters checked : Fields} {name : String}
  {kind : ParameterKind} {accepted : Json}

def kinds (schema : Members String) : Members ParameterKind := schema.mapValues .ofHint

structure Fits (parameters : Fields) (name : String) (kind : ParameterKind) (accepted : Json) :
    Prop where
  value : ∃ value, parameters.get? name = some value ∧ value ≠ .null ∧ kind.accept value = some accepted

def passedOn (schema : Members String) (parameters : Fields) : Fields :=
  parameters.map fun (name, value) => (name, passOn schema name value)

theorem fault?_eq_none_iff {hint : String} :
    fault? parameters name hint = none ↔
      ∃ accepted, Fits parameters name (.ofHint hint) accepted := by
  unfold fault?
  split
  next absent =>
    simp only [reduceCtorEq, false_iff]
    rintro ⟨accepted, ⟨value, held, -⟩⟩
    rw [absent] at held
    cases held
  next null =>
    simp only [reduceCtorEq, false_iff]
    rintro ⟨accepted, ⟨value, held, present, -⟩⟩
    rw [null] at held
    cases held
    exact present rfl
  next value present held =>
    split
    next accepted taken =>
      simp only [true_iff]
      refine ⟨accepted, ⟨value, held, fun null => ?_, taken⟩⟩
      exact present null
    next refused =>
      simp only [reduceCtorEq, false_iff]
      rintro ⟨accepted, ⟨value', held', -, taken⟩⟩
      cases held.symm.trans held'
      rw [refused] at taken
      cases taken

theorem fits_of_listed {hint : String} (listed : (name, hint) ∈ schema)
    (fits : ∀ entry ∈ kinds schema, ∃ accepted, Fits parameters entry.1 entry.2 accepted) :
    ∃ accepted, Fits parameters name (.ofHint hint) accepted :=
  fits (name, .ofHint hint) (List.mem_map_of_mem listed)

theorem check_eq_ok_iff :
    check schema parameters = .ok checked ↔
      (∀ entry ∈ kinds schema, ∃ accepted, Fits parameters entry.1 entry.2 accepted) ∧
        passedOn schema parameters = checked := by
  unfold check
  split
  next fault found =>
    simp only [reduceCtorEq, false_iff]
    rintro ⟨fits, -⟩
    obtain ⟨⟨name, hint⟩, listed, faulty⟩ := List.exists_of_findSome?_eq_some found
    have quiet := fault?_eq_none_iff.mpr (fits_of_listed listed fits)
    cases quiet.symm.trans faulty
  next quiet =>
    have fits : ∀ entry ∈ kinds schema, ∃ accepted, Fits parameters entry.1 entry.2 accepted := by
      simp only [kinds, Members.mapValues, List.forall_mem_map]
      intro entry listed
      exact fault?_eq_none_iff.mp (List.findSome?_eq_none_iff.mp quiet entry listed)
    constructor
    · intro passed
      exact ⟨fits, Except.ok.inj passed⟩
    · intro passed
      exact congrArg Except.ok passed.2

theorem names_passedOn : Members.names (passedOn schema parameters) = Members.names parameters := by
  simp [passedOn, Members.names]

theorem get?_passedOn :
    (passedOn schema parameters).get? name = (parameters.get? name).map (passOn schema name) := by
  induction parameters with
  | nil => rfl
  | cons member rest ih =>
    obtain ⟨key, value⟩ := member
    by_cases same : key = name
    · simp [passedOn, Members.get?, same]
    · simpa [passedOn, Members.get?, same] using ih

theorem Fits.get?_passedOn (fits : Fits parameters name kind accepted)
    (declared : (kinds schema).get? name = some kind) :
    (passedOn schema parameters).get? name = some accepted := by
  obtain ⟨value, held, -, taken⟩ := fits
  rw [kinds, Members.get?_mapValues, Option.map_eq_some_iff] at declared
  obtain ⟨hint, listed, rfl⟩ := declared
  rw [Schema.get?_passedOn, held, Option.map_some, passOn, listed]
  simp [taken]

theorem get?_passedOn_eq_some_iff (declared : (kinds schema).get? name = some kind)
    (fits : ∃ accepted, Fits parameters name kind accepted) :
    (passedOn schema parameters).get? name = some accepted ↔
      Fits parameters name kind accepted := by
  refine ⟨fun passed => ?_, fun here => here.get?_passedOn declared⟩
  obtain ⟨other, there⟩ := fits
  have same : other = accepted := Option.some.inj ((there.get?_passedOn declared).symm.trans passed)
  exact same ▸ there

theorem fits_string_iff :
    Fits parameters name .string accepted ↔
      ∃ text, parameters.get? name = some (.string text) ∧ accepted = .string text := by
  constructor
  · rintro ⟨value, held, -, taken⟩
    obtain ⟨text, rfl, same⟩ := ParameterKind.accept_string_eq_some_iff.mp taken
    exact ⟨text, held, same⟩
  · rintro ⟨text, held, rfl⟩
    exact ⟨_, held, nofun, rfl⟩

end Schema

end CommandGate
