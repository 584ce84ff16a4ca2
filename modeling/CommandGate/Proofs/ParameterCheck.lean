import CommandGate.Proofs.DecimalReading

/-!
The check of parameters against a schema as a whole. A declared parameter is provided if it is there,
is not null, and is admitted by the kind that its hint asks for; texts under the two kinds of numbers
become the numbers that they stand for, and all else stays as it is. What passed passes again unchanged,
and a refusal names the first declared name whose parameter is not provided.
-/

namespace CommandGate

namespace ParameterKind

open Number

/-- A value that fits a kind, and what it is passed on as. -/
inductive Admits : ParameterKind → Json → Json → Prop where
  | any (value : Json) : Admits .any value value
  | string (text : String) : Admits .string (.string text) (.string text)
  | boolean (value : Bool) : Admits .boolean (.bool value) (.bool value)
  | array (items : List Json) : Admits .array (.array items) (.array items)
  | object (members : Fields) : Admits .object (.object members) (.object members)
  | number (numeral : Numeral) : Admits .number (.number numeral) (.number numeral)
  | integer (n : Int) : Admits .integer (.whole n) (.whole n)
  /-- A whole number that a signed 64-bit word holds. -/
  | wholeText {text : String} {n : Int} (denotes : Denotes (Text.trim text.toList) n)
      (low : -2 ^ 63 ≤ n) (high : n < 2 ^ 63) : Admits .number (.string text) (.whole n)
  /-- Any other decimal whose nearest double is finite. -/
  | decimalText {text : String} {decimal : Decimal} {x : Binary}
      (wide : ∀ n, Denotes (Text.trim text.toList) n → ¬(-2 ^ 63 ≤ n ∧ n < 2 ^ 63))
      (spells : Spells (Text.trim text.toList) decimal)
      (value : decimal.toExtended double = .finite x) :
      Admits .number (.string text) (.number (.real x))
  /-- Digits without a sign, for a number that an unsigned 64-bit word holds. -/
  | digitsText {text : String} (nonempty : Text.trim text.toList ≠ [])
      (decimal : ∀ c ∈ Text.trim text.toList, c.isDigit = true)
      (high : natOfDigits (Text.trim text.toList) < 2 ^ 64) :
      Admits .integer (.string text) (.whole (natOfDigits (Text.trim text.toList)))

variable {kind : ParameterKind} {value accepted : Json} {text : String}

theorem numberOfText?_eq_some_iff :
    numberOfText? text = some accepted ↔ Admits .number (.string text) accepted := by
  simp only [numberOfText?]
  constructor
  · intro read
    split at read
    next n word =>
      obtain ⟨denotes, low, high⟩ := signedWord?_eq_some_iff.mp word
      cases read
      exact .wholeText denotes low high
    next wide =>
      split at read
      next x finite =>
        obtain ⟨decimal, spells, value⟩ := extended?_eq_finite_iff.mp finite
        cases read
        refine .decimalText (fun n denotes within => ?_) spells value
        have word := signedWord?_eq_some_iff.mpr ⟨denotes, within⟩
        rw [wide] at word
        cases word
      · cases read
  · intro admits
    cases admits with
    | wholeText denotes low high =>
      simp [signedWord?_eq_some_iff.mpr ⟨denotes, low, high⟩]
    | decimalText wide spells value =>
      have unread : signedWord? (Text.trim text.toList) = none := by
        refine Option.eq_none_iff_forall_ne_some.mpr fun n word => ?_
        obtain ⟨denotes, within⟩ := signedWord?_eq_some_iff.mp word
        exact wide n denotes within
      simp [unread, extended?_eq_finite_iff.mpr ⟨_, spells, value⟩]

theorem integerOfText?_eq_some_iff :
    integerOfText? text = some accepted ↔ Admits .integer (.string text) accepted := by
  have taken : integerOfText? text = ((digits? (Text.trim text.toList)).filter (· < 2 ^ 64)).map
      fun n : Nat => Json.whole n := by
    rw [integerOfText?]
    cases (digits? (Text.trim text.toList)).filter (· < Nat.pow 2 64) <;> rfl
  simp only [taken, Option.map_eq_some_iff, Option.filter_eq_some_iff, digits?_eq_some_iff]
  constructor
  · rintro ⟨n, ⟨⟨nonempty, decimal, rfl⟩, high⟩, rfl⟩
    exact .digitsText nonempty decimal (by simpa using high)
  · intro admits
    cases admits with
    | digitsText nonempty decimal high =>
      exact ⟨_, ⟨⟨nonempty, decimal, rfl⟩, by simpa using high⟩, rfl⟩

theorem accept_eq_some_iff : kind.accept value = some accepted ↔ kind.Admits value accepted := by
  constructor
  · intro taken
    unfold accept at taken
    split at taken
    · cases taken; exact .any _
    · cases taken; exact .string _
    · cases taken; exact .boolean _
    · cases taken; exact .array _
    · cases taken; exact .object _
    · cases taken; exact .number _
    · exact numberOfText?_eq_some_iff.mp taken
    · cases taken; exact .integer _
    · exact integerOfText?_eq_some_iff.mp taken
    · cases taken
  · intro admits
    cases admits with
    | wholeText denotes low high =>
      exact numberOfText?_eq_some_iff.mpr (.wholeText denotes low high)
    | decimalText wide spells value =>
      exact numberOfText?_eq_some_iff.mpr (.decimalText wide spells value)
    | digitsText nonempty decimal high =>
      exact integerOfText?_eq_some_iff.mpr (.digitsText nonempty decimal high)
    | _ => rfl

theorem Admits.again (admits : kind.Admits value accepted) : kind.Admits accepted accepted := by
  cases admits with
  | any | string | boolean | array | object | number | integer => constructor
  | wholeText | decimalText => exact .number _
  | digitsText => exact .integer _

theorem Admits.ne_null (admits : kind.Admits value accepted) (present : value ≠ .null) :
    accepted ≠ .null := by
  cases admits with
  | any => exact present
  | _ => exact nofun

theorem Admits.eq_of_untold (admits : kind.Admits value accepted)
    (untold : (∃ text, value = .string text) → kind ≠ .number ∧ kind ≠ .integer) :
    accepted = value := by
  cases admits with
  | any | string | boolean | array | object | number | integer => rfl
  | wholeText | decimalText => exact absurd rfl (untold ⟨_, rfl⟩).1
  | digitsText => exact absurd rfl (untold ⟨_, rfl⟩).2

theorem Admits.exists_numeral (admits : kind.Admits (.string text) accepted)
    (numeric : kind = .number ∨ kind = .integer) : ∃ numeral, accepted = .number numeral := by
  cases admits with
  | any | string => simp at numeric
  | wholeText | decimalText | digitsText => exact ⟨_, rfl⟩

end ParameterKind

namespace Schema

variable {schema : Members String} {parameters checked : Fields} {name hint : String}
  {fault : SchemaError}

def Provides (parameters : Fields) (name hint : String) : Prop :=
  ∃ value accepted, parameters.get? name = some value ∧ value ≠ .null ∧
    (ParameterKind.ofHint hint).Admits value accepted

def Lacks (parameters : Fields) (name : String) : Prop :=
  ∀ value, parameters.get? name = some value → value = .null

theorem lacks_of_absent (absent : parameters.get? name = none) : Lacks parameters name := by
  intro value held
  rw [absent] at held
  cases held

theorem lacks_of_null (null : parameters.get? name = some .null) : Lacks parameters name := by
  intro value held
  rw [null] at held
  cases held
  rfl

theorem provides_iff : Provides parameters name hint ↔
    ∃ accepted, Fits parameters name (.ofHint hint) accepted := by
  constructor
  · rintro ⟨value, accepted, held, present, admits⟩
    exact ⟨accepted, value, held, present, ParameterKind.accept_eq_some_iff.mpr admits⟩
  · rintro ⟨accepted, value, held, present, taken⟩
    exact ⟨value, accepted, held, present, ParameterKind.accept_eq_some_iff.mp taken⟩

theorem forall_kinds_iff : (∀ entry ∈ kinds schema, ∃ accepted,
      Fits parameters entry.1 entry.2 accepted) ↔
    ∀ name hint, (name, hint) ∈ schema → Provides parameters name hint := by
  simp only [kinds, Members.mapValues, List.forall_mem_map, Prod.forall, provides_iff]

theorem check_succeeds_iff : (∃ checked, check schema parameters = .ok checked) ↔
    ∀ name hint, (name, hint) ∈ schema → Provides parameters name hint := by
  simp only [check_eq_ok_iff, forall_kinds_iff, exists_and_left, exists_eq', and_true]

/-! ### What is passed on -/

theorem exists_admits_of_check (passed : check schema parameters = .ok checked)
    (declared : schema.get? name = some hint) :
    ∃ value accepted, parameters.get? name = some value ∧ value ≠ .null ∧
      (ParameterKind.ofHint hint).Admits value accepted ∧ checked.get? name = some accepted := by
  obtain ⟨fits, rfl⟩ := check_eq_ok_iff.mp passed
  obtain ⟨value, accepted, held, present, admits⟩ :=
    forall_kinds_iff.mp fits name hint (Members.mem_of_get? declared)
  refine ⟨value, accepted, held, present, admits, ?_⟩
  rw [get?_passedOn, held, Option.map_some, passOn, declared]
  simp [ParameterKind.accept_eq_some_iff.mpr admits]

theorem get?_of_undeclared (passed : check schema parameters = .ok checked)
    (undeclared : schema.get? name = none) : checked.get? name = parameters.get? name := by
  obtain ⟨-, rfl⟩ := check_eq_ok_iff.mp passed
  have same : passOn schema name = id := by
    funext value
    rw [passOn, undeclared, id]
  rw [get?_passedOn, same, Option.map_id_fun, id]

theorem passOn_passOn (name : String) (value : Json) :
    passOn schema name (passOn schema name value) = passOn schema name value := by
  unfold passOn
  split
  next hint declared =>
    cases taken : (ParameterKind.ofHint hint).accept value with
    | none => simp [taken]
    | some accepted =>
      have again := (ParameterKind.accept_eq_some_iff.mp taken).again
      simp [taken, ParameterKind.accept_eq_some_iff.mpr again]
  next undeclared => rfl

theorem check_again (distinct : schema.names.Nodup)
    (passed : check schema parameters = .ok checked) : check schema checked = .ok checked := by
  refine check_eq_ok_iff.mpr ⟨forall_kinds_iff.mpr fun name hint listed => ?_, ?_⟩
  · obtain ⟨value, accepted, -, present, admits, held⟩ :=
      exists_admits_of_check passed ((Members.get?_eq_some_iff distinct).mpr listed)
    exact ⟨accepted, accepted, held, admits.ne_null present, admits.again⟩
  · obtain ⟨-, rfl⟩ := check_eq_ok_iff.mp passed
    simp only [passedOn, List.map_map]
    refine List.map_congr_left fun entry _ => ?_
    exact congrArg (Prod.mk entry.1) (passOn_passOn entry.1 entry.2)

theorem ascending_passedOn (ordered : parameters.Ascending) :
    Members.Ascending (passedOn schema parameters) := by
  rwa [Members.Ascending, names_passedOn]

theorem check_insert {value accepted : Json} (ascending : schema.Ascending)
    (ordered : parameters.Ascending) (passed : check schema parameters = .ok checked)
    (listed : (name, hint) ∈ schema) (present : value ≠ .null)
    (admits : (ParameterKind.ofHint hint).Admits value accepted) :
    check schema (parameters.insert name value) = .ok (checked.insert name accepted) := by
  have declared {other hint' : String} (listed : (other, hint') ∈ schema) :
      schema.get? other = some hint' := (Members.get?_eq_some_iff ascending.nodup).mpr listed
  have passed := check_eq_ok_iff.mp passed
  refine check_eq_ok_iff.mpr ⟨forall_kinds_iff.mpr fun other hint' inside => ?_, ?_⟩
  · by_cases same : name = other
    · subst same
      cases (declared listed).symm.trans (declared inside)
      exact ⟨value, accepted, Members.get?_insert_same _ _ _, present, admits⟩
    · obtain ⟨value', accepted', held, rest⟩ := forall_kinds_iff.mp passed.1 other hint' inside
      exact ⟨value', accepted', by rw [Members.get?_insert_other _ _ same, held], rest⟩
  · obtain ⟨-, rfl⟩ := passed
    refine Members.eq_of_get?_eq (ascending_passedOn (Members.ascending_insert _ _ ordered))
      (Members.ascending_insert _ _ (ascending_passedOn ordered)) fun other => ?_
    by_cases same : name = other
    · subst same
      rw [get?_passedOn, Members.get?_insert_same, Members.get?_insert_same, Option.map_some,
        passOn, declared listed]
      simp [ParameterKind.accept_eq_some_iff.mpr admits]
    · rw [get?_passedOn, Members.get?_insert_other _ _ same, Members.get?_insert_other _ _ same,
        get?_passedOn]

/-! ### What is refused -/

inductive Offends (parameters : Fields) (name hint : String) : SchemaError → Prop where
  | missing (lacks : Lacks parameters name) : Offends parameters name hint (.missing name)
  | wrongType (there : ¬Lacks parameters name) (unfit : ¬Provides parameters name hint) :
      Offends parameters name hint (.wrongType name (.ofHint hint))

theorem fault?_eq_none_iff_provides :
    fault? parameters name hint = none ↔ Provides parameters name hint :=
  fault?_eq_none_iff.trans provides_iff.symm

theorem fault?_eq_some_iff :
    fault? parameters name hint = some fault ↔ Offends parameters name hint fault := by
  constructor
  · intro faulty
    have unfit : ¬Provides parameters name hint := by
      rw [← fault?_eq_none_iff_provides, faulty]
      exact nofun
    unfold fault? at faulty
    split at faulty
    next absent =>
      cases faulty
      exact .missing (lacks_of_absent absent)
    next null =>
      cases faulty
      exact .missing (lacks_of_null null)
    next value present held =>
      split at faulty
      · cases faulty
      · cases faulty
        exact .wrongType (fun lacks => present (lacks value held)) unfit
  · rintro (lacks | ⟨there, unfit⟩)
    · unfold fault?
      split
      · rfl
      · rfl
      next value present held => exact absurd (lacks value held) present
    · unfold fault?
      split
      next absent => exact absurd (lacks_of_absent absent) there
      next null => exact absurd (lacks_of_null null) there
      next value present held =>
        split
        next accepted taken =>
          have admits := ParameterKind.accept_eq_some_iff.mp taken
          exact absurd ⟨value, accepted, held, present, admits⟩ unfit
        next refused => rfl

theorem check_eq_error_iff (ascending : schema.Ascending) :
    check schema parameters = .error fault ↔
      ∃ name hint, (name, hint) ∈ schema ∧ Offends parameters name hint fault ∧
        ∀ other hint', (other, hint') ∈ schema → other < name →
          Provides parameters other hint' := by
  have rising : schema.Pairwise (·.1 < ·.1) := List.pairwise_map.mp ascending
  have found : check schema parameters = .error fault ↔
      (schema.findSome? fun entry => fault? parameters entry.1 entry.2) = some fault := by
    unfold check
    split
    next first faulty =>
      have searched : (schema.findSome? fun entry => fault? parameters entry.1 entry.2) =
        some first := faulty
      rw [searched, Except.error.injEq, Option.some.injEq]
    next quiet =>
      have searched : (schema.findSome? fun entry => fault? parameters entry.1 entry.2) = none :=
        quiet
      simp [searched]
  rw [found, List.findSome?_eq_some_iff]
  constructor
  · rintro ⟨before, ⟨name, hint⟩, later, rfl, faulty, quiet⟩
    obtain ⟨-, behind, -⟩ := List.pairwise_append.mp rising
    refine ⟨name, hint, by simp, fault?_eq_some_iff.mp faulty, fun other hint' listed less => ?_⟩
    rcases List.mem_append.mp listed with inside | inside
    · exact fault?_eq_none_iff_provides.mp (quiet _ inside)
    · rcases List.mem_cons.mp inside with same | inside
      · cases same
        exact absurd less (lt_irrefl _)
      · exact absurd less (lt_asymm ((List.pairwise_cons.mp behind).1 _ inside))
  · rintro ⟨name, hint, listed, offends, first⟩
    obtain ⟨before, later, rfl⟩ := List.append_of_mem listed
    obtain ⟨-, -, below⟩ := List.pairwise_append.mp rising
    refine ⟨before, (name, hint), later, rfl, fault?_eq_some_iff.mpr offends, ?_⟩
    rintro ⟨other, hint'⟩ inside
    exact fault?_eq_none_iff_provides.mpr
      (first other hint' (List.mem_append_left _ inside) (below _ inside _ List.mem_cons_self))

/-- A check succeeds exactly if every declared parameter is there, is not null and is admitted by its
kind. Then the same names are passed on, each with its value, but for declared texts under the kinds of
numbers, which become numbers; and what is passed on passes again as it is. Otherwise the error is that
of the first declared name, in order, whose parameter is not provided: missing if it is absent or null,
and of a wrong type if not. -/
theorem checks_admit_or_name_the_first_offence (ascending : schema.Ascending)
    (parameters : Fields) :
    ((∃ checked, check schema parameters = .ok checked) ↔
      ∀ name hint, (name, hint) ∈ schema → Provides parameters name hint) ∧
    (∀ checked, check schema parameters = .ok checked →
      checked.names = parameters.names ∧
      (∀ name, name ∉ schema.names → checked.get? name = parameters.get? name) ∧
      (∀ name hint value, (name, hint) ∈ schema → parameters.get? name = some value →
        ((∃ text, value = .string text) →
            ParameterKind.ofHint hint ≠ .number ∧ ParameterKind.ofHint hint ≠ .integer) →
          checked.get? name = some value) ∧
      (∀ name hint text, (name, hint) ∈ schema → parameters.get? name = some (.string text) →
        ParameterKind.ofHint hint = .number ∨ ParameterKind.ofHint hint = .integer →
          ∃ numeral, checked.get? name = some (.number numeral) ∧
            (ParameterKind.ofHint hint).Admits (.string text) (.number numeral)) ∧
      check schema checked = .ok checked) ∧
    ∀ fault, check schema parameters = .error fault ↔
      ∃ name hint, (name, hint) ∈ schema ∧ Offends parameters name hint fault ∧
        ∀ other hint', (other, hint') ∈ schema → other < name →
          Provides parameters other hint' := by
  have declared {name hint : String} (listed : (name, hint) ∈ schema) :
      schema.get? name = some hint := (Members.get?_eq_some_iff ascending.nodup).mpr listed
  refine ⟨check_succeeds_iff, fun checked passed => ⟨?_, ?_, ?_, ?_, ?_⟩,
    fun fault => check_eq_error_iff ascending⟩
  · obtain ⟨-, rfl⟩ := check_eq_ok_iff.mp passed
    exact names_passedOn
  · intro name undeclared
    refine get?_of_undeclared passed (Option.eq_none_iff_forall_ne_some.mpr fun hint listed => ?_)
    exact undeclared (Members.exists_get?_iff.mp ⟨hint, listed⟩)
  · intro name hint value listed given untold
    obtain ⟨value', accepted, held, -, admits, passedOn⟩ :=
      exists_admits_of_check passed (declared listed)
    cases given.symm.trans held
    rw [passedOn, admits.eq_of_untold untold]
  · intro name hint text listed given numeric
    obtain ⟨value, accepted, held, -, admits, passedOn⟩ :=
      exists_admits_of_check passed (declared listed)
    cases given.symm.trans held
    obtain ⟨numeral, rfl⟩ := admits.exists_numeral numeric
    exact ⟨numeral, passedOn, admits⟩
  · exact check_again ascending.nodup passed

end Schema

namespace House

def brewing : Members String :=
  [("cups", "integer (1 to 8)"), ("heat", "Number of degrees"), ("kind", "'green' or 'black'")]

def brew (cups : String) : Fields :=
  [("cups", .string cups), ("for", .null), ("heat", .string " +9.5e1 "), ("kind", .bool true)]

theorem brews_are_checked :
    Members.Ascending brewing ∧
    (∃ checked, Schema.check brewing (brew "02") = .ok checked ∧
      checked.names = ["cups", "for", "heat", "kind"] ∧ checked.get? "for" = some .null ∧
      checked.get? "kind" = some (.bool true) ∧
      (∃ numeral, checked.get? "heat" = some (.number numeral)) ∧
      Schema.check brewing checked = .ok checked) ∧
    Schema.check brewing (brew "-2") = .error (.wrongType "cups" .integer) := by
  have ascending : Members.Ascending brewing :=
    show ["cups", "heat", "kind"].Pairwise (· < ·) by decide
  obtain ⟨-, passes, -⟩ := Schema.checks_admit_or_name_the_first_offence ascending (brew "02")
  obtain ⟨-, -, refuses⟩ := Schema.checks_admit_or_name_the_first_offence ascending (brew "-2")
  obtain ⟨names, undeclared, untold, numeric, again⟩ := passes _ rfl
  have cups : ParameterKind.ofHint "integer (1 to 8)" = .integer := rfl
  refine ⟨ascending, ⟨_, rfl, names, ?_, ?_, ?_, again⟩, ?_⟩
  · exact undeclared "for" (by decide)
  · exact untold "kind" "'green' or 'black'" (.bool true) (by decide) rfl fun ⟨_, same⟩ => nomatch same
  · obtain ⟨numeral, heated, -⟩ :=
      numeric "heat" "Number of degrees" " +9.5e1 " (by decide) rfl (.inl rfl)
    exact ⟨numeral, heated⟩
  · refine (refuses _).mpr ⟨"cups", "integer (1 to 8)", by decide, ?_, ?_⟩
    · rw [← cups]
      refine .wrongType (fun lacks => nomatch lacks _ rfl) ?_
      rintro ⟨value, accepted, held, -, admits⟩
      cases held
      rw [cups] at admits
      cases admits with
      | digitsText nonempty decimal high => exact absurd (decimal '-' (by decide)) (by decide)
    · intro other hint' listed less
      have named : other ∈ brewing.names := List.mem_map_of_mem listed
      have least : ∀ name ∈ brewing.names, ¬name < "cups" := by decide
      exact absurd less (least other named)

end House

end CommandGate
