import CommandGate.Decoder
import CommandGate.Proofs.CommandReading
import CommandGate.Proofs.TreeKinds
import Mathlib.Data.List.Forall2

/-!
What decoders take from configuration trees. Each takes exactly the trees of one kind, and what it
gives for a record has as each part what the decoder of the part gives for the value at the end of a
path.
-/

namespace CommandGate

open Config
open Command (bind_eq_ok_iff map_eq_ok_iff)

@[simp] theorem beneath_eq_ok_iff {α : Type} {key : String} {result : Except (List String) α}
    {value : α} : beneath key result = .ok value ↔ result = .ok value := by
  cases result <;> simp [beneath]

namespace Decoder

variable {α ρ : Type}

/-! ### Values of single types -/

theorem resolve_text_eq_ok_iff {tree : Tree} {value : String} :
    text.resolve tree = .ok value ↔ tree = .text value := by
  cases tree <;> simp [text, scalar]

theorem resolve_bool_eq_ok_iff {tree : Tree} {value : Bool} :
    bool.resolve tree = .ok value ↔ tree = .bool value := by
  cases tree <;> simp [bool, scalar]

theorem resolve_natural_eq_ok_iff {bits n : Nat} {tree : Tree} :
    (natural bits).resolve tree = .ok n ↔ tree = .whole n ∧ n < 2 ^ bits := by
  cases tree with
  | whole m =>
    have power : Int.pow 2 bits = ((2 ^ bits : Nat) : Int) := (Int.natCast_pow 2 bits).symm
    simp only [natural, scalar, power, Tree.whole.injEq]
    generalize 2 ^ bits = bound
    split
    next fits =>
      split at fits
      · cases fits
        rw [Except.ok.injEq]
        omega
      · cases fits
    next fits =>
      split at fits
      · cases fits
      · refine ⟨nofun, fun small => ?_⟩
        omega
  | _ => simp [natural, scalar]

inductive IsSingle : Tree → Number.Extended → Prop where
  | whole (n : Int) : IsSingle (.whole n) (.ofInt Number.single n)
  | real (x : Number.Extended) : IsSingle (.real x) (x.convert Number.single)

theorem resolve_single_eq_ok_iff {tree : Tree} {value : Number.Extended} :
    single.resolve tree = .ok value ↔ IsSingle tree value := by
  constructor
  · intro read
    cases tree <;> cases read
    · exact .whole _
    · exact .real _
  · rintro (n | x) <;> rfl

theorem resolve_optional_eq_ok_iff {item : Decoder α} {tree : Tree} {value : Option α} :
    (optional item).resolve tree = .ok value ↔
      tree = .absent ∧ value = none ∨
        tree ≠ .absent ∧ ∃ inner, item.resolve tree = .ok inner ∧ value = some inner := by
  cases tree with
  | absent => simp [optional, eq_comm]
  | _ => simp [optional, map_eq_ok_iff, eq_comm (a := value)]

theorem resolveAll_eq_ok_iff {resolve : Tree → Except (List String) α} {index : Nat}
    {items : List Tree} {values : List α} :
    resolveAll resolve index items = .ok values ↔
      List.Forall₂ (fun item value => resolve item = .ok value) items values := by
  induction items generalizing index values with
  | nil => simp [resolveAll, eq_comm]
  | cons item items ih =>
    simp only [resolveAll, bind_eq_ok_iff, map_eq_ok_iff, beneath_eq_ok_iff, ih,
      List.forall₂_cons_left_iff]
    exact ⟨fun ⟨value, here, others, more, same⟩ => ⟨value, others, here, more, same.symm⟩,
      fun ⟨value, others, here, more, same⟩ => ⟨value, here, others, more, same.symm⟩⟩

theorem resolve_list_eq_ok_iff {item : Decoder α} {tree : Tree} {values : List α} :
    (list item).resolve tree = .ok values ↔ ∃ items, tree = .list items ∧
      List.Forall₂ (fun part value => item.resolve part = .ok value) items values := by
  cases tree <;> simp [list, resolveAll_eq_ok_iff]

theorem resolveEntries_eq_ok_iff {resolve : Tree → Except (List String) α}
    {entries : Members Tree} {values : Members α} :
    resolveEntries resolve entries = .ok values ↔
      List.Forall₂ (fun entry value => entry.1 = value.1 ∧ resolve entry.2 = .ok value.2)
        entries values := by
  induction entries generalizing values with
  | nil => simp [resolveEntries, eq_comm]
  | cons entry entries ih =>
    simp only [resolveEntries, bind_eq_ok_iff, map_eq_ok_iff, beneath_eq_ok_iff, ih,
      List.forall₂_cons_left_iff]
    constructor
    · rintro ⟨value, here, others, more, rfl⟩
      exact ⟨_, others, ⟨rfl, here⟩, more, rfl⟩
    · rintro ⟨⟨name, value⟩, others, ⟨named, here⟩, more, rfl⟩
      exact ⟨value, here, others, more, by rw [named]⟩

theorem resolve_mapping_eq_ok_iff {item : Decoder α} {tree : Tree} {result : Members α} :
    (mapping item).resolve tree = .ok result ↔ ∃ entries values, tree = .table entries ∧
      List.Forall₂ (fun entry value => entry.1 = value.1 ∧ item.resolve entry.2 = .ok value.2)
        entries values ∧ .ofList values = result := by
  cases tree <;> simp [mapping, map_eq_ok_iff, resolveEntries_eq_ok_iff]

/-! ### Values as they are shown -/

def Shows (decoder : Decoder α) (shown : α → Tree) : Prop :=
  ∀ tree value, decoder.resolve tree = .ok value → tree = shown value

theorem shows_text : text.Shows .text := fun _ _ => resolve_text_eq_ok_iff.mp

theorem shows_bool : bool.Shows .bool := fun _ _ => resolve_bool_eq_ok_iff.mp

theorem shows_natural (bits : Nat) : (natural bits).Shows fun n => .whole n :=
  fun _ _ read => (resolve_natural_eq_ok_iff.mp read).1

theorem Shows.optional {item : Decoder α} {shown : α → Tree} (shows : item.Shows shown) :
    item.optional.Shows fun value => (value.map shown).getD .absent := by
  intro tree value read
  rcases resolve_optional_eq_ok_iff.mp read with ⟨rfl, rfl⟩ | ⟨-, inner, taken, rfl⟩
  · rfl
  · exact shows tree inner taken

theorem Shows.list {item : Decoder α} {shown : α → Tree} (shows : item.Shows shown) :
    item.list.Shows fun values => .list (values.map shown) := by
  intro tree values read
  obtain ⟨items, rfl, each⟩ := resolve_list_eq_ok_iff.mp read
  clear read
  refine congrArg Tree.list ?_
  induction each with
  | nil => rfl
  | cons here each ih => rw [shows _ _ here, ih, List.map_cons]

theorem Shows.get?_mapping {item : Decoder α} {shown : α → Tree} (shows : item.Shows shown)
    {tree : Tree} {result : Members α} (ordered : tree.Ordered)
    (read : item.mapping.resolve tree = .ok result) (name : String) :
    tree.get? name = (result.get? name).map shown := by
  obtain ⟨entries, values, rfl, each, rfl⟩ := resolve_mapping_eq_ok_iff.mp read
  have listed : entries = Members.mapValues shown values := by
    clear ordered read
    induction each with
    | nil => rfl
    | @cons entry value entries values here each ih =>
      obtain ⟨key, tree⟩ := entry
      obtain ⟨_, value⟩ := value
      obtain ⟨rfl, got⟩ := here
      obtain rfl : tree = shown value := shows _ _ got
      rw [ih]
      rfl
  have distinct := (Tree.ordered_table_iff.mp ordered).1.nodup
  rw [listed, Members.names_mapValues] at distinct
  rw [Members.get?_ofList_of_nodup distinct, listed]
  exact Members.get?_mapValues shown name values

/-! ### Kinds of decoders -/

def Takes (decoder : Decoder α) (kind : Kind) : Prop :=
  ∀ tree, (∃ value, decoder.resolve tree = .ok value) ↔ kind.Fits tree

theorem exists_forall₂_iff {β γ : Type} {related : β → γ → Prop} {items : List β} :
    (∃ values, List.Forall₂ related items values) ↔
      ∀ item ∈ items, ∃ value, related item value := by
  induction items with
  | nil => simp
  | cons item items ih =>
    simp only [List.forall₂_cons_left_iff, List.forall_mem_cons, ← ih]
    constructor
    · rintro ⟨-, value, values, here, more, rfl⟩
      exact ⟨⟨value, here⟩, values, more⟩
    · rintro ⟨⟨value, here⟩, values, more⟩
      exact ⟨_, value, values, here, more, rfl⟩

theorem takes_text : text.Takes .text := by
  intro tree
  simp only [resolve_text_eq_ok_iff]
  constructor
  · rintro ⟨value, rfl⟩
    exact .text value
  · intro fits
    cases fits with
    | text value => exact ⟨value, rfl⟩

theorem takes_bool : bool.Takes .flag := by
  intro tree
  simp only [resolve_bool_eq_ok_iff]
  constructor
  · rintro ⟨value, rfl⟩
    exact .flag value
  · intro fits
    cases fits with
    | flag value => exact ⟨value, rfl⟩

theorem takes_natural (bits : Nat) : (natural bits).Takes (.natural bits) := by
  intro tree
  simp only [resolve_natural_eq_ok_iff]
  constructor
  · rintro ⟨n, rfl, small⟩
    exact .natural small
  · intro fits
    cases fits with
    | natural small => exact ⟨_, rfl, small⟩

theorem takes_single : single.Takes .number := by
  intro tree
  simp only [resolve_single_eq_ok_iff]
  constructor
  · rintro ⟨value, n | x⟩
    · exact .whole n
    · exact .real x
  · intro fits
    cases fits with
    | whole n => exact ⟨_, .whole n⟩
    | real x => exact ⟨_, .real x⟩

variable {item : Decoder α} {kind : Kind}

theorem Takes.optional (takes : item.Takes kind) : item.optional.Takes (.optional kind) := by
  intro tree
  simp only [resolve_optional_eq_ok_iff]
  constructor
  · rintro ⟨value, ⟨rfl, -⟩ | ⟨-, inner, read, -⟩⟩
    · exact .absent kind
    · exact .given ((takes tree).mp ⟨inner, read⟩)
  · intro fits
    by_cases absent : tree = .absent
    · exact ⟨none, .inl ⟨absent, rfl⟩⟩
    · cases fits with
      | absent => exact absurd rfl absent
      | given fits =>
        obtain ⟨inner, read⟩ := (takes tree).mpr fits
        exact ⟨some inner, .inr ⟨absent, inner, read, rfl⟩⟩

theorem Takes.list (takes : item.Takes kind) : item.list.Takes (.list kind) := by
  intro tree
  simp only [resolve_list_eq_ok_iff]
  constructor
  · rintro ⟨values, items, rfl, each⟩
    have read := exists_forall₂_iff.mp ⟨values, each⟩
    exact .list fun part inside => (takes part).mp (read part inside)
  · intro fits
    cases fits with
    | list each =>
      obtain ⟨values, read⟩ :=
        exists_forall₂_iff.mpr fun part inside => (takes part).mpr (each part inside)
      exact ⟨values, _, rfl, read⟩

theorem Takes.mapping (takes : item.Takes kind) : item.mapping.Takes (.mapping kind) := by
  intro tree
  simp only [resolve_mapping_eq_ok_iff]
  constructor
  · rintro ⟨_, entries, values, rfl, each, -⟩
    have read := exists_forall₂_iff.mp ⟨values, each⟩
    refine .mapping fun entry inside => (takes entry.2).mp ?_
    obtain ⟨value, -, got⟩ := read entry inside
    exact ⟨value.2, got⟩
  · intro fits
    cases fits with
    | @mapping _ entries each =>
      have read : ∀ entry ∈ entries, ∃ value : String × α,
          entry.1 = value.1 ∧ item.resolve entry.2 = .ok value.2 := by
        intro entry inside
        obtain ⟨value, got⟩ := (takes entry.2).mpr (each entry inside)
        exact ⟨(entry.1, value), rfl, got⟩
      obtain ⟨values, read⟩ := exists_forall₂_iff.mpr read
      exact ⟨_, _, values, rfl, read, rfl⟩

/-! ### Records -/

end Decoder

namespace Field

variable {ρ : Type}

structure Takes (field : Field ρ) (entry : String × Kind) : Prop where
  named : field.name = entry.1
  spared : field.required = false
  takes : ∀ tree, (∃ change, field.resolve tree = .ok change) ↔ entry.2.Fits tree

theorem takes_defaulted {α : Type} {name : String} {decoder : Decoder α} {kind : Kind}
    (takes : decoder.Takes kind) (set : α → ρ → ρ) :
    (defaulted name decoder set).Takes (name, kind) where
  named := rfl
  spared := rfl
  takes tree := by simp [defaulted, of, map_eq_ok_iff, ← takes tree]

end Field

namespace Decoder

variable {ρ : Type} {fields : List (Field ρ)} {kinds : Members Kind}

theorem spared_of_takes (each : List.Forall₂ Field.Takes fields kinds) :
    ∀ field ∈ fields, field.required = false := by
  induction each with
  | nil => exact nofun
  | cons takes each ih => exact List.forall_mem_cons.mpr ⟨takes.spared, ih⟩

theorem find?_of_takes (each : List.Forall₂ Field.Takes fields kinds) (name : String) :
    match fields.find? (·.name == name) with
    | none => kinds.get? name = none
    | some field => ∃ kind, kinds.get? name = some kind ∧ field.Takes (name, kind) := by
  induction each with
  | nil => rfl
  | @cons field entry fields kinds takes each ih =>
    obtain ⟨key, kind⟩ := entry
    rw [List.find?_cons, takes.named, Members.get?]
    by_cases same : key = name
    · subst same
      simp only [beq_self_eq_true, if_true]
      exact ⟨kind, rfl, takes⟩
    · simp only [beq_eq_false_iff_ne.mpr same, if_neg same]
      exact ih

theorem resolveTable_succeeds_iff (each : List.Forall₂ Field.Takes fields kinds)
    {entries : Members Tree} {given : List String} {record : ρ} :
    (∃ result, resolveTable fields given record entries = .ok result) ↔
      ∀ entry ∈ entries, ∀ kind, kinds.get? entry.1 = some kind → kind.Fits entry.2 := by
  induction entries generalizing given record with
  | nil =>
    have complete : isComplete fields given = true :=
      List.all_eq_true.mpr fun field inside => by simp [spared_of_takes each field inside]
    simp [resolveTable, complete]
  | cons entry entries ih =>
    obtain ⟨name, tree⟩ := entry
    have known := find?_of_takes each name
    rw [resolveTable, List.forall_mem_cons]
    generalize fields.find? (·.name == name) = found at known
    cases found with
    | none => simp [show kinds.get? name = none from known, ih]
    | some field =>
      obtain ⟨kind, named, takes⟩ := known
      simp only [named, bind_eq_ok_iff, beneath_eq_ok_iff, Option.some.injEq, forall_eq',
        ← takes.takes tree]
      constructor
      · rintro ⟨result, change, here, more⟩
        exact ⟨⟨change, here⟩, ih.mp ⟨result, more⟩⟩
      · rintro ⟨⟨change, here⟩, others⟩
        obtain ⟨result, more⟩ := ih.mpr others
        exact ⟨result, change, here, more⟩

theorem resolveInOrder_succeeds_iff (each : List.Forall₂ Field.Takes fields kinds)
    {items : List Tree} {index : Nat} {record : ρ} :
    (∃ result, resolveInOrder record index fields items = .ok result) ↔
      ∀ pair ∈ kinds.zip items, pair.1.2.Fits pair.2 := by
  induction each generalizing items index record with
  | nil => cases items <;> simp [resolveInOrder]
  | @cons field entry fields kinds takes each ih =>
    cases items with
    | nil =>
      have spared := List.any_eq_false.mpr fun field inside =>
        ne_true_of_eq_false (spared_of_takes (.cons takes each) field inside)
      simp [resolveInOrder, spared]
    | cons item items =>
      rw [resolveInOrder, List.zip_cons_cons, List.forall_mem_cons]
      simp only [bind_eq_ok_iff, beneath_eq_ok_iff, ← takes.takes item]
      constructor
      · rintro ⟨result, change, here, more⟩
        exact ⟨⟨change, here⟩, ih.mp ⟨result, more⟩⟩
      · rintro ⟨⟨change, here⟩, others⟩
        obtain ⟨result, more⟩ := ih.mpr others
        exact ⟨result, change, here, more⟩

theorem takes_record (each : List.Forall₂ Field.Takes fields kinds) (initial : ρ) :
    (record initial fields).Takes (.record kinds) := by
  intro tree
  cases tree with
  | table entries =>
    refine (resolveTable_succeeds_iff each).trans ⟨.record, fun fits => ?_⟩
    cases fits with
    | record each => exact each
  | list items =>
    refine (resolveInOrder_succeeds_iff each).trans ⟨.listed, fun fits => ?_⟩
    cases fits with
    | listed each => exact each
  | _ => exact ⟨nofun, nofun⟩

/-! ### Parts of records -/

end Decoder

namespace Field

variable {α ρ : Type}

def Keeps (field : Field ρ) (part : ρ → α) : Prop :=
  ∀ tree change, field.resolve tree = .ok change → ∀ record, part (change record) = part record

def Sets (field : Field ρ) (part : ρ → α) (decoder : Decoder α) : Prop :=
  ∀ tree change, field.resolve tree = .ok change →
    ∀ record, decoder.resolve tree = .ok (part (change record))

@[simp] theorem name_defaulted {name : String} {decoder : Decoder α} {set : α → ρ → ρ} :
    (defaulted name decoder set).name = name := rfl

@[simp] theorem keeps_defaulted {β : Type} {name : String} {decoder : Decoder β} {set : β → ρ → ρ}
    {part : ρ → α} (keeps : ∀ value record, part (set value record) = part record) :
    (defaulted name decoder set).Keeps part := by
  intro tree change read record
  obtain ⟨value, -, rfl⟩ := map_eq_ok_iff.mp read
  exact keeps value record

@[simp] theorem sets_defaulted {name : String} {decoder : Decoder α} {set : α → ρ → ρ}
    {part : ρ → α}
    (sets : ∀ tree value, decoder.resolve tree = .ok value →
      ∀ record, part (set value record) = value) :
    (defaulted name decoder set).Sets part decoder := by
  intro tree change read record
  obtain ⟨value, got, rfl⟩ := map_eq_ok_iff.mp read
  rw [sets tree value got record, got]

end Field

namespace Decoder

variable {α β ρ : Type} {fields : List (Field ρ)} {kinds : Members Kind}

/-- Where a tree has a value at the end of the path, one part of what the decoder gives is what
`inner` gives for that value. -/
def PartAt (decoder : Decoder ρ) (path : List String) (part : ρ → α) (inner : Decoder α) : Prop :=
  ∀ tree result, tree.Ordered → decoder.resolve tree = .ok result →
    ∀ value, tree.find? path = some value → inner.resolve value = .ok (part result)

theorem PartAt.under {decoder : Decoder ρ} {middle : Decoder β} {inner : Decoder α} {name : String}
    {path : List String} {outer : ρ → β} {part : β → α} (above : decoder.PartAt [name] outer middle)
    (below : middle.PartAt path part inner) :
    decoder.PartAt (name :: path) (fun result => part (outer result)) inner := by
  intro tree result ordered read value found
  obtain ⟨middle, there, deeper⟩ := Option.bind_eq_some_iff.mp found
  have reached : tree.find? [name] = some middle := (tree.find?_singleton name).trans there
  have taken := above tree result ordered read middle reached
  exact below middle _ (ordered.of_get? there) taken value deeper

variable {name : String} {part : ρ → α} {inner : Decoder α} {entries : Members Tree}
  {given : List String} {record result : ρ}

theorem resolveTable_cases {tree : Tree}
    (read : resolveTable fields given record ((name, tree) :: entries) = .ok result) :
    (∀ field ∈ fields, field.name ≠ name) ∧ resolveTable fields given record entries = .ok result ∨
    ∃ field ∈ fields, field.name = name ∧ ∃ change, field.resolve tree = .ok change ∧
      resolveTable fields (name :: given) (change record) entries = .ok result := by
  rw [resolveTable] at read
  split at read
  next unknown =>
    refine .inl ⟨fun field inside => ?_, read⟩
    simpa using List.find?_eq_none.mp unknown field inside
  next field found =>
    obtain ⟨change, here, more⟩ := bind_eq_ok_iff.mp read
    have named : field.name = name := by simpa using List.find?_some found
    exact .inr ⟨field, List.mem_of_find?_eq_some found, named, change, beneath_eq_ok_iff.mp here,
      more⟩

theorem part_of_unlisted (keeps : ∀ field ∈ fields, field.name ≠ name → field.Keeps part)
    (read : resolveTable fields given record entries = .ok result)
    (unlisted : name ∉ entries.names) :
    part result = part record := by
  induction entries generalizing given record with
  | nil =>
    rw [resolveTable] at read
    split at read <;> cases read
    rfl
  | cons entry entries ih =>
    obtain ⟨key, tree⟩ := entry
    obtain ⟨other, later⟩ := not_or.mp (List.mem_cons.not.mp unlisted)
    rcases resolveTable_cases read with ⟨-, more⟩ | ⟨field, inside, rfl, change, here, more⟩
    · exact ih more later
    · rw [ih more later, keeps field inside (Ne.symm other) tree change here record]

theorem part_of_listed (sets : ∀ field ∈ fields, field.name = name → field.Sets part inner)
    (keeps : ∀ field ∈ fields, field.name ≠ name → field.Keeps part)
    (known : ∃ field ∈ fields, field.name = name)
    (read : resolveTable fields given record entries = .ok result) (distinct : entries.names.Nodup)
    {value : Tree} (listed : entries.get? name = some value) :
    inner.resolve value = .ok (part result) := by
  induction entries generalizing given record with
  | nil => cases listed
  | cons entry entries ih =>
    obtain ⟨key, tree⟩ := entry
    obtain ⟨fresh, distinct⟩ := List.nodup_cons.mp distinct
    rw [Members.get?] at listed
    split at listed
    next same =>
      subst same
      obtain rfl : tree = value := Option.some.inj listed
      rcases resolveTable_cases read with ⟨unknown, -⟩ | ⟨field, inside, named, change, here, more⟩
      · obtain ⟨field, inside, named⟩ := known
        exact absurd named (unknown field inside)
      · rw [part_of_unlisted keeps more fresh]
        exact sets field inside named tree change here record
    next =>
      rcases resolveTable_cases read with ⟨-, more⟩ | ⟨-, -, -, change, -, more⟩
      · exact ih more distinct listed
      · exact ih more distinct listed

/-- A part of a record is set by the field of one name if no other field touches it. -/
theorem partAt_record {initial : ρ}
    (sets : ∀ field ∈ fields, field.name = name → field.Sets part inner)
    (keeps : ∀ field ∈ fields, field.name ≠ name → field.Keeps part)
    (known : ∃ field ∈ fields, field.name = name) :
    (Decoder.record initial fields).PartAt [name] part inner := by
  intro tree result ordered read value found
  rw [Tree.find?_singleton] at found
  cases tree with
  | table entries =>
    exact part_of_listed sets keeps known read (Tree.ordered_table_iff.mp ordered).1.nodup found
  | _ => cases found

end Decoder

end CommandGate
