import Mathlib.Data.List.Basic
import Mathlib.Data.List.TakeWhile
import CommandGate.Files.Path

/-!
The file that a path names. It is the last component of the path, slashes and single dots after it
aside; its extension is what follows its last dot, where a name stands before the dot.
-/

namespace CommandGate

namespace Text

variable {mark : Char}

theorem splitOn_eq (mark : Char) (text : List Char) : splitOn mark text = text.splitOn mark := by
  induction text with
  | nil => rfl
  | cons c text ih =>
    rw [splitOn, ih, List.splitOn_cons_eq_if_modifyHead]
    cases pieces : text.splitOn mark with
    | nil => exact absurd pieces (List.splitOn_ne_nil mark text)
    | cons piece pieces => by_cases here : c = mark <;> simp [here]

theorem not_mem_of_mem_splitOn {text piece : List Char} (inside : piece ∈ text.splitOn mark) :
    mark ∉ piece := by
  induction text generalizing piece with
  | nil => simp_all
  | cons c text ih =>
    rw [List.splitOn_cons_eq_if_modifyHead] at inside
    split at inside
    next here =>
      rcases List.mem_cons.mp inside with rfl | later
      · exact List.not_mem_nil
      · exact ih later
    next other =>
      cases pieces : text.splitOn mark with
      | nil => exact absurd pieces (List.splitOn_ne_nil mark text)
      | cons first pieces =>
        rw [pieces] at inside ih
        rcases List.mem_cons.mp inside with rfl | later
        · rw [List.mem_cons, not_or]
          exact ⟨fun same => other (by simp [same]), ih List.mem_cons_self⟩
        · exact ih (List.mem_cons_of_mem _ later)

def behind (mark : Char) (pieces : List (List Char)) : List Char := pieces.flatMap (mark :: ·)

theorem intercalate_cons (first : List Char) (pieces : List (List Char)) :
    [mark].intercalate (first :: pieces) = first ++ behind mark pieces := by
  induction pieces generalizing first with
  | nil => simp [behind]
  | cons piece pieces ih =>
    rw [List.intercalate_cons_cons, ih]
    simp [behind]

theorem splitOn_append_behind {first : List Char} {pieces : List (List Char)}
    (absent : ∀ piece ∈ first :: pieces, mark ∉ piece) :
    (first ++ behind mark pieces).splitOn mark = first :: pieces := by
  rw [← intercalate_cons]
  exact List.splitOn_intercalate mark absent (List.cons_ne_nil first pieces)

theorem splitOn_eq_append_cons {text piece : List Char} {fronts backs : List (List Char)}
    (split : text.splitOn mark = fronts ++ piece :: backs) :
    ∃ front, text = front ++ piece ++ behind mark backs ∧ ∀ c ∈ front.getLast?, c = mark := by
  have whole : text = [mark].intercalate (fronts ++ piece :: backs) := by
    rw [← split, List.intercalate_splitOn]
  clear split
  induction fronts generalizing text with
  | nil => exact ⟨[], by rw [whole, List.nil_append, intercalate_cons]; rfl, nofun⟩
  | cons first fronts ih =>
    obtain ⟨front, rest, last⟩ := ih rfl
    have some : fronts ++ piece :: backs ≠ [] := by simp
    refine ⟨first ++ mark :: front, ?_, ?_⟩
    · rw [whole, List.cons_append, List.intercalate_cons_of_ne_nil some, rest]
      simp
    · intro c ends
      rw [List.getLast?_append, List.getLast?_cons, Option.some_or, Option.mem_some_iff] at ends
      cases later : front.getLast? with
      | none => exact (ends.symm.trans (by rw [later]; rfl))
      | some d =>
        rw [later] at ends
        exact ends ▸ last d later

end Text

namespace Files

open Text

/-- Slashes, each with a single dot after it or none: what may follow the name of a file. -/
inductive Trails : List Char → Prop where
  | nil : Trails []
  | slash {rest : List Char} (more : Trails rest) : Trails ('/' :: rest)
  | dot {rest : List Char} (more : Trails rest) : Trails ('/' :: '.' :: rest)

/-- The path ends in a component that is a name: no slash is in it, and it is no row of one or two
dots. -/
structure EndsIn (path name : List Char) : Prop where
  placed : ∃ front back, path = front ++ name ++ back ∧
    (∀ c ∈ front.getLast?, c = '/') ∧ Trails back
  nonempty : name ≠ []
  slashless : '/' ∉ name
  here : name ≠ ['.']
  parent : name ≠ ['.', '.']

def Hollow (piece : List Char) : Prop := piece = [] ∨ piece = ['.']

theorem components_getLast? (path : List Char) :
    (components path).getLast? =
      (splitOn '/' path).reverse.find? fun piece => !(piece == [] || piece == ['.']) := by
  rw [components, List.getLast?_eq_head?_reverse, ← List.filter_reverse, List.head?_filter]

/-- The name is the last piece between slashes that is not hollow, and it is not two dots. -/
theorem fileName?_eq_some_iff {path name : List Char} :
    fileName? path = some name ↔
      (∃ fronts backs, splitOn '/' path = fronts ++ name :: backs ∧
        ∀ piece ∈ backs, Hollow piece) ∧ name ≠ [] ∧ name ≠ ['.'] ∧ name ≠ ['.', '.'] := by
  have visible (piece : List Char) : (!(piece == [] || piece == ['.'])) = true ↔
      piece ≠ [] ∧ piece ≠ ['.'] := by simp
  have hollow (piece : List Char) : (!(!(piece == [] || piece == ['.']))) = true ↔
      Hollow piece := by simp [Hollow]
  rw [fileName?, components_getLast?, Option.filter_eq_some_iff, List.find?_eq_some_iff_append,
    visible, bne_iff_ne]
  simp only [hollow]
  constructor
  · rintro ⟨⟨⟨nonempty, here⟩, backs, fronts, whole, after⟩, parent⟩
    rw [List.reverse_eq_iff, List.reverse_append, List.reverse_cons, List.append_assoc,
      List.singleton_append] at whole
    exact ⟨⟨_, _, whole, fun piece inside => after piece (List.mem_reverse.mp inside)⟩, nonempty,
      here, parent⟩
  · rintro ⟨⟨fronts, backs, whole, after⟩, nonempty, here, parent⟩
    exact ⟨⟨⟨nonempty, here⟩, backs.reverse, fronts.reverse, by simp [whole],
      fun piece inside => after piece (List.mem_reverse.mp inside)⟩, parent⟩

theorem slashless_of_hollow {piece : List Char} (hollow : Hollow piece) : '/' ∉ piece := by
  rcases hollow with rfl | rfl <;> decide

theorem trails_iff {back : List Char} :
    Trails back ↔ ∃ pieces, (∀ piece ∈ pieces, Hollow piece) ∧ back = behind '/' pieces := by
  constructor
  · intro trails
    induction trails with
    | nil => exact ⟨[], nofun, rfl⟩
    | slash _ ih =>
      obtain ⟨pieces, hollow, rfl⟩ := ih
      exact ⟨[] :: pieces, List.forall_mem_cons.mpr ⟨.inl rfl, hollow⟩, rfl⟩
    | dot _ ih =>
      obtain ⟨pieces, hollow, rfl⟩ := ih
      exact ⟨['.'] :: pieces, List.forall_mem_cons.mpr ⟨.inr rfl, hollow⟩, rfl⟩
  · rintro ⟨pieces, hollow, rfl⟩
    induction pieces with
    | nil => exact .nil
    | cons piece pieces ih =>
      obtain ⟨here, there⟩ := List.forall_mem_cons.mp hollow
      rcases here with rfl | rfl
      · exact .slash (ih there)
      · exact .dot (ih there)

theorem fileName?_eq_some_iff_endsIn {path name : List Char} :
    fileName? path = some name ↔ EndsIn path name := by
  rw [fileName?_eq_some_iff, splitOn_eq]
  constructor
  · rintro ⟨⟨fronts, backs, split, after⟩, nonempty, here, parent⟩
    obtain ⟨front, whole, last⟩ := splitOn_eq_append_cons split
    have inside : name ∈ path.splitOn '/' := by simp [split]
    exact ⟨⟨front, _, whole, last, trails_iff.mpr ⟨backs, after, rfl⟩⟩, nonempty,
      not_mem_of_mem_splitOn inside, here, parent⟩
  · rintro ⟨⟨front, back, rfl, last, trails⟩, nonempty, slashless, here, parent⟩
    refine ⟨?_, nonempty, here, parent⟩
    obtain ⟨pieces, hollow, rfl⟩ := trails_iff.mp trails
    have absent : ∀ piece ∈ name :: pieces, '/' ∉ piece :=
      List.forall_mem_cons.mpr ⟨slashless, fun piece inside => slashless_of_hollow (hollow piece inside)⟩
    have ends := splitOn_append_behind absent
    rcases front.eq_nil_or_concat' with rfl | ⟨start, c, rfl⟩
    · exact ⟨[], pieces, by simpa using ends, hollow⟩
    · obtain rfl : c = '/' := last c List.getLast?_concat
      refine ⟨start.splitOn '/', pieces, ?_, hollow⟩
      rw [List.append_assoc, List.append_assoc, List.singleton_append,
        List.splitOn_append_cons_self, ends]

theorem extensionOf?_of_dotless {name : List Char} (dotless : '.' ∉ name) :
    extensionOf? name = none := by
  have kept : ∀ c ∈ name.reverse, (c != '.') = true := fun c inside =>
    bne_iff_ne.mpr (ne_of_mem_of_not_mem (List.mem_reverse.mp inside) dotless)
  rw [extensionOf?, List.takeWhile_eq_self_iff.mpr kept]
  simp

theorem extensionOf?_append (stem : List Char) {extension : List Char}
    (dotless : '.' ∉ extension) :
    extensionOf? (stem ++ '.' :: extension) = if stem = [] then none else some extension := by
  have kept : ∀ c ∈ extension.reverse, (c != '.') = true := fun c inside =>
    bne_iff_ne.mpr (ne_of_mem_of_not_mem (List.mem_reverse.mp inside) dotless)
  have last : (stem ++ '.' :: extension).reverse.takeWhile (· != '.') = extension.reverse := by
    rw [List.reverse_append, List.reverse_cons, List.append_assoc,
      List.takeWhile_append_of_pos kept]
    simp
  rw [extensionOf?, last, List.reverse_reverse]
  cases stem with
  | nil => simp
  | cons c stem =>
    refine (if_pos ?_).trans (if_neg (List.cons_ne_nil c stem)).symm
    rw [List.length_append, List.length_cons, List.length_cons]
    omega

theorem extensionOf?_eq_some_iff {name extension : List Char} :
    extensionOf? name = some extension ↔
      '.' ∉ extension ∧ ∃ stem, stem ≠ [] ∧ name = stem ++ '.' :: extension := by
  constructor
  · intro found
    by_cases dotted : '.' ∈ name
    · -- the last dot of the name is the first one of its characters in reverse
      obtain ⟨back, front, whole, dotless⟩ :=
        List.eq_append_cons_of_mem (List.mem_reverse.mpr dotted)
      obtain rfl : name = front.reverse ++ '.' :: back.reverse := by
        simpa using congrArg List.reverse whole
      rw [← List.mem_reverse] at dotless
      rw [extensionOf?_append _ dotless, Option.ite_none_left_eq_some] at found
      obtain ⟨nonempty, same⟩ := found
      cases same
      exact ⟨dotless, front.reverse, nonempty, rfl⟩
    · rw [extensionOf?_of_dotless dotted] at found
      cases found
  · rintro ⟨dotless, stem, nonempty, rfl⟩
    rw [extensionOf?_append stem dotless, if_neg nonempty]

def HasExtension (path extension : List Char) : Prop :=
  ∃ stem, stem ≠ [] ∧ '.' ∉ extension ∧ EndsIn path (stem ++ '.' :: extension)

theorem extension?_eq_some_iff {path extension : List Char} :
    extension? path = some extension ↔ HasExtension path extension := by
  rw [extension?, Option.bind_eq_some_iff]
  constructor
  · rintro ⟨name, found, ends⟩
    obtain ⟨dotless, stem, nonempty, rfl⟩ := extensionOf?_eq_some_iff.mp ends
    exact ⟨stem, nonempty, dotless, fileName?_eq_some_iff_endsIn.mp found⟩
  · rintro ⟨stem, nonempty, dotless, ends⟩
    exact ⟨_, fileName?_eq_some_iff_endsIn.mpr ends,
      extensionOf?_eq_some_iff.mpr ⟨dotless, stem, nonempty, rfl⟩⟩

end Files

end CommandGate
