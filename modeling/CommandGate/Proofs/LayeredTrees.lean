import CommandGate.Config.Tree
import CommandGate.Proofs.MemberOrder

/-!
Trees laid over each other. Where no tree of a pile has a value that is no table on the way to a
place, the pile has at that place what the uppermost tree says that says anything there: a value
that is no table comes through as it is, a table goes on with the places inside it.
-/

namespace CommandGate.Config.Tree

inductive IsTable : Tree → Prop where
  | table (entries : Members Tree) : IsTable (.table entries)

/-- Every table names each entry once, by ascending name. What is inside lists does not matter: no
path leads there. -/
inductive Ordered : Tree → Prop where
  | table {entries : Members Tree} (ascending : Members.Ascending entries)
    (each : ∀ entry ∈ entries, Ordered entry.2) : Ordered (.table entries)
  | other {tree : Tree} (unnamed : ¬tree.IsTable) : Ordered tree

theorem ordered_table_iff {entries : Members Tree} :
    (table entries).Ordered ↔ entries.Ascending ∧ ∀ entry ∈ entries, entry.2.Ordered := by
  constructor
  · intro ordered
    cases ordered with
    | table ascending each => exact ⟨ascending, each⟩
    | other unnamed => exact absurd (.table entries) unnamed
  · rintro ⟨ascending, each⟩
    exact .table ascending each

@[simp] theorem ordered_absent : absent.Ordered := .other nofun

@[simp] theorem ordered_text (value : String) : (text value).Ordered := .other nofun

@[simp] theorem ordered_bool (value : Bool) : (bool value).Ordered := .other nofun

@[simp] theorem ordered_whole (value : Int) : (whole value).Ordered := .other nofun

@[simp] theorem ordered_real (value : Number.Extended) : (real value).Ordered := .other nofun

@[simp] theorem ordered_list (items : List Tree) : (list items).Ordered := .other nofun

theorem ordered_empty : empty.Ordered := .table List.Pairwise.nil nofun

theorem Ordered.of_get? {tree inner : Tree} {name : String} (ordered : tree.Ordered)
    (found : tree.get? name = some inner) : inner.Ordered := by
  cases tree with
  | table entries => exact (ordered_table_iff.mp ordered).2 _ (Members.mem_of_get? found)
  | _ => cases found

/-! ### Two trees -/

/-- What stands at a place where the lower tree has the one and the upper tree the other. -/
def joined : Option Tree → Option Tree → Option Tree
  | below, none => below
  | none, some above => some above
  | some below, some above => some (below.overlay above)

@[simp] theorem joined_none (below : Option Tree) : joined below none = below := by
  cases below <;> rfl

theorem overlay_of_not_isTable {below above : Tree} (leaf : ¬above.IsTable) :
    below.overlay above = above := by
  cases above with
  | table entries => exact absurd (.table entries) leaf
  | _ => rfl

theorem isTable_overlay (below : Tree) {above : Tree} (table : above.IsTable) :
    (below.overlay above).IsTable := by
  obtain ⟨entries⟩ := table
  cases below <;> exact .table _

theorem exists_of_joined_leaf {below above : Option Tree} {value : Tree}
    (found : joined below above = some value) (leaf : ¬value.IsTable) :
    (∃ bottom, below = some bottom ∧ ¬bottom.IsTable) ∨ ∃ top, above = some top ∧ ¬top.IsTable := by
  cases above with
  | none => exact .inl ⟨value, joined_none below ▸ found, leaf⟩
  | some top =>
    refine .inr ⟨top, rfl, fun table => leaf ?_⟩
    cases below with
    | none =>
      cases found
      exact table
    | some bottom =>
      cases found
      exact isTable_overlay bottom table

theorem get?_overlayEntries {above : Members Tree} (distinct : (Members.names above).Nodup)
    (below : Members Tree) (name : String) :
    (overlayEntries below above).get? name = joined (below.get? name) (above.get? name) := by
  induction above generalizing below with
  | nil => rw [overlayEntries, Members.get?, joined_none]
  | cons entry above ih =>
    obtain ⟨key, value⟩ := entry
    obtain ⟨fresh, distinct⟩ := List.nodup_cons.mp distinct
    rw [overlayEntries, ih distinct]
    by_cases same : key = name
    · subst same
      have unlisted : Members.get? key above = none := by
        by_contra listed
        exact fresh (Members.exists_get?_iff.mp (Option.ne_none_iff_exists'.mp listed))
      rw [unlisted, joined_none, Members.get?_insert_same, Members.get?, if_pos rfl]
      cases below.get? key <;> rfl
    · rw [Members.get?_insert_other _ _ same, Members.get?, if_neg same]

theorem get?_overlay {above : Tree} (ordered : above.Ordered) (table : above.IsTable) (below : Tree)
    (name : String) :
    (below.overlay above).get? name = joined (below.get? name) (above.get? name) := by
  obtain ⟨entries⟩ := table
  cases below with
  | table others => exact get?_overlayEntries (ordered_table_iff.mp ordered).1.nodup others name
  | _ => simp only [overlay, get?]; cases Members.get? name entries <;> rfl

theorem ordered_insert {entries : Members Tree} {value : Tree} (name : String)
    (ordered : (table entries).Ordered) (inner : value.Ordered) :
    (table (entries.insert name value)).Ordered := by
  obtain ⟨ascending, each⟩ := ordered_table_iff.mp ordered
  refine .table (Members.ascending_insert name value ascending) fun entry inside => ?_
  rcases Members.mem_of_mem_insert inside with rfl | old
  · exact inner
  · exact each entry old

theorem ordered_overlay {below above : Tree} (lower : below.Ordered) (upper : above.Ordered) :
    (below.overlay above).Ordered := by
  induction upper generalizing below with
  | other leaf =>
    rw [overlay_of_not_isTable leaf]
    exact .other leaf
  | @table entries ascending each ih =>
    cases below with
    | table others =>
      clear ascending
      show (Tree.table (overlayEntries others entries)).Ordered
      induction entries generalizing others with
      | nil => exact lower
      | cons entry entries more =>
        obtain ⟨name, value⟩ := entry
        obtain ⟨here, each⟩ := List.forall_mem_cons.mp each
        obtain ⟨first, ih⟩ := List.forall_mem_cons.mp ih
        refine more each ih _ (ordered_insert name lower ?_)
        split
        next old found => exact first (lower.of_get? found)
        next => exact here
    | _ => exact .table ascending each

/-! ### Paths -/

theorem find?_singleton (tree : Tree) (name : String) : tree.find? [name] = tree.get? name := by
  rw [find?]
  cases tree.get? name <;> rfl

theorem find?_append (tree : Tree) (front back : List String) :
    tree.find? (front ++ back) = (tree.find? front).bind (find? back) := by
  induction front generalizing tree with
  | nil => rfl
  | cons name front ih =>
    rw [List.cons_append, find?, find?, Option.bind_assoc]
    exact congrArg (tree.get? name).bind (funext ih)

theorem Ordered.of_find? {tree inner : Tree} {path : List String} (ordered : tree.Ordered)
    (found : tree.find? path = some inner) : inner.Ordered := by
  induction path generalizing tree with
  | nil =>
    cases found
    exact ordered
  | cons name path ih =>
    obtain ⟨part, there, deeper⟩ := Option.bind_eq_some_iff.mp found
    exact ih (ordered.of_get? there) deeper

/-- On the way to the end of the path, before it, the tree has a value that is no table. -/
def Shadows (tree : Tree) (path : List String) : Prop :=
  ∃ front back value, path = front ++ back ∧ back ≠ [] ∧ tree.find? front = some value ∧
    ¬value.IsTable

def isShadowing : List String → Tree → Bool
  | [], _ => false
  | name :: path, .table entries =>
    match Members.get? name entries with
    | some inner => isShadowing path inner
    | none => false
  | _ :: _, _ => true

theorem isTable_of_not_shadows {tree : Tree} {name : String} {path : List String}
    (clear : ¬tree.Shadows (name :: path)) : tree.IsTable := by
  by_contra leaf
  exact clear ⟨[], name :: path, tree, rfl, nofun, rfl, leaf⟩

theorem not_shadows_of_get? {tree inner : Tree} {name : String} {path : List String}
    (clear : ¬tree.Shadows (name :: path)) (found : tree.get? name = some inner) :
    ¬inner.Shadows path := by
  rintro ⟨front, back, value, rfl, more, reached, leaf⟩
  refine clear ⟨name :: front, back, value, rfl, more, ?_, leaf⟩
  rw [find?, found, Option.bind_some, reached]

theorem isShadowing_eq_true_iff {tree : Tree} {path : List String} :
    isShadowing path tree = true ↔ tree.Shadows path := by
  constructor
  · intro shadowing
    by_contra clear
    induction path generalizing tree with
    | nil => cases shadowing
    | cons name path ih =>
      obtain ⟨entries⟩ := isTable_of_not_shadows clear
      rw [isShadowing] at shadowing
      split at shadowing
      next inner found => exact ih shadowing (not_shadows_of_get? clear found)
      next => cases shadowing
  · rintro ⟨front, back, value, rfl, more, reached, leaf⟩
    induction front generalizing tree with
    | nil =>
      cases reached
      obtain ⟨name, back, rfl⟩ := List.exists_cons_of_ne_nil more
      cases value with
      | table entries => exact absurd (.table entries) leaf
      | _ => rfl
    | cons name front ih =>
      obtain ⟨part, there, deeper⟩ := Option.bind_eq_some_iff.mp reached
      cases tree with
      | table entries =>
        have there : Members.get? name entries = some part := there
        rw [List.cons_append, isShadowing, there]
        exact ih deeper
      | _ => rfl

instance (tree : Tree) (path : List String) : Decidable (tree.Shadows path) :=
  decidable_of_iff _ isShadowing_eq_true_iff

theorem Shadows.append {tree : Tree} {front : List String} (shadows : tree.Shadows front)
    (back : List String) : tree.Shadows (front ++ back) := by
  obtain ⟨first, rest, value, rfl, more, reached, leaf⟩ := shadows
  exact ⟨first, rest ++ back, value, List.append_assoc .., List.append_ne_nil_of_left_ne_nil more _,
    reached, leaf⟩

theorem find?_overlay {above : Tree} {path : List String} (ordered : above.Ordered)
    (clear : ¬above.Shadows path) (below : Tree) :
    (below.overlay above).find? path = joined (below.find? path) (above.find? path) := by
  induction path generalizing below above with
  | nil => rfl
  | cons name path ih =>
    rw [find?, find?, find?, get?_overlay ordered (isTable_of_not_shadows clear)]
    cases upper : above.get? name with
    | none => rw [joined_none, Option.bind_none, joined_none]
    | some inner =>
      have deeper := ih (ordered.of_get? upper) (not_shadows_of_get? clear upper)
      cases below.get? name with
      | none =>
        rw [Option.bind_none, joined, Option.bind_some]
        cases find? path inner <;> rfl
      | some old => exact deeper old

theorem not_shadows_overlay {below above : Tree} {path : List String} (ordered : above.Ordered)
    (lower : ¬below.Shadows path) (upper : ¬above.Shadows path) :
    ¬(below.overlay above).Shadows path := by
  rintro ⟨front, back, value, rfl, more, reached, leaf⟩
  rw [find?_overlay ordered fun shadows => upper (shadows.append back)] at reached
  rcases exists_of_joined_leaf reached leaf with ⟨bottom, under, leaf⟩ | ⟨top, on, leaf⟩
  · exact lower ⟨front, back, bottom, rfl, more, under, leaf⟩
  · exact upper ⟨front, back, top, rfl, more, on, leaf⟩

/-! ### A pile of trees -/

def pile (base : Tree) (uppers : List Tree) : Tree :=
  uppers.foldr (fun above below => below.overlay above) base

def highest? (trees : List Tree) (path : List String) : Option Tree :=
  trees.findSome? (·.find? path)

theorem isSome_highest? {trees : List Tree} {tree : Tree} {path : List String}
    (inside : tree ∈ trees) (set : (tree.find? path).isSome) : (highest? trees path).isSome :=
  List.findSome?_isSome_iff.mpr ⟨tree, inside, set⟩

/-- What a place has, by what is highest there: nothing, a table, or just that value. -/
structure Follows (found highest : Option Tree) : Prop where
  unset : highest = none → found = none
  table : ∀ value, highest = some value → value.IsTable →
    ∃ joint, found = some joint ∧ joint.IsTable
  value : ∀ value, highest = some value → ¬value.IsTable → found = some value

theorem Follows.refl (found : Option Tree) : Follows found found :=
  ⟨id, fun value set table => ⟨value, set, table⟩, fun _ set _ => set⟩

theorem Follows.exists_found {found highest : Option Tree} (follows : Follows found highest)
    (set : highest.isSome) : ∃ value, found = some value := by
  obtain ⟨value, set⟩ := Option.isSome_iff_exists.mp set
  by_cases table : value.IsTable
  · obtain ⟨joint, there, -⟩ := follows.table value set table
    exact ⟨joint, there⟩
  · exact ⟨value, follows.value value set table⟩

theorem follows_joined {below above : Option Tree} (set : above ≠ none) :
    Follows (joined below above) above := by
  cases above with
  | none => exact absurd rfl set
  | some value =>
    cases below with
    | none => exact .refl _
    | some old =>
      refine ⟨nofun, ?_, ?_⟩
      · rintro _ ⟨⟩ table
        exact ⟨_, rfl, isTable_overlay old table⟩
      · rintro _ ⟨⟩ leaf
        exact congrArg some (overlay_of_not_isTable leaf)

def Clear (trees : List Tree) (path : List String) : Prop := ∀ tree ∈ trees, ¬tree.Shadows path

instance (trees : List Tree) (path : List String) : Decidable (Clear trees path) :=
  inferInstanceAs (Decidable (∀ tree ∈ trees, ¬tree.Shadows path))

theorem Clear.of_append {trees : List Tree} {front back : List String}
    (clear : Clear trees (front ++ back)) : Clear trees front :=
  fun tree inside shadows => clear tree inside (shadows.append back)

variable {base : Tree} {uppers : List Tree} {path : List String}

theorem ordered_pile (ordered : ∀ tree ∈ uppers ++ [base], tree.Ordered) :
    (pile base uppers).Ordered := by
  induction uppers with
  | nil => exact ordered base List.mem_cons_self
  | cons above uppers ih =>
    obtain ⟨here, ordered⟩ := List.forall_mem_cons.mp ordered
    exact ordered_overlay (ih ordered) here

theorem not_shadows_pile (ordered : ∀ tree ∈ uppers ++ [base], tree.Ordered)
    (clear : Clear (uppers ++ [base]) path) : ¬(pile base uppers).Shadows path := by
  induction uppers with
  | nil => exact clear base List.mem_cons_self
  | cons above uppers ih =>
    obtain ⟨here, ordered⟩ := List.forall_mem_cons.mp ordered
    obtain ⟨through, clear⟩ := List.forall_mem_cons.mp clear
    exact not_shadows_overlay here (ih ordered clear) through

theorem follows_find?_pile (ordered : ∀ tree ∈ uppers ++ [base], tree.Ordered)
    (clear : Clear (uppers ++ [base]) path) :
    Follows ((pile base uppers).find? path) (highest? (uppers ++ [base]) path) := by
  induction uppers with
  | nil =>
    have alone : highest? [base] path = base.find? path := by
      simp [highest?]
    exact alone ▸ .refl _
  | cons above uppers ih =>
    obtain ⟨here, ordered⟩ := List.forall_mem_cons.mp ordered
    obtain ⟨through, clear⟩ := List.forall_mem_cons.mp clear
    have step : (pile base (above :: uppers)).find? path =
        joined ((pile base uppers).find? path) (above.find? path) := find?_overlay here through _
    rw [step, List.cons_append, highest?, List.findSome?_cons]
    cases set : above.find? path with
    | none => exact joined_none _ ▸ ih ordered clear
    | some value => exact follows_joined nofun

end CommandGate.Config.Tree
