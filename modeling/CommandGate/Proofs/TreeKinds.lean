import CommandGate.Proofs.LayeredTrees

/-!
Kinds of configuration trees. What a kind asks of a tree it asks at the ends of paths through its
records and mappings, if the tree has nothing else on the way; the same holds of a pile of trees,
where what counts is the highest value at each end.
-/

namespace CommandGate.Config

inductive Kind where
  | text
  | flag
  | natural (bits : Nat)
  | number
  | optional (kind : Kind)
  | list (kind : Kind)
  | mapping (kind : Kind)
  | record (kinds : List (String × Kind))

/-- The tree is of the kind. In a record entries of unknown names do not matter, and known ones may
be missing. A record may also stand as the list of its first parts; more items do not matter. -/
inductive Kind.Fits : Kind → Tree → Prop where
  | text (value : String) : Fits .text (.text value)
  | flag (value : Bool) : Fits .flag (.bool value)
  | natural {bits n : Nat} (small : n < 2 ^ bits) : Fits (.natural bits) (.whole n)
  | whole (n : Int) : Fits .number (.whole n)
  | real (x : Number.Extended) : Fits .number (.real x)
  | absent (kind : Kind) : Fits (.optional kind) .absent
  | given {kind : Kind} {tree : Tree} (fits : Fits kind tree) : Fits (.optional kind) tree
  | list {kind : Kind} {items : List Tree} (each : ∀ item ∈ items, Fits kind item) :
    Fits (.list kind) (.list items)
  | mapping {kind : Kind} {entries : Members Tree} (each : ∀ entry ∈ entries, Fits kind entry.2) :
    Fits (.mapping kind) (.table entries)
  | record {kinds : Members Kind} {entries : Members Tree}
    (each : ∀ entry ∈ entries, ∀ kind, kinds.get? entry.1 = some kind → Fits kind entry.2) :
    Fits (.record kinds) (.table entries)
  | listed {kinds : Members Kind} {items : List Tree}
    (each : ∀ pair ∈ kinds.zip items, Fits pair.1.2 pair.2) : Fits (.record kinds) (.list items)

namespace Kind

/-! ### What a kind asks for at its ends -/

def IsLeaf (kind : Kind) : Prop := ∀ tree, kind.Fits tree → ¬tree.IsTable

/-- A path through records and mappings, and the kind of what is at its end. -/
inductive Asks : Kind → List String → Kind → Prop where
  | leaf {kind : Kind} (leaf : kind.IsLeaf) : Asks kind [] kind
  | mapping {kind leaf : Kind} {path : List String} (name : String) (inner : Asks kind path leaf) :
    Asks (.mapping kind) (name :: path) leaf
  | record {kinds : Members Kind} {kind leaf : Kind} {name : String} {path : List String}
    (named : kinds.get? name = some kind) (inner : Asks kind path leaf) :
    Asks (.record kinds) (name :: path) leaf

/-- Every record of the kind has a part, down to kinds without tables. -/
inductive Full : Kind → Prop where
  | leaf {kind : Kind} (leaf : kind.IsLeaf) : Full kind
  | mapping {kind : Kind} (inner : Full kind) : Full (.mapping kind)
  | record {kinds : Members Kind} (nonempty : kinds ≠ []) (each : ∀ entry ∈ kinds, Full entry.2) :
    Full (.record kinds)

variable {kind leaf : Kind} {path : List String} {tree value : Tree}

theorem isLeaf_text : text.IsLeaf := by
  intro tree fits
  cases fits
  exact nofun

theorem isLeaf_flag : flag.IsLeaf := by
  intro tree fits
  cases fits
  exact nofun

theorem isLeaf_natural (bits : Nat) : (natural bits).IsLeaf := by
  intro tree fits
  cases fits
  exact nofun

theorem isLeaf_number : number.IsLeaf := by
  intro tree fits
  cases fits <;> exact nofun

theorem isLeaf_list (kind : Kind) : (list kind).IsLeaf := by
  intro tree fits
  cases fits
  exact nofun

theorem IsLeaf.optional (leaf : kind.IsLeaf) : kind.optional.IsLeaf := by
  intro tree fits
  cases fits with
  | absent => exact nofun
  | given fits => exact leaf tree fits

theorem Asks.isLeaf (asks : kind.Asks path leaf) : leaf.IsLeaf := by
  induction asks with
  | leaf leaf => exact leaf
  | mapping name inner ih => exact ih
  | record named inner ih => exact ih

@[simp] theorem full_text : text.Full := .leaf isLeaf_text

@[simp] theorem full_flag : flag.Full := .leaf isLeaf_flag

@[simp] theorem full_natural (bits : Nat) : (natural bits).Full := .leaf (isLeaf_natural bits)

@[simp] theorem full_number : number.Full := .leaf isLeaf_number

@[simp] theorem full_list (kind : Kind) : (list kind).Full := .leaf (isLeaf_list kind)

theorem Full.exists_asks (full : kind.Full) : ∃ path leaf, kind.Asks path leaf := by
  induction full with
  | @leaf kind leaf => exact ⟨[], kind, .leaf leaf⟩
  | mapping inner ih =>
    obtain ⟨path, leaf, asks⟩ := ih
    exact ⟨"" :: path, leaf, .mapping "" asks⟩
  | @record kinds nonempty each ih =>
    obtain ⟨⟨name, kind⟩, others, rfl⟩ := List.exists_cons_of_ne_nil nonempty
    obtain ⟨path, leaf, asks⟩ := ih (name, kind) List.mem_cons_self
    exact ⟨name :: path, leaf, .record (if_pos rfl) asks⟩

theorem Fits.of_asks (asks : kind.Asks path leaf) (fits : kind.Fits tree)
    (clear : ¬tree.Shadows path) (found : tree.find? path = some value) : leaf.Fits value := by
  induction asks generalizing tree with
  | leaf leaf =>
    cases found
    exact fits
  | mapping name inner ih =>
    obtain ⟨part, there, deeper⟩ := Option.bind_eq_some_iff.mp found
    obtain ⟨entries⟩ := Tree.isTable_of_not_shadows clear
    cases fits with
    | mapping each =>
      exact ih (each _ (Members.mem_of_get? there)) (Tree.not_shadows_of_get? clear there) deeper
  | record named inner ih =>
    obtain ⟨part, there, deeper⟩ := Option.bind_eq_some_iff.mp found
    obtain ⟨entries⟩ := Tree.isTable_of_not_shadows clear
    cases fits with
    | record each =>
      exact ih (each _ (Members.mem_of_get? there) _ named) (Tree.not_shadows_of_get? clear there)
        deeper

theorem fits_iff_of_clear (full : kind.Full) (ordered : tree.Ordered)
    (clear : ∀ path leaf, kind.Asks path leaf → ¬tree.Shadows path) :
    kind.Fits tree ↔ ∀ path leaf, kind.Asks path leaf →
      ∀ value, tree.find? path = some value → leaf.Fits value := by
  refine ⟨fun fits path leaf asks value found => fits.of_asks asks (clear path leaf asks) found, ?_⟩
  intro ends
  induction full generalizing tree with
  | leaf leaf => exact ends [] _ (.leaf leaf) tree rfl
  | mapping inner ih =>
    obtain ⟨path, leaf, asks⟩ := inner.exists_asks
    obtain ⟨entries⟩ := Tree.isTable_of_not_shadows (clear _ leaf (.mapping "" asks))
    obtain ⟨ascending, each⟩ := Tree.ordered_table_iff.mp ordered
    refine .mapping fun entry inside => ?_
    have there : (Tree.table entries).get? entry.1 = some entry.2 :=
      (Members.get?_eq_some_iff ascending.nodup).mpr inside
    refine ih (each entry inside) (fun path leaf asks => ?_) fun path leaf asks value found => ?_
    · exact Tree.not_shadows_of_get? (clear _ leaf (.mapping entry.1 asks)) there
    · exact ends _ leaf (.mapping entry.1 asks) value
        (Option.bind_eq_some_iff.mpr ⟨_, there, found⟩)
  | @record kinds nonempty inner ih =>
    obtain ⟨path, leaf, asks⟩ := (Full.record nonempty inner).exists_asks
    obtain ⟨entries⟩ : tree.IsTable := by
      cases asks with
      | leaf leaf => exact absurd (.table []) (leaf _ (.record nofun))
      | record named asks => exact Tree.isTable_of_not_shadows (clear _ leaf (.record named asks))
    obtain ⟨ascending, each⟩ := Tree.ordered_table_iff.mp ordered
    refine .record fun entry inside kind named => ?_
    have there : (Tree.table entries).get? entry.1 = some entry.2 :=
      (Members.get?_eq_some_iff ascending.nodup).mpr inside
    refine ih (entry.1, kind) (Members.mem_of_get? named) (each entry inside)
      (fun path leaf asks => ?_) fun path leaf asks value found => ?_
    · exact Tree.not_shadows_of_get? (clear _ leaf (.record named asks)) there
    · exact ends _ leaf (.record named asks) value (Option.bind_eq_some_iff.mpr ⟨_, there, found⟩)

theorem IsLeaf.fits_iff_of_follows {found highest : Option Tree} (leaf : kind.IsLeaf)
    (follows : Tree.Follows found highest) :
    (∀ value, found = some value → kind.Fits value) ↔
      ∀ value, highest = some value → kind.Fits value := by
  cases highest with
  | none => simp [follows.unset rfl]
  | some value =>
    by_cases table : value.IsTable
    · obtain ⟨joint, rfl, joined⟩ := follows.table value rfl table
      have neither : ¬kind.Fits joint ∧ ¬kind.Fits value :=
        ⟨fun fits => leaf joint fits joined, fun fits => leaf value fits table⟩
      simp [neither]
    · rw [follows.value value rfl table]

/-- A pile is of a kind if what is highest at each end is what the kind asks for. -/
theorem fits_pile_iff (full : kind.Full) {base : Tree} {uppers : List Tree}
    (ordered : ∀ tree ∈ uppers ++ [base], tree.Ordered)
    (clear : ∀ path leaf, kind.Asks path leaf → Tree.Clear (uppers ++ [base]) path) :
    kind.Fits (Tree.pile base uppers) ↔ ∀ path leaf, kind.Asks path leaf →
      ∀ value, Tree.highest? (uppers ++ [base]) path = some value → leaf.Fits value := by
  rw [fits_iff_of_clear full (Tree.ordered_pile ordered) fun path leaf asks =>
    Tree.not_shadows_pile ordered (clear path leaf asks)]
  refine forall_congr' fun path => forall_congr' fun leaf => forall_congr' fun asks => ?_
  exact asks.isLeaf.fits_iff_of_follows (Tree.follows_find?_pile ordered (clear path leaf asks))

end Kind

end CommandGate.Config
