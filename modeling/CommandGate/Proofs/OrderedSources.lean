import CommandGate.Config.Layers
import CommandGate.Proofs.LayeredTrees

/-!
Every source of settings is an ordered tree: the values of variables and what an environment puts
together from them, the tables of a document, what they are once boxed values are in their places,
and the defaults.
-/

namespace CommandGate

open Config

def Text.Scan.Yields {α : Type} (scan : Text.Scan α) (property : α → Prop) : Prop :=
  ∀ ⦃text value rest⦄, scan text = some (value, rest) → property value

namespace Config.Tree

theorem ordered_ofList {entries : List (String × Tree)}
    (each : ∀ entry ∈ entries, entry.2.Ordered) :
    (table (Members.ofList entries)).Ordered :=
  .table (Members.ascending_ofList entries) fun entry inside =>
    each entry (Members.mem_of_mem_ofList inside)

theorem ordered_singleton {value : Tree} (name : String) (inner : value.Ordered) :
    (table [(name, value)]).Ordered :=
  .table (List.pairwise_singleton _ _) (List.forall_mem_singleton.mpr inner)

theorem ordered_of_map {α : Type} {found : Option α} {make : α → Tree × List Char} {tree : Tree}
    {rest : List Char} (read : found.map make = some (tree, rest))
    (unnamed : ∀ part, ¬(make part).1.IsTable) : tree.Ordered := by
  obtain ⟨part, -, made⟩ := Option.map_eq_some_iff.mp read
  have leaf := unnamed part
  rw [made] at leaf
  exact .other leaf

theorem ordered_nested {value : Tree} (inner : value.Ordered) (path : List String) :
    (nested value path).Ordered := by
  induction path with
  | nil => exact inner
  | cons name path ih => exact ordered_singleton name ih

end Config.Tree

/-! ### Variables -/

namespace Config.Literal

open Text

theorem yields_scanItems {α : Type} {property : α → Prop} {close : Char} {item : Scan α}
    (each : item.Yields property) (fuel : Nat) :
    Scan.Yields (scanItems close item fuel) fun values => ∀ value ∈ values, property value := by
  induction fuel with
  | zero => exact nofun
  | succ fuel ih =>
    intro text values rest read
    rw [scanItems] at read
    split at read
    · cases read
      exact nofun
    · obtain ⟨⟨value, text⟩, got, read⟩ := Option.bind_eq_some_iff.mp read
      dsimp only at read
      split at read
      · cases read
      · split at read
        · obtain ⟨⟨others, rest⟩, more, same⟩ := Option.map_eq_some_iff.mp read
          cases same
          exact List.forall_mem_cons.mpr ⟨each got, ih more⟩
        · split at read
          · cases read
            exact List.forall_mem_singleton.mpr (each got)
          · cases read

theorem yields_scanEntry {value : Scan Tree} (inner : value.Yields Tree.Ordered) :
    (scanEntry value).Yields fun entry => entry.2.Ordered := by
  intro text entry rest read
  obtain ⟨⟨name, text⟩, -, read⟩ := Option.bind_eq_some_iff.mp read
  dsimp only at read
  split at read
  · obtain ⟨⟨tree, rest⟩, got, same⟩ := Option.map_eq_some_iff.mp read
    cases same
    exact inner got
  · cases read

theorem ordered_ofWord (word : List Char) : (ofWord word).Ordered := by
  unfold ofWord
  dsimp only
  split
  · exact .other nofun
  · split
    · exact .other nofun
    · split <;> exact .other nofun

theorem yields_scanBare {inner : Scan Tree} (ordered : inner.Yields Tree.Ordered) :
    Scan.Yields (scanBare inner) Tree.Ordered := by
  intro text tree rest read
  unfold scanBare at read
  split at read
  · cases read
    exact .other nofun
  · split at read
    · cases read
      exact .other nofun
    · split at read
      · obtain ⟨⟨entries, rest⟩, got, same⟩ := Option.map_eq_some_iff.mp read
        cases same
        exact Tree.ordered_ofList (yields_scanItems (yields_scanEntry ordered) _ got)
      · exact Tree.ordered_of_map read fun _ => nofun
      · exact Tree.ordered_of_map read fun _ => nofun
      · cases read
        exact .other nofun
      · cases read
      · cases read
        exact ordered_ofWord _

theorem yields_scanValue (fuel : Nat) : (scanValue fuel).Yields Tree.Ordered := by
  induction fuel with
  | zero => exact nofun
  | succ fuel ih =>
    intro text tree rest read
    obtain ⟨⟨value, rest⟩, got, same⟩ := Option.map_eq_some_iff.mp read
    cases same
    exact yields_scanBare ih got

end Config.Literal

namespace Config

theorem Tree.ordered_ofText (text : String) : (ofText text).Ordered := by
  unfold ofText
  split
  next read => exact Literal.yields_scanValue _ read
  next => exact .other nofun

namespace Environment

theorem ordered_addTo {tree : Tree} (ordered : tree.Ordered) (setting : String × String) :
    (addTo tree setting).Ordered := by
  unfold addTo
  split
  next path _ =>
    exact Tree.ordered_overlay ordered (Tree.ordered_nested (Tree.ordered_ofText _) path)
  next => exact ordered

theorem ordered_toTree (environment : Environment) : environment.toTree.Ordered := by
  suffices general : ∀ tree : Tree, tree.Ordered → (environment.foldl addTo tree).Ordered from
    general .empty Tree.ordered_empty
  induction environment with
  | nil => exact fun _ ordered => ordered
  | cons setting environment ih => exact fun tree ordered => ih _ (ordered_addTo ordered setting)

end Environment

end Config

/-! ### Documents -/

namespace Toml

open Text

/-- The trees of all values are ordered; those in the elements of a list of tables do not matter. -/
inductive Item.Ordered : Item → Prop where
  | value {tree : Tree} (ordered : tree.Ordered) : Ordered (.value tree)
  | table {origin : Origin} {entries : Entries} (each : ∀ entry ∈ entries, Ordered entry.2) :
    Ordered (.table origin entries)
  | tables (elements : List Entries) : Ordered (.tables elements)

/-- What is in the entries is ordered. Their names need not be: they are put in order at the end. -/
def Entries.Sound (entries : Entries) : Prop := ∀ entry ∈ entries, entry.2.Ordered

namespace Entries

variable {entries result : Entries} {item : Item}

theorem sound_nil : Sound [] := nofun

theorem Sound.get? {name : String} (sound : entries.Sound) (found : entries.get? name = some item) :
    item.Ordered := by
  obtain ⟨entry, there, rfl⟩ := Option.map_eq_some_iff.mp found
  exact sound entry (List.mem_of_find?_eq_some there)

theorem Sound.inner {name : String} {origin : Origin} {inner : Entries} (sound : entries.Sound)
    (found : entries.get? name = some (.table origin inner)) : inner.Sound := by
  cases sound.get? found with
  | table each => exact each

theorem Sound.set (sound : entries.Sound) (name : String) (ordered : item.Ordered) :
    (entries.set name item).Sound := by
  intro entry inside
  obtain ⟨old, there, rfl⟩ := List.mem_map.mp inside
  split
  · exact ordered
  · exact sound old there

theorem Sound.append (sound : entries.Sound) (name : String) (ordered : item.Ordered) :
    Sound (entries ++ [(name, item)]) :=
  List.forall_mem_append.mpr ⟨sound, List.forall_mem_singleton.mpr ordered⟩

theorem Sound.addDotted {name : String} {steps : List String} (sound : entries.Sound)
    (ordered : item.Ordered) (added : entries.addDotted name item steps = some result) :
    result.Sound := by
  induction steps generalizing entries result with
  | nil =>
    rw [Entries.addDotted, add] at added
    split at added
    · cases added
    · cases added
      exact sound.append name ordered
  | cons step steps ih =>
    rw [Entries.addDotted] at added
    split at added
    · obtain ⟨inner, deeper, rfl⟩ := Option.map_eq_some_iff.mp added
      exact sound.append step (.table (ih sound_nil deeper))
    next old found =>
      obtain ⟨inner, deeper, rfl⟩ := Option.map_eq_some_iff.mp added
      exact sound.set step (.table (ih (sound.inner found) deeper))
    next old found =>
      split at added
      · cases added
      · obtain ⟨inner, deeper, rfl⟩ := Option.map_eq_some_iff.mp added
        exact sound.set step (.table (ih (sound.inner found) deeper))
    · cases added
    · split at added
      · cases added
      · obtain ⟨elements, -, rfl⟩ := Option.map_eq_some_iff.mp added
        exact sound.set step (.tables elements)
    · cases added

theorem Sound.within {change : Entries → Option Entries} {path : List String}
    (keeps : ∀ inner result, Sound inner → change inner = some result → result.Sound)
    (sound : entries.Sound) (changed : entries.within change path = some result) :
    result.Sound := by
  induction path generalizing entries result with
  | nil => exact keeps entries result sound changed
  | cons step path ih =>
    rw [Entries.within] at changed
    split at changed
    · obtain ⟨inner, deeper, rfl⟩ := Option.map_eq_some_iff.mp changed
      exact sound.append step (.table (ih sound_nil deeper))
    next origin old found =>
      obtain ⟨inner, deeper, rfl⟩ := Option.map_eq_some_iff.mp changed
      exact sound.set step (.table (ih (sound.inner found) deeper))
    · obtain ⟨elements, -, rfl⟩ := Option.map_eq_some_iff.mp changed
      exact sound.set step (.tables elements)
    · cases changed

theorem Sound.define {name : String} (sound : entries.Sound)
    (defined : entries.define name = some result) : result.Sound := by
  unfold Entries.define at defined
  split at defined
  · cases defined
    exact sound.append name (.table sound_nil)
  next inner found =>
    cases defined
    exact sound.set name (.table (sound.inner found))
  · cases defined

theorem Sound.defineElement {name : String} (sound : entries.Sound)
    (defined : entries.defineElement name = some result) : result.Sound := by
  unfold Entries.defineElement at defined
  split at defined
  · cases defined
    exact sound.append name (.tables _)
  · cases defined
    exact sound.set name (.tables _)
  · cases defined

end Entries

theorem entryTrees_eq_map (entries : Entries) :
    entryTrees entries = entries.map fun entry => (entry.1, entry.2.toTree) := by
  induction entries with
  | nil => rfl
  | cons entry entries ih => rw [entryTrees, ih, List.map_cons]

theorem Item.Ordered.toTree {item : Item} (ordered : item.Ordered) : item.toTree.Ordered := by
  induction ordered with
  | value ordered => exact ordered
  | @table origin entries each ih =>
    rw [Item.toTree, entryTrees_eq_map]
    exact Tree.ordered_ofList (List.forall_mem_map.mpr ih)
  | tables elements => exact .other nofun

theorem Entries.Sound.toTree {entries : Entries} (sound : entries.Sound) :
    (Tree.table (Members.ofList (entryTrees entries))).Ordered := by
  have whole : (Item.table .header entries).Ordered := .table sound
  exact whole.toTree

theorem ordered_scalar? {text : List Char} {tree : Tree} (read : scalar? text = some tree) :
    tree.Ordered := by
  unfold scalar? at read
  split at read
  · cases read
    exact .other nofun
  · split at read
    · cases read
      exact .other nofun
    · split at read
      · cases read
        exact Tree.ordered_singleton momentKey (.other nofun)
      · split at read
        · cases read
          exact .other nofun
        · obtain ⟨x, -, rfl⟩ := Option.map_eq_some_iff.mp read
          exact .other nofun

theorem yields_scanPair {value : Scan Tree} (ordered : value.Yields Tree.Ordered) :
    (scanPair value).Yields fun pair => pair.2.Ordered := by
  intro text pair rest read
  obtain ⟨⟨parts, text⟩, -, read⟩ := Option.bind_eq_some_iff.mp read
  dsimp only at read
  split at read
  · obtain ⟨⟨tree, rest⟩, got, same⟩ := Option.map_eq_some_iff.mp read
    cases same
    exact ordered got
  · cases read

theorem yields_scanPairs {value : Scan Tree} (ordered : value.Yields Tree.Ordered) (fuel : Nat)
    {entries : Entries} (sound : entries.Sound) :
    (scanPairs value entries fuel).Yields Entries.Sound := by
  induction fuel generalizing entries with
  | zero => exact nofun
  | succ fuel ih =>
    intro text result rest read
    obtain ⟨⟨⟨⟨path, name⟩, tree⟩, text⟩, pair, read⟩ := Option.bind_eq_some_iff.mp read
    obtain ⟨entries, added, read⟩ := Option.bind_eq_some_iff.mp read
    have next := sound.addDotted (.value (yields_scanPair ordered pair)) added
    split at read
    · cases read
      exact next
    · exact ih next read
    · cases read

theorem yields_scanValue (depth : Nat) : (scanValue depth).Yields Tree.Ordered := by
  induction depth using Nat.strong_induction_on with
  | _ depth ih =>
    intro text tree rest read
    unfold scanValue at read
    split at read
    · split at read
      · cases read
      · exact Tree.ordered_of_map read fun _ => nofun
    · split at read
      · cases read
      next less =>
        split at read
        · cases read
          exact Tree.ordered_empty
        · obtain ⟨⟨entries, rest⟩, got, same⟩ := Option.map_eq_some_iff.mp read
          cases same
          have sound : entries.Sound :=
            yields_scanPairs (ih less less.lt_succ_self) _ Entries.sound_nil got
          exact sound.toTree
    · exact Tree.ordered_of_map read fun _ => nofun
    · exact Tree.ordered_of_map read fun _ => nofun
    · obtain ⟨tree, scalar, same⟩ := Option.map_eq_some_iff.mp read
      cases same
      exact ordered_scalar? scalar

namespace Draft

variable {draft result : Draft} {text rest : List Char}

theorem sound_openTable {isElement : Bool} (sound : draft.entries.Sound)
    (opened : draft.openTable isElement text = some (result, rest)) : result.entries.Sound := by
  obtain ⟨⟨parts, text⟩, -, opened⟩ := Option.bind_eq_some_iff.mp opened
  obtain ⟨rest, -, opened⟩ := Option.bind_eq_some_iff.mp opened
  obtain ⟨name, -, opened⟩ := Option.bind_eq_some_iff.mp opened
  obtain ⟨entries, changed, same⟩ := Option.map_eq_some_iff.mp opened
  cases same
  refine sound.within (fun inner result sound defined => ?_) changed
  split at defined
  · exact sound.defineElement defined
  · exact sound.define defined

theorem sound_addPair (sound : draft.entries.Sound)
    (added : draft.addPair text = some (result, rest)) : result.entries.Sound := by
  obtain ⟨⟨⟨⟨path, name⟩, tree⟩, rest⟩, pair, added⟩ := Option.bind_eq_some_iff.mp added
  obtain ⟨entries, changed, same⟩ := Option.map_eq_some_iff.mp added
  cases same
  have inner : tree.Ordered := yields_scanPair (yields_scanValue _) pair
  exact sound.within (fun _ _ sound added => sound.addDotted (.value inner) added) changed

theorem sound_readLines {fuel : Nat} (sound : draft.entries.Sound)
    (read : readLines fuel draft text = some result) : result.entries.Sound := by
  induction fuel generalizing draft text with
  | zero => cases read
  | succ fuel ih =>
    obtain ⟨text, -, read⟩ := Option.bind_eq_some_iff.mp read
    split at read
    · cases read
      exact sound
    · obtain ⟨⟨next, rest⟩, line, read⟩ := Option.bind_eq_some_iff.mp read
      obtain ⟨rest, -, read⟩ := Option.bind_eq_some_iff.mp read
      refine ih ?_ read
      split at line
      · exact sound_openTable sound line
      · exact sound_openTable sound line
      · exact sound_addPair sound line

end Draft

theorem ordered_of_read? {text : String} {entries : Members Tree}
    (read : read? text = some entries) : (Tree.table entries).Ordered := by
  obtain ⟨draft, lines, rfl⟩ := Option.map_eq_some_iff.mp read
  exact (Draft.sound_readLines Entries.sound_nil lines).toTree

end Toml

/-! ### Boxed values -/

namespace Config

namespace Tree

theorem unboxEntries?_cases {entries result : Members Tree}
    (unboxed : unboxEntries? entries = some result) :
    Members.names result = Members.names entries ∧
      ∀ entry ∈ result, ∃ value, (entry.1, value) ∈ entries ∧ unbox? value = some entry.2 := by
  induction entries generalizing result with
  | nil =>
    cases unboxed
    exact ⟨rfl, nofun⟩
  | cons entry entries ih =>
    obtain ⟨name, value⟩ := entry
    obtain ⟨inner, here, unboxed⟩ := Option.bind_eq_some_iff.mp unboxed
    obtain ⟨others, more, rfl⟩ := Option.map_eq_some_iff.mp unboxed
    obtain ⟨named, each⟩ := ih more
    refine ⟨congrArg (name :: ·) named, List.forall_mem_cons.mpr ⟨?_, fun entry inside => ?_⟩⟩
    · exact ⟨value, List.mem_cons_self, here⟩
    · obtain ⟨value, there, taken⟩ := each entry inside
      exact ⟨value, List.mem_cons_of_mem _ there, taken⟩

theorem ordered_ofEntries {entries : Members Tree} (ordered : (table entries).Ordered) :
    (ofEntries entries).Ordered := by
  unfold ofEntries
  split
  next value found => exact (ordered_table_iff.mp ordered).2 _ (Members.mem_of_get? found)
  next =>
    obtain ⟨ascending, each⟩ := ordered_table_iff.mp ordered
    refine .table (ascending.sublist (List.filter_sublist.map _)) fun entry inside => ?_
    exact each entry (List.mem_of_mem_filter inside)

theorem ordered_of_unboxEntries? {entries result : Members Tree}
    (ascending : Members.Ascending entries)
    (each : ∀ entry ∈ entries, ∀ value, unbox? entry.2 = some value → value.Ordered)
    (unboxed : unboxEntries? entries = some result) : (table result).Ordered := by
  obtain ⟨named, origins⟩ := unboxEntries?_cases unboxed
  refine .table ?_ fun entry inside => ?_
  · rw [Members.Ascending, named]
    exact ascending
  · obtain ⟨value, there, taken⟩ := origins entry inside
    exact each _ there _ taken

theorem Ordered.unbox? {tree result : Tree} (ordered : tree.Ordered)
    (unboxed : tree.unbox? = some result) : result.Ordered := by
  induction ordered generalizing result with
  | @table entries ascending each ih =>
    rw [Tree.unbox?] at unboxed
    split at unboxed
    · obtain ⟨inner, taken, rfl⟩ := Option.map_eq_some_iff.mp unboxed
      exact ordered_ofEntries
        (ordered_of_unboxEntries? ascending (fun entry inside _ => ih entry inside) taken)
    · cases unboxed
  | @other tree leaf =>
    cases tree with
    | table entries => exact absurd (.table entries) leaf
    | list items =>
      obtain ⟨inner, -, rfl⟩ := Option.map_eq_some_iff.mp unboxed
      exact .other nofun
    | _ =>
      cases unboxed
      exact .other leaf

end Tree

/-! ### Files -/

namespace Layers

theorem ordered_of_readFile {text : String} {tree : Tree} (read : readFile text = .ok tree) :
    tree.Ordered := by
  unfold readFile at read
  split at read
  next entries found =>
    cases read
    obtain ⟨boxed, document, unboxed⟩ := Option.bind_eq_some_iff.mp found
    obtain ⟨ascending, each⟩ := Tree.ordered_table_iff.mp (Toml.ordered_of_read? document)
    exact Tree.ordered_of_unboxEntries? ascending (fun entry inside _ => (each entry inside).unbox?)
      unboxed
  next => cases read

variable {layers : Layers} {tree : Tree}

theorem ordered_projectTree (read : layers.projectTree = .ok tree) : tree.Ordered := by
  unfold projectTree at read
  split at read
  · exact ordered_of_readFile read
  · cases read
    exact Tree.ordered_empty

theorem ordered_requestedTree (read : layers.requestedTree = .ok tree) : tree.Ordered := by
  unfold requestedTree at read
  split at read
  · cases read
    exact Tree.ordered_empty
  · cases read
  · exact ordered_of_readFile read

end Layers

end Config

/-! ### Settings -/

open Config Tree

theorem ServerSettings.ordered_toTree (settings : ServerSettings) : settings.toTree.Ordered := by
  have ascending : ["host", "port"].Pairwise (· < ·) := by decide
  exact .table ascending (by simp)

theorem OracleSettings.ordered_toTree (settings : OracleSettings) : settings.toTree.Ordered := by
  have ascending : ["base_url", "chat_temperature", "command_temperature", "max_attempts", "model",
    "timeout_secs"].Pairwise (· < ·) := by decide
  exact .table ascending (by simp)

theorem PolicySettings.ordered_toTree (settings : PolicySettings) : settings.toTree.Ordered := by
  have ascending :
      ["allowed_actions", "dangerous_actions", "denied_patterns"].Pairwise (· < ·) := by
    decide
  exact .table ascending (by simp [Tree.ofStrings])

theorem HomeAssistantSettings.ordered_toTree (settings : HomeAssistantSettings) :
    settings.toTree.Ordered := by
  have ascending : ["base_url", "token"].Pairwise (· < ·) := by decide
  have token : ((settings.token.map Tree.text).getD .absent).Ordered := by
    cases settings.token <;> simp
  exact .table ascending (by simp [token])

theorem FileReaderSettings.ordered_toTree (settings : FileReaderSettings) :
    settings.toTree.Ordered :=
  ordered_singleton "max_bytes" (ordered_whole _)

theorem PluginSettings.ordered_toTree {settings : PluginSettings}
    (flags : settings.enabled.Ascending) : settings.toTree.Ordered := by
  have ascending : ["enabled", "file_reader", "home_assistant"].Pairwise (· < ·) := by decide
  have enabled : (Tree.table (settings.enabled.mapValues .bool)).Ordered := by
    refine .table ?_ (List.forall_mem_map.mpr fun _ _ => ordered_bool _)
    rw [Members.Ascending, Members.names_mapValues]
    exact flags
  exact .table ascending
    (by simp [enabled, settings.fileReader.ordered_toTree, settings.homeAssistant.ordered_toTree])

theorem Settings.ordered_toTree {settings : Settings} (flags : settings.plugins.enabled.Ascending) :
    settings.toTree.Ordered := by
  have ascending : ["oracle", "plugins", "policy", "server"].Pairwise (· < ·) := by decide
  exact .table ascending (by simp [settings.oracle.ordered_toTree, settings.policy.ordered_toTree,
    settings.server.ordered_toTree, PluginSettings.ordered_toTree flags])

end CommandGate
