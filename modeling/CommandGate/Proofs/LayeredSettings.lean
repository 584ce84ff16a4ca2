import CommandGate.Proofs.OrderedSources
import CommandGate.Proofs.TreeDecoding

/-!
Settings from the layers of a configuration. The environment counts over the requested file, this
over the file of the project, and this over the defaults, setting by setting. A list is that of one
source as a whole, the flags of plugins are taken one by one. Only what the merged tree holds has to
be of the right kind: what is wrong below a value that counts does no harm.
-/

namespace CommandGate

open Config Decoder

/-! ### Parts of settings -/

namespace ServerSettings

theorem partAt_host : decoder.PartAt ["host"] (·.host) text :=
  partAt_record (by simp) (by simp) (by simp)

theorem partAt_port : decoder.PartAt ["port"] (·.port) (natural 16) :=
  partAt_record (by simp) (by simp) (by simp)

end ServerSettings

namespace OracleSettings

theorem partAt_baseUrl : decoder.PartAt ["base_url"] (·.baseUrl) text :=
  partAt_record (by simp) (by simp) (by simp)

theorem partAt_model : decoder.PartAt ["model"] (·.model) text :=
  partAt_record (by simp) (by simp) (by simp)

theorem partAt_timeoutSecs : decoder.PartAt ["timeout_secs"] (·.timeoutSecs) (natural 64) :=
  partAt_record (by simp) (by simp) (by simp)

theorem partAt_maxAttempts :
    decoder.PartAt ["max_attempts"] (·.maxAttempts.toNat) (natural 32) := by
  have sets : (Field.defaulted "max_attempts" (natural 32) fun count (settings : OracleSettings) =>
      { settings with maxAttempts := count.toUInt32 }).Sets (·.maxAttempts.toNat) (natural 32) :=
    Field.sets_defaulted fun tree count read _ =>
      UInt32.toNat_ofNat_of_lt (resolve_natural_eq_ok_iff.mp read).2
  exact partAt_record (by simpa using sets) (by simp) (by simp)

theorem partAt_commandTemperature :
    decoder.PartAt ["command_temperature"] (·.commandTemperature) single :=
  partAt_record (by simp) (by simp) (by simp)

theorem partAt_chatTemperature :
    decoder.PartAt ["chat_temperature"] (·.chatTemperature) single :=
  partAt_record (by simp) (by simp) (by simp)

end OracleSettings

namespace PolicySettings

theorem partAt_allowedActions : decoder.PartAt ["allowed_actions"] (·.allowedActions) (list text) :=
  partAt_record (by simp) (by simp) (by simp)

theorem partAt_deniedPatterns : decoder.PartAt ["denied_patterns"] (·.deniedPatterns) (list text) :=
  partAt_record (by simp) (by simp) (by simp)

theorem partAt_dangerousActions :
    decoder.PartAt ["dangerous_actions"] (·.dangerousActions) (list text) :=
  partAt_record (by simp) (by simp) (by simp)

end PolicySettings

namespace HomeAssistantSettings

theorem partAt_baseUrl : decoder.PartAt ["base_url"] (·.baseUrl) text :=
  partAt_record (by simp) (by simp) (by simp)

theorem partAt_token : decoder.PartAt ["token"] (·.token) (optional text) :=
  partAt_record (by simp) (by simp) (by simp)

end HomeAssistantSettings

theorem FileReaderSettings.partAt_maxBytes :
    decoder.PartAt ["max_bytes"] (·.maxBytes) (natural 64) :=
  partAt_record (by simp) (by simp) (by simp)

namespace PluginSettings

theorem partAt_enabled : decoder.PartAt ["enabled"] (·.enabled) (mapping bool) :=
  partAt_record (by simp) (by simp) (by simp)

theorem partAt_homeAssistant :
    decoder.PartAt ["home_assistant"] (·.homeAssistant) HomeAssistantSettings.decoder :=
  partAt_record (by simp) (by simp) (by simp)

theorem partAt_fileReader :
    decoder.PartAt ["file_reader"] (·.fileReader) FileReaderSettings.decoder :=
  partAt_record (by simp) (by simp) (by simp)

end PluginSettings

namespace Settings

theorem partAt_server : decoder.PartAt ["server"] (·.server) ServerSettings.decoder :=
  partAt_record (by simp) (by simp) (by simp)

theorem partAt_oracle : decoder.PartAt ["oracle"] (·.oracle) OracleSettings.decoder :=
  partAt_record (by simp) (by simp) (by simp)

theorem partAt_policy : decoder.PartAt ["policy"] (·.policy) PolicySettings.decoder :=
  partAt_record (by simp) (by simp) (by simp)

theorem partAt_plugins : decoder.PartAt ["plugins"] (·.plugins) PluginSettings.decoder :=
  partAt_record (by simp) (by simp) (by simp)

/-! ### Kinds of settings -/

def kind : Kind :=
  .record [
    ("server", .record [("host", .text), ("port", .natural 16)]),
    ("oracle", .record [
      ("base_url", .text), ("model", .text), ("timeout_secs", .natural 64),
      ("max_attempts", .natural 32), ("command_temperature", .number),
      ("chat_temperature", .number)]),
    ("policy", .record [
      ("allowed_actions", .list .text), ("denied_patterns", .list .text),
      ("dangerous_actions", .list .text)]),
    ("plugins", .record [
      ("enabled", .mapping .flag),
      ("home_assistant", .record [("base_url", .text), ("token", .optional .text)]),
      ("file_reader", .record [("max_bytes", .natural 64)])])]

end Settings

theorem Settings.takes_kind : Settings.decoder.Takes kind := by
  have server : ServerSettings.decoder.Takes _ := takes_record
    (.cons (Field.takes_defaulted takes_text _) <|
      .cons (Field.takes_defaulted (takes_natural 16) _) .nil) _
  have oracle : OracleSettings.decoder.Takes _ := takes_record
    (.cons (Field.takes_defaulted takes_text _) <|
      .cons (Field.takes_defaulted takes_text _) <|
      .cons (Field.takes_defaulted (takes_natural 64) _) <|
      .cons (Field.takes_defaulted (takes_natural 32) _) <|
      .cons (Field.takes_defaulted takes_single _) <|
      .cons (Field.takes_defaulted takes_single _) .nil) _
  have policy : PolicySettings.decoder.Takes _ := takes_record
    (.cons (Field.takes_defaulted takes_text.list _) <|
      .cons (Field.takes_defaulted takes_text.list _) <|
      .cons (Field.takes_defaulted takes_text.list _) .nil) _
  have homeAssistant : HomeAssistantSettings.decoder.Takes _ := takes_record
    (.cons (Field.takes_defaulted takes_text _) <|
      .cons (Field.takes_defaulted takes_text.optional _) .nil) _
  have fileReader : FileReaderSettings.decoder.Takes _ := takes_record
    (.cons (Field.takes_defaulted (takes_natural 64) _) .nil) _
  have plugins : PluginSettings.decoder.Takes _ := takes_record
    (.cons (Field.takes_defaulted takes_bool.mapping _) <|
      .cons (Field.takes_defaulted homeAssistant _) <|
      .cons (Field.takes_defaulted fileReader _) .nil) _
  exact takes_record
    (.cons (Field.takes_defaulted server _) <|
      .cons (Field.takes_defaulted oracle _) <|
      .cons (Field.takes_defaulted policy _) <|
      .cons (Field.takes_defaulted plugins _) .nil) _

theorem Settings.full_kind : kind.Full := by
  have token : (Kind.optional .text).Full := .leaf Kind.isLeaf_text.optional
  have enabled : (Kind.mapping .flag).Full := .mapping Kind.full_flag
  have homeAssistant : (Kind.record [("base_url", .text), ("token", .optional .text)]).Full :=
    .record nofun (by simp [token])
  have fileReader : (Kind.record [("max_bytes", .natural 64)]).Full := .record nofun (by simp)
  refine .record nofun (List.forall_mem_cons.mpr ⟨.record nofun (by simp), ?_⟩)
  refine List.forall_mem_cons.mpr ⟨.record nofun (by simp), ?_⟩
  refine List.forall_mem_cons.mpr ⟨.record nofun (by simp), ?_⟩
  exact List.forall_mem_singleton.mpr (.record nofun (by simp [enabled, homeAssistant, fileReader]))

/-! ### Parts of what is decoded from a pile -/

/-- The highest source with anything at the end of the path has this there, if none is in the way. -/
def Config.Settles (sources : List Tree) (path : List String) (value : Tree) : Prop :=
  Tree.Clear sources path → Tree.highest? sources path = some value

section

variable {α ρ : Type} {decoder : Decoder ρ} {inner : Decoder α} {path : List String} {part : ρ → α}
  {base : Tree} {uppers : List Tree} {result : ρ}

theorem exists_highest_of_partAt (ordered : ∀ tree ∈ uppers ++ [base], tree.Ordered)
    (read : decoder.resolve (Tree.pile base uppers) = .ok result)
    (partAt : decoder.PartAt path part inner) {kind : Kind} (takes : inner.Takes kind)
    (leaf : kind.IsLeaf) (set : (base.find? path).isSome)
    (clear : Tree.Clear (uppers ++ [base]) path) :
    ∃ value, Tree.highest? (uppers ++ [base]) path = some value ∧
      inner.resolve value = .ok (part result) := by
  have whole := Tree.ordered_pile ordered
  have follows := Tree.follows_find?_pile ordered clear
  obtain ⟨value, said⟩ := Option.isSome_iff_exists.mp
    (Tree.isSome_highest? List.mem_concat_self set)
  refine ⟨value, said, ?_⟩
  by_cases table : value.IsTable
  · obtain ⟨joint, found, joined⟩ := follows.table value said table
    have taken := partAt _ result whole read joint found
    exact absurd joined (leaf joint ((takes joint).mp ⟨_, taken⟩))
  · exact partAt _ result whole read value (follows.value value said table)

theorem settles_of_partAt (ordered : ∀ tree ∈ uppers ++ [base], tree.Ordered)
    (read : decoder.resolve (Tree.pile base uppers) = .ok result)
    (partAt : decoder.PartAt path part inner) {kind : Kind} (takes : inner.Takes kind)
    (leaf : kind.IsLeaf) {shown : α → Tree} (shows : inner.Shows shown)
    (set : (base.find? path).isSome) : Settles (uppers ++ [base]) path (shown (part result)) := by
  intro clear
  obtain ⟨value, said, taken⟩ :=
    exists_highest_of_partAt ordered read partAt takes leaf set clear
  rw [said, shows _ _ taken]

theorem highest?_of_mapping (ordered : ∀ tree ∈ uppers ++ [base], tree.Ordered)
    (read : decoder.resolve (Tree.pile base uppers) = .ok result) {item : Decoder α}
    {part : ρ → Members α} (partAt : decoder.PartAt path part item.mapping) {shown : α → Tree}
    (shows : item.Shows shown) (unnested : ∀ value, ¬(shown value).IsTable)
    (set : (base.find? path).isSome) (name : String)
    (clear : Tree.Clear (uppers ++ [base]) (path ++ [name])) :
    Tree.highest? (uppers ++ [base]) (path ++ [name]) = ((part result).get? name).map shown := by
  have whole := Tree.ordered_pile ordered
  have found : (Tree.pile base uppers).find? (path ++ [name]) =
      ((part result).get? name).map shown := by
    obtain ⟨joint, there⟩ := (Tree.follows_find?_pile ordered clear.of_append).exists_found
      (Tree.isSome_highest? List.mem_concat_self set)
    rw [Tree.find?_append, there, Option.bind_some, Tree.find?_singleton]
    exact shows.get?_mapping (whole.of_find? there) (partAt _ result whole read joint there) name
  have follows := Tree.follows_find?_pile ordered clear
  rw [found] at follows
  cases said : Tree.highest? (uppers ++ [base]) (path ++ [name]) with
  | none => exact (follows.unset said).symm
  | some value =>
    by_cases table : value.IsTable
    · -- a table stays one, but what is found was given for the name
      obtain ⟨joint, given, joined⟩ := follows.table value said table
      obtain ⟨flag, -, rfl⟩ := Option.map_eq_some_iff.mp given
      exact absurd joined (unnested flag)
    · exact (follows.value value said table).symm

end

/-! ### Settings from sources -/

/-- Each setting is what the highest source has for it. A list is that of one source as a whole, the
flag of a plugin is that of the highest source with a flag for this plugin, and temperatures are
taken in single precision. -/
structure Settings.TakenFrom (settings : Settings) (sources : List Tree) : Prop where
  host : Settles sources ["server", "host"] (.text settings.server.host)
  port : Settles sources ["server", "port"] (.whole settings.server.port)
  oracleUrl : Settles sources ["oracle", "base_url"] (.text settings.oracle.baseUrl)
  model : Settles sources ["oracle", "model"] (.text settings.oracle.model)
  timeoutSecs : Settles sources ["oracle", "timeout_secs"] (.whole settings.oracle.timeoutSecs)
  maxAttempts :
    Settles sources ["oracle", "max_attempts"] (.whole settings.oracle.maxAttempts.toNat)
  commandTemperature : Tree.Clear sources ["oracle", "command_temperature"] →
    ∃ value, Tree.highest? sources ["oracle", "command_temperature"] = some value ∧
      IsSingle value settings.oracle.commandTemperature
  chatTemperature : Tree.Clear sources ["oracle", "chat_temperature"] →
    ∃ value, Tree.highest? sources ["oracle", "chat_temperature"] = some value ∧
      IsSingle value settings.oracle.chatTemperature
  allowedActions :
    Settles sources ["policy", "allowed_actions"] (.ofStrings settings.policy.allowedActions)
  deniedPatterns :
    Settles sources ["policy", "denied_patterns"] (.ofStrings settings.policy.deniedPatterns)
  dangerousActions :
    Settles sources ["policy", "dangerous_actions"] (.ofStrings settings.policy.dangerousActions)
  homeAssistantUrl : Settles sources ["plugins", "home_assistant", "base_url"]
    (.text settings.plugins.homeAssistant.baseUrl)
  token : Settles sources ["plugins", "home_assistant", "token"]
    ((settings.plugins.homeAssistant.token.map Tree.text).getD .absent)
  maxBytes : Settles sources ["plugins", "file_reader", "max_bytes"]
    (.whole settings.plugins.fileReader.maxBytes)
  enabled : ∀ plugin, Tree.Clear sources ["plugins", "enabled", plugin] →
    Tree.highest? sources ["plugins", "enabled", plugin] =
      (settings.plugins.enabled.get? plugin).map .bool

namespace Settings

variable {uppers : List Tree} {settings : Settings}

theorem takenFrom_of_resolve
    (ordered : ∀ tree ∈ uppers ++ [({} : Settings).toTree], tree.Ordered)
    (read : decoder.resolve (Tree.pile ({} : Settings).toTree uppers) = .ok settings) :
    settings.TakenFrom (uppers ++ [({} : Settings).toTree]) := by
  have word {path : List String} {part : Settings → String}
      (partAt : decoder.PartAt path part text) :=
    settles_of_partAt ordered read partAt takes_text Kind.isLeaf_text shows_text
  have count {path : List String} {bits : Nat} {part : Settings → Nat}
      (partAt : decoder.PartAt path part (natural bits)) :=
    settles_of_partAt ordered read partAt (takes_natural bits) (Kind.isLeaf_natural bits)
      (shows_natural bits)
  have words {path : List String} {part : Settings → List String}
      (partAt : decoder.PartAt path part (list text)) :=
    settles_of_partAt ordered read partAt takes_text.list (Kind.isLeaf_list .text) shows_text.list
  have temperature {path : List String} {part : Settings → Number.Extended}
      (partAt : decoder.PartAt path part single)
      (set : (({} : Settings).toTree.find? path).isSome)
      (clear : Tree.Clear (uppers ++ [({} : Settings).toTree]) path) :
      ∃ value, Tree.highest? (uppers ++ [({} : Settings).toTree]) path = some value ∧
        IsSingle value (part settings) := by
    obtain ⟨value, said, taken⟩ :=
      exists_highest_of_partAt ordered read partAt takes_single Kind.isLeaf_number set clear
    exact ⟨value, said, resolve_single_eq_ok_iff.mp taken⟩
  have homeAssistant := PluginSettings.partAt_homeAssistant
  have fileReader := PluginSettings.partAt_fileReader
  exact {
    host := word (partAt_server.under ServerSettings.partAt_host) rfl
    port := count (partAt_server.under ServerSettings.partAt_port) rfl
    oracleUrl := word (partAt_oracle.under OracleSettings.partAt_baseUrl) rfl
    model := word (partAt_oracle.under OracleSettings.partAt_model) rfl
    timeoutSecs := count (partAt_oracle.under OracleSettings.partAt_timeoutSecs) rfl
    maxAttempts := count (partAt_oracle.under OracleSettings.partAt_maxAttempts) rfl
    commandTemperature :=
      temperature (partAt_oracle.under OracleSettings.partAt_commandTemperature) rfl
    chatTemperature :=
      temperature (partAt_oracle.under OracleSettings.partAt_chatTemperature) rfl
    allowedActions := words (partAt_policy.under PolicySettings.partAt_allowedActions) rfl
    deniedPatterns := words (partAt_policy.under PolicySettings.partAt_deniedPatterns) rfl
    dangerousActions := words (partAt_policy.under PolicySettings.partAt_dangerousActions) rfl
    homeAssistantUrl :=
      word (partAt_plugins.under (homeAssistant.under HomeAssistantSettings.partAt_baseUrl)) rfl
    token := settles_of_partAt ordered read
      (partAt_plugins.under (homeAssistant.under HomeAssistantSettings.partAt_token))
      takes_text.optional Kind.isLeaf_text.optional shows_text.optional rfl
    maxBytes := count (partAt_plugins.under (fileReader.under FileReaderSettings.partAt_maxBytes)) rfl
    enabled := highest?_of_mapping ordered read (partAt_plugins.under PluginSettings.partAt_enabled)
      shows_bool nofun rfl }

end Settings

namespace Config.Layers

variable {layers : Layers} {project requested : Tree}

def sources (layers : Layers) (project requested : Tree) : List Tree :=
  [layers.environment.toTree, requested, project, ({} : Settings).toTree]

theorem ordered_sources (readProject : layers.projectTree = .ok project)
    (readRequested : layers.requestedTree = .ok requested) :
    ∀ tree ∈ layers.sources project requested, tree.Ordered := by
  have defaults : ({} : Settings).toTree.Ordered := Settings.ordered_toTree List.Pairwise.nil
  simp [sources, layers.environment.ordered_toTree, ordered_requestedTree readRequested,
    ordered_projectTree readProject, defaults]

theorem merged_eq_pile (readProject : layers.projectTree = .ok project)
    (readRequested : layers.requestedTree = .ok requested) :
    layers.merged =
      .ok (Tree.pile ({} : Settings).toTree [layers.environment.toTree, requested, project]) := by
  rw [merged, readProject, readRequested]
  rfl

theorem load_eq_ok_iff {merged : Tree} {settings : Settings}
    (reached : layers.merged = .ok merged) :
    layers.load = .ok settings ↔ Settings.decoder.resolve merged = .ok settings := by
  simp only [load, reached]
  cases Settings.decoder.resolve merged <;> simp

theorem loads_iff {merged : Tree} (reached : layers.merged = .ok merged) :
    (∃ settings, layers.load = .ok settings) ↔ Settings.kind.Fits merged := by
  simp only [load_eq_ok_iff reached]
  exact Settings.takes_kind merged

/-- Where the files that are there can be read, all sources come into one tree that has at each
place what the highest source with anything there has, the environment over the requested file over
the file of the project over the defaults. Loading succeeds exactly if this tree is of the kind of
the settings, whatever is wrong below the values that count, and then each setting is taken from its
highest source. -/
theorem settings_are_taken_from_the_highest_source (layers : Layers) {project requested : Tree}
    (readProject : layers.projectTree = .ok project)
    (readRequested : layers.requestedTree = .ok requested) :
    ∃ merged, layers.merged = .ok merged ∧
      (∀ path, Tree.Clear (layers.sources project requested) path →
        Tree.Follows (merged.find? path) (Tree.highest? (layers.sources project requested) path)) ∧
      ((∃ settings, layers.load = .ok settings) ↔ Settings.kind.Fits merged) ∧
      ((∀ path leaf, Settings.kind.Asks path leaf →
          Tree.Clear (layers.sources project requested) path) →
        ((∃ settings, layers.load = .ok settings) ↔ ∀ path leaf, Settings.kind.Asks path leaf →
          ∀ value, Tree.highest? (layers.sources project requested) path = some value →
            leaf.Fits value)) ∧
      ∀ settings, layers.load = .ok settings →
        settings.TakenFrom (layers.sources project requested) := by
  have ordered := ordered_sources readProject readRequested
  have reached := merged_eq_pile readProject readRequested
  refine ⟨_, reached, fun path clear => Tree.follows_find?_pile ordered clear, loads_iff reached,
    fun clear => ?_, fun settings read => ?_⟩
  · exact (loads_iff reached).trans (Kind.fits_pile_iff Settings.full_kind ordered clear)
  · exact Settings.takenFrom_of_resolve ordered ((load_eq_ok_iff reached).mp read)

def overridden : Layers where
  project := some "server.port = \"none\"\npolicy.allowed_actions = [\"ring\"]"
  requested := .present "policy.allowed_actions = []\nplugins.enabled.mail = false"
  environment := [("OLLIE_SERVER__PORT", "7000"), ("OLLIE_PLUGINS__ENABLED__POWER", "true")]

theorem overridden_is_loaded :
    ∃ project requested settings, overridden.projectTree = .ok project ∧
      overridden.requestedTree = .ok requested ∧ overridden.load = .ok settings ∧
      Tree.Clear (overridden.sources project requested) ["server", "port"] ∧
      settings.TakenFrom (overridden.sources project requested) ∧
      settings.server.port = 7000 ∧ settings.policy.allowedActions = [] ∧
      settings.plugins.enabled = [("mail", false), ("power", true)] := by
  have evaluated : (overridden.projectTree.bind fun project =>
      overridden.requestedTree.map fun requested => decide
        (Tree.Clear (overridden.sources project requested) ["server", "port"] ∧
          (Settings.decoder.resolve (Tree.pile ({} : Settings).toTree
            [overridden.environment.toTree, requested, project])).map (fun settings =>
              (settings.server.port, settings.policy.allowedActions, settings.plugins.enabled)) =
            .ok (7000, [], [("mail", false), ("power", true)]))) = .ok true := by
    decide +kernel
  obtain ⟨project, readProject, evaluated⟩ := Command.bind_eq_ok_iff.mp evaluated
  obtain ⟨requested, readRequested, evaluated⟩ := Command.map_eq_ok_iff.mp evaluated
  obtain ⟨clear, loaded⟩ := of_decide_eq_true evaluated
  obtain ⟨settings, resolved, values⟩ := Command.map_eq_ok_iff.mp loaded
  obtain ⟨port, actions, enabled⟩ : _ ∧ _ ∧ _ := by simpa only [Prod.mk.injEq] using values
  have read := (load_eq_ok_iff (merged_eq_pile readProject readRequested)).mpr resolved
  obtain ⟨merged, -, -, -, -, taken⟩ :=
    settings_are_taken_from_the_highest_source overridden readProject readRequested
  exact ⟨project, requested, settings, readProject, readRequested, read, clear,
    taken settings read, port, actions, enabled⟩

end Config.Layers

end CommandGate
