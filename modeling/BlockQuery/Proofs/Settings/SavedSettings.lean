import BlockQuery.Proofs.Files.WrittenFile
import BlockQuery.Proofs.Settings.DocumentTypes
import BlockQuery.Proofs.Toml.DocumentReading
import BlockQuery.Settings.Load

/-!
# Saved settings

Settings that have been saved are loaded again as they were.  The writer leaves out a
name or a token that is missing, the default address and a graph section without
entries; in each case this is what the reader takes for granted.  Settings whose numbers
have too many digits are not saved, so the numbers of saved ones can be read, and texts
are escaped, so that all else comes back as well.
-/

namespace BlockQuery.Settings

open Files

/-! ## The document of settings -/

theorem optionalTextValue_inj {text other : Option String}
    (same : optionalTextValue text = optionalTextValue other) : text = other := by
  cases text with
  | none =>
      cases other with
      | none => rfl
      | some other => cases same
  | some text =>
      cases other with
      | none => cases same
      | some other =>
          cases same
          rfl

theorem map_string_or_default (text : Option String) :
    text.map Toml.Value.string = some (optionalTextValue text) ∨
      text.map Toml.Value.string = none ∧ optionalTextValue text = optionalTextValue none := by
  cases text with
  | none => exact .inr ⟨rfl, rfl⟩
  | some text => exact .inl rfl

/-- Settings are known by the values of their keys. -/
theorem Key.eq_of_valueIn {settings other : Settings}
    (same : ∀ key : Key, key.valueIn settings = key.valueIn other) : settings = other := by
  cases settings
  cases other
  rw [Settings.mk.injEq]
  exact ⟨optionalTextValue_inj (same .graphName), optionalTextValue_inj (same .token),
    Toml.Value.string.inj (same .baseUrl), Toml.Value.integer.inj (same .defaultLimit),
    Toml.Value.integer.inj (same .refsDepth), Toml.Value.string.inj (same .order),
    Toml.Value.boolean.inj (same .colored)⟩

theorem accepts_optionalTextValue (text : Option String) :
    ValueKind.optionalText.accepts (optionalTextValue text) := by
  cases text with
  | none => rfl
  | some text => rfl

theorem Key.accepts_valueIn (settings : Settings) (key : Key) :
    key.kind.accepts (key.valueIn settings) := by
  cases key with
  | graphName | token => exact accepts_optionalTextValue _
  | baseUrl | defaultLimit | refsDepth | order | colored => rfl

/-- A document is read as settings if it has their values, apart from defaults that may be
missing. -/
theorem ofDocument_of_valueAt? {document : Toml.Fields} {settings : Settings}
    (readable : ∀ key, ¬ Misread document key)
    (valued : ∀ key, valueAt? document key = some (key.valueIn settings) ∨
      valueAt? document key = none ∧ key.valueIn settings = key.valueIn {}) :
    ofDocument document = .ok settings := by
  have fine : ∀ key ∈ Key.all, IsFine document key := by
    intro key _
    refine ⟨readable key, ?_⟩
    rintro ⟨value, found, refuses⟩
    rcases valued key with here | ⟨missing, -⟩
    · rw [here] at found
      cases found
      rw [key.accepts_valueIn settings] at refuses
      cases refuses
    · rw [missing] at found
      cases found
  obtain ⟨after, read, values, -⟩ := foldlM_read_ok Key.nodup_all fine {}
  have same : after = settings := by
    apply Key.eq_of_valueIn
    intro key
    rw [values key key.mem_all]
    rcases valued key with here | ⟨missing, default⟩
    · rw [here, Option.getD_some]
    · rw [missing, Option.getD_none, default]
  rw [ofDocument_eq_foldlM, read, same]

/-- The fields of the graph section. -/
def graphFields (settings : Settings) : Toml.Fields :=
  settings.graphEntries.map fun entry => (entry.1, entry.2.value)

theorem sectionOf_graph (settings : Settings) :
    sectionOf (Toml.sectionFields settings.sections) "graph" = .table settings.graphFields := by
  unfold sections graphFields
  by_cases empty : settings.graphEntries = []
  · simp [empty, sectionOf, Toml.sectionFields, List.lookup_cons]
  · simp [empty, sectionOf, Toml.sectionFields, List.lookup_cons, Toml.Section.fields]

theorem lookup_graphFields (settings : Settings) :
    settings.graphFields.lookup "name" = settings.graphName.map .string ∧
      settings.graphFields.lookup "token" = settings.token.map .string ∧
      settings.graphFields.lookup "base_url" =
        if settings.baseUrl = Graph.Client.defaultBaseUrl then none
        else some (.string settings.baseUrl) := by
  unfold graphFields graphEntries
  cases settings.graphName <;> cases settings.token <;>
    by_cases standard : settings.baseUrl = Graph.Client.defaultBaseUrl <;>
    simp [standard, List.lookup_cons, Toml.Scalar.value]

theorem valueAt?_graph (settings : Settings) {key : Key} (inGraph : key.sectionName = "graph") :
    valueAt? (Toml.sectionFields settings.sections) key = settings.graphFields.lookup key.name := by
  rw [valueAt?, inGraph, sectionOf_graph]
  rfl

/-- A key is left out only if its value is the default. -/
theorem valueAt?_sections (settings : Settings) (key : Key) :
    valueAt? (Toml.sectionFields settings.sections) key = some (key.valueIn settings) ∨
      valueAt? (Toml.sectionFields settings.sections) key = none ∧
        key.valueIn settings = key.valueIn {} := by
  obtain ⟨graphName, token, baseUrl⟩ := lookup_graphFields settings
  cases key with
  | graphName =>
      rw [valueAt?_graph settings rfl, Key.name, graphName]
      exact map_string_or_default settings.graphName
  | token =>
      rw [valueAt?_graph settings rfl, Key.name, token]
      exact map_string_or_default settings.token
  | baseUrl =>
      rw [valueAt?_graph settings rfl, Key.name, baseUrl, Key.valueIn]
      by_cases standard : settings.baseUrl = Graph.Client.defaultBaseUrl
      · rw [if_pos standard, standard]
        exact .inr ⟨rfl, rfl⟩
      · rw [if_neg standard]
        exact .inl rfl
  | defaultLimit | refsDepth | order | colored => exact .inl rfl

theorem not_misread_sections (settings : Settings) (key : Key) :
    ¬ Misread (Toml.sectionFields settings.sections) key := by
  cases key with
  | graphName | token | baseUrl =>
      rw [Misread, Key.sectionName, sectionOf_graph]
      exact id
  | defaultLimit | refsDepth | order | colored => exact id

/-- The document of settings is read as the settings. -/
theorem ofDocument_sections (settings : Settings) :
    ofDocument (Toml.sectionFields settings.sections) = .ok settings :=
  ofDocument_of_valueAt? (not_misread_sections settings) (valueAt?_sections settings)

/-! ## The text of settings -/

theorem graphKeys_sublist (settings : Settings) :
    (settings.graphEntries.map Prod.fst).Sublist ["name", "token", "base_url"] := by
  unfold graphEntries
  cases settings.graphName <;> cases settings.token <;>
    by_cases standard : settings.baseUrl = Graph.Client.defaultBaseUrl <;>
    simp [standard]

theorem isWritable_query {settings : Settings} (writable : settings.isWritable) :
    Toml.Section.IsWritable ⟨"query", [("default_limit", .integer settings.defaultLimit),
      ("refs_depth", .integer settings.refsDepth), ("order_by", .string settings.order)]⟩ where
  bareName := show Toml.IsBare "query" by decide
  bareKeys := show ∀ key ∈ ["default_limit", "refs_depth", "order_by"], Toml.IsBare key by decide
  distinct := show ["default_limit", "refs_depth", "order_by"].Nodup by decide
  writable := by
    obtain ⟨limit, depth⟩ := Bool.and_eq_true_iff.mp writable
    rw [List.forall_mem_cons, List.forall_mem_cons, List.forall_mem_singleton]
    exact ⟨limit, depth, rfl⟩

theorem isWritable_display (settings : Settings) :
    Toml.Section.IsWritable ⟨"display", [("colored_output", .boolean settings.colored)]⟩ where
  bareName := show Toml.IsBare "display" by decide
  bareKeys := show ∀ key ∈ ["colored_output"], Toml.IsBare key by decide
  distinct := show ["colored_output"].Nodup by decide
  writable := List.forall_mem_singleton.mpr rfl

theorem isWritable_graph (settings : Settings) :
    Toml.Section.IsWritable ⟨"graph", settings.graphEntries⟩ where
  bareName := show Toml.IsBare "graph" by decide
  bareKeys := by
    have bare : ∀ key ∈ ["name", "token", "base_url"], Toml.IsBare key := by decide
    exact fun key listed => bare key ((graphKeys_sublist settings).subset listed)
  distinct := (graphKeys_sublist settings).nodup (by decide)
  writable := by
    unfold graphEntries
    rw [List.forall_mem_append, List.forall_mem_append]
    refine ⟨⟨List.forall_mem_map.mpr fun _ _ => rfl, List.forall_mem_map.mpr fun _ _ => rfl⟩, ?_⟩
    split
    · exact List.forall_mem_nil _
    · exact List.forall_mem_singleton.mpr rfl

theorem isWritable_sections {settings : Settings} (writable : settings.isWritable) :
    ∀ sec ∈ settings.sections, sec.IsWritable := by
  unfold sections
  rw [List.forall_mem_append, List.forall_mem_cons, List.forall_mem_singleton]
  refine ⟨⟨isWritable_query writable, isWritable_display settings⟩, ?_⟩
  split
  · exact List.forall_mem_nil _
  · exact List.forall_mem_singleton.mpr (isWritable_graph settings)

theorem nodup_sections (settings : Settings) :
    (settings.sections.map Toml.Section.name).Nodup := by
  unfold sections
  split
  · exact show ["query", "display"].Nodup by decide
  · exact show ["query", "display", "graph"].Nodup by decide

theorem read_write {settings : Settings} (writable : settings.isWritable) :
    Toml.read settings.write = .ok (Toml.sectionFields settings.sections) :=
  Toml.read_writeSections (isWritable_sections writable) (nodup_sections settings)

/-! ## Loading -/

/-- An environment that says nothing about the settings: the variables that would are missing or
empty. -/
def IsSilent (environment : String → Option String) : Prop :=
  ∀ name ∈ [graphVariable, tokenVariable], (environment name).filter (· != "") = none

theorem withEnvironment_of_isSilent {environment : String → Option String}
    (silent : IsSilent environment) (settings : Settings) :
    settings.withEnvironment environment = settings := by
  have graph := silent graphVariable (by decide)
  have token := silent tokenVariable (by decide)
  rw [withEnvironment, graph, token, Option.none_or, Option.none_or]

/-- Written settings are checked like any others. -/
theorem ofText_write {settings : Settings} (writable : settings.isWritable)
    {around : Surroundings} (silent : IsSilent around.environment) (path : Path) :
    ofText around path settings.write =
      (settings.validate.mapError .settings).map fun warnings =>
        ⟨settings, some path, warnings⟩ := by
  have document : documentOf path settings.write =
      .ok (Toml.sectionFields settings.sections) := by
    rw [documentOf, read_write writable]
  have read : (ofDocument (Toml.sectionFields settings.sections)).mapError LoadError.settings =
      .ok settings :=
    mapError_eq_ok_iff.mpr (ofDocument_sections settings)
  rw [ofText, document, ok_bind, read, ok_bind]
  dsimp only
  rw [withEnvironment_of_isSilent silent]
  rfl

theorem run_settingsPath {ε : Type} (wrap : Path.PathError → ε) {around : Surroundings}
    {written : Option String} {path : Path} (leads : settingsPath around written = .ok path)
    (tree : FileTree) :
    (ExceptT.mk (pure ((settingsPath around written).mapError wrap)) :
      ExceptT ε (StateM FileTree) Path).run.run tree = (.ok path, tree) := by
  rw [leads]
  rfl

/-- A file that is found is read. -/
theorem run_load_of_find (reader : String) {around : Surroundings} {named : Option String}
    {tree : FileTree} {path : Path} {mode : Nat} {content : String}
    (leads : settingsPath around named = .ok path)
    (there : tree.find path = .ok (some (.file mode content))) :
    (load (FileTree.system reader) around named).run.run tree =
      (ofText around path content, tree) := by
  have looked : (((FileTree.system reader).kind? path).adapt LoadError.file).run.run tree =
      (.ok (some .file), tree) := by
    have kind : ((FileTree.system reader).kind? path).run.run tree = (tree.kind? path, tree) := rfl
    rw [run_run_adapt, kind, FileTree.kind?, there]
    rfl
  have read : (((FileTree.system reader).read path).adapt LoadError.file).run.run tree =
      (.ok content, tree) := by
    have text : ((FileTree.system reader).read path).run.run tree = (tree.read path, tree) := rfl
    rw [run_run_adapt, text, FileTree.read, there]
    rfl
  rw [load, run_bind_of_ok (run_settingsPath LoadError.path leads tree), run_bind_of_ok looked]
  dsimp only
  rw [run_bind_of_ok read]
  rfl

theorem isWritable_iff {settings : Settings} :
    settings.isWritable ↔
      Text.FewDigits settings.defaultLimit ∧ Text.FewDigits settings.refsDepth := by
  rw [isWritable, Bool.and_eq_true_iff, Text.isWritable_iff, Text.isWritable_iff]

/-- What saving comes to at a path: the file is written, unless a number has too many digits. -/
theorem run_save {tag : String} {around : Surroundings} {settings : Settings}
    {written : Option String} {tree : FileTree} {path : Path}
    (leads : settingsPath around written = .ok path) :
    (save (FileTree.system tag) around settings written).run.run tree =
      if settings.isWritable then
        ((writePrivate (FileTree.system tag) path settings.write).adapt SaveError.file).run.run tree
      else (.error .unwritable, tree) := by
  rw [save, run_bind_of_ok (run_settingsPath SaveError.path leads tree)]
  split <;> rfl

/-- Settings are saved if their numbers have few enough digits and their path can be written to,
and in no other case. -/
theorem save_eq_ok_iff {tag : String} {around : Surroundings} {settings : Settings}
    {written : Option String} {tree later : FileTree} :
    (save (FileTree.system tag) around settings written).run.run tree = (.ok (), later) ↔
      Text.FewDigits settings.defaultLimit ∧ Text.FewDigits settings.refsDepth ∧
      ∃ path, settingsPath around written = .ok path ∧
        (writePrivate (FileTree.system tag) path settings.write).run.run tree =
          (.ok (), later) := by
  rw [← and_assoc, ← isWritable_iff]
  constructor
  · intro saved
    obtain ⟨path, start, leads, -⟩ := exists_of_run_bind saved
    have leads : settingsPath around written = .ok path :=
      mapError_eq_ok_iff.mp (congrArg Prod.fst leads)
    rw [run_save leads] at saved
    split at saved
    case isTrue writable =>
      rw [run_run_adapt, Prod.mk.injEq, mapError_eq_ok_iff] at saved
      exact ⟨writable, path, leads, Prod.ext saved.1 saved.2⟩
    case isFalse => cases saved
  · rintro ⟨writable, path, leads, wrote⟩
    rw [run_save leads, if_pos writable, run_run_adapt, wrote]
    rfl

/-- Settings that have been saved are loaded again as they were, from the path they were saved to
and with their own warnings.  If they are refused, then with their own error. -/
theorem load_saved_settings {tag reader : String} {saving loading : Surroundings}
    {settings : Settings} {written named : Option String} {tree later : FileTree}
    (saved : (save (FileTree.system tag) saving settings written).run.run tree =
      (.ok (), later))
    (same : settingsPath loading named = settingsPath saving written)
    (silent : IsSilent loading.environment) :
    ∃ path, settingsPath saving written = .ok path ∧
      (∀ warnings, settings.validate = .ok warnings →
        (load (FileTree.system reader) loading named).run.run later =
          (.ok ⟨settings, some path, warnings⟩, later)) ∧
      ∀ error, settings.validate = .error error →
        (load (FileTree.system reader) loading named).run.run later =
          (.error (.settings error), later) := by
  obtain ⟨fewLimit, fewDepth, path, leads, wrote⟩ := save_eq_ok_iff.mp saved
  have writable := isWritable_iff.mpr ⟨fewLimit, fewDepth⟩
  have there := FileTree.find_of_writePrivate wrote
  have loaded := run_load_of_find reader (same.trans leads) there
  rw [ofText_write writable silent] at loaded
  refine ⟨path, leads, ?_, ?_⟩
  · intro warnings valid
    rw [loaded, valid]
    rfl
  · intro error refused
    rw [loaded, refused]
    rfl

/-- Settings with texts that have to be escaped, or are empty, and a graph without a token. -/
def quotedSettings : Settings where
  graphName := some "my \"notes\" \\\r\n\t\x7f"
  token := some ""
  baseUrl := "https://[::1]/é"
  defaultLimit := -1
  refsDepth := 0
  order := ""
  colored := false

/-- Surroundings in which a variable is set, but to nothing. -/
def bareSurroundings : Surroundings where
  working := .root
  home := ⟨["me", "home"]⟩
  environment name := if name = tokenVariable then some "" else none

theorem load_saved_settings_quoted :
    ∃ warnings later, quotedSettings.validate = .ok warnings ∧ warnings.length = 1 ∧
      (save (FileTree.system "") bareSurroundings quotedSettings none).run.run [] =
        (.ok (), later) ∧
      (load (FileTree.system "") bareSurroundings none).run.run later =
        (.ok ⟨quotedSettings, some (defaultPath ⟨["me", "home"]⟩), warnings⟩, later) := by
  have saved : ((save (FileTree.system "") bareSurroundings quotedSettings none).run.run []).1 =
      .ok () := by
    decide +kernel
  have silent : IsSilent bareSurroundings.environment := by
    unfold IsSilent
    decide
  have checked : quotedSettings.validate.toOption.map List.length = some 1 := by
    decide +kernel
  obtain ⟨warnings, valid, count⟩ := Option.map_eq_some_iff.mp checked
  rw [toOption_eq_some_iff] at valid
  rcases run : (save (FileTree.system "") bareSurroundings quotedSettings none).run.run []
    with ⟨result, later⟩
  rw [run] at saved
  obtain rfl : result = .ok () := saved
  obtain ⟨path, leads, loaded, -⟩ := load_saved_settings run rfl silent
  cases leads
  exact ⟨warnings, later, valid, count, rfl, loaded warnings valid⟩

end BlockQuery.Settings
