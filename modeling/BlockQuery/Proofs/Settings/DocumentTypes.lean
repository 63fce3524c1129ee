import BlockQuery.Proofs.Outcome
import BlockQuery.Settings
import Mathlib.Data.List.Basic

/-!
# Types in settings documents

Settings are read from a document key by key.  A key that a section has is of the
right type or it is reported, and the first such key is the one that is reported; a
key that is not there leaves its default.

What should be a section may be any other value.  Most texts and lists have no key of
the settings in them, and they count as empty sections.  A text or a list that does
have one, and every number, truth value or time, stops the reader with an error that
names no key.  So a document is reported as it should be exactly if no key is looked
for in such a value before a key of the wrong type has been found.
-/

namespace BlockQuery.Settings

/-! ## Keys -/

/-- The types of values that settings have in a document. -/
inductive ValueKind
  | optionalText
  | text
  | integer
  | boolean
deriving DecidableEq, Repr

namespace ValueKind

/-- Whether a value is of the type. -/
def accepts : ValueKind → Toml.Value → Bool
  | optionalText, .absent => true
  | optionalText, .string _ => true
  | text, .string _ => true
  | integer, .integer _ => true
  | boolean, .boolean _ => true
  | _, _ => false

/-- What is said about a value of another type. -/
def reason : ValueKind → String
  | optionalText => "must be a string or null"
  | text => "must be a string"
  | integer => "must be an integer"
  | boolean => "must be a boolean"

end ValueKind

/-- The keys of a settings document. -/
inductive Key
  | graphName
  | token
  | baseUrl
  | defaultLimit
  | refsDepth
  | order
  | colored
deriving DecidableEq, Repr

namespace Key

/-- The keys in the order in which they are read. -/
def all : List Key :=
  [graphName, token, baseUrl, defaultLimit, refsDepth, order, colored]

/-- The section of a key. -/
def sectionName : Key → String
  | graphName | token | baseUrl => "graph"
  | defaultLimit | refsDepth | order => "query"
  | colored => "display"

/-- A key inside of its section. -/
def name : Key → String
  | graphName => "name"
  | token => "token"
  | baseUrl => "base_url"
  | defaultLimit => "default_limit"
  | refsDepth => "refs_depth"
  | order => "order_by"
  | colored => "colored_output"

/-- A key with its section, as messages have it. -/
def fullName : Key → String
  | graphName => "graph.name"
  | token => "graph.token"
  | baseUrl => "graph.base_url"
  | defaultLimit => "query.default_limit"
  | refsDepth => "query.refs_depth"
  | order => "query.order_by"
  | colored => "display.colored_output"

/-- The type of a key's value. -/
def kind : Key → ValueKind
  | graphName | token => .optionalText
  | baseUrl | order => .text
  | defaultLimit | refsDepth => .integer
  | colored => .boolean

end Key

/-- A text that may be missing, as a value. -/
def optionalTextValue : Option String → Toml.Value
  | none => .absent
  | some text => .string text

/-- What settings say for a key, as a value. -/
def Key.valueIn (settings : Settings) : Key → Toml.Value
  | graphName => optionalTextValue settings.graphName
  | token => optionalTextValue settings.token
  | baseUrl => .string settings.baseUrl
  | defaultLimit => .integer settings.defaultLimit
  | refsDepth => .integer settings.refsDepth
  | order => .string settings.order
  | colored => .boolean settings.colored

theorem Key.mem_all (key : Key) : key ∈ Key.all := by
  cases key <;> decide

theorem Key.nodup_all : Key.all.Nodup := by
  decide

theorem Key.fullKey_eq (key : Key) : fullKey key.sectionName key.name = key.fullName := by
  cases key <;> decide

/-! ## Documents -/

/-- The value of a name in a table; no other value has any. -/
def fieldOf? : Toml.Value → String → Option Toml.Value
  | .table fields, name => fields.lookup name
  | _, _ => none

/-- Looking for the name in the value finds something that cannot be read: the value is no table,
but a text with the name in it, a list with the name as an item, or neither text nor list. -/
def Trips : Toml.Value → String → Prop
  | .table _, _ => False
  | .string text, name => name.toList <:+: text.toList
  | .array items, name => .string name ∈ items
  | _, _ => True

/-- The document's value for a key. -/
def valueAt? (document : Toml.Fields) (key : Key) : Option Toml.Value :=
  fieldOf? (sectionOf document key.sectionName) key.name

/-- The document has a value of the wrong type for the key. -/
def IllTyped (document : Toml.Fields) (key : Key) : Prop :=
  ∃ value, valueAt? document key = some value ∧ key.kind.accepts value = false

/-- The key is looked for in something that is no section, and taken to be there. -/
def Misread (document : Toml.Fields) (key : Key) : Prop :=
  Trips (sectionOf document key.sectionName) key.name

theorem lookup?_of_trips {sec : Toml.Value} {name : String} (trips : Trips sec name) :
    lookup? sec name = .error .notSection := by
  cases sec with
  | table fields => exact trips.elim
  | string text =>
      rw [lookup?]
      exact if_pos (Text.contains_iff.mpr trips)
  | array items =>
      rw [lookup?]
      exact if_pos (List.any_eq_true.mpr ⟨_, trips, beq_self_eq_true name⟩)
  | absent | boolean | integer | float | moment => rfl

theorem lookup?_of_not_trips {sec : Toml.Value} {name : String} (fine : ¬ Trips sec name) :
    lookup? sec name = .ok (fieldOf? sec name) := by
  cases sec with
  | table fields => rfl
  | string text =>
      rw [lookup?]
      exact if_neg fun found => fine (Text.contains_iff.mp found)
  | array items =>
      rw [lookup?]
      apply if_neg
      intro found
      obtain ⟨item, listed, same⟩ := List.any_eq_true.mp found
      cases item with
      | string text =>
          rw [beq_iff_eq.mp same] at listed
          exact fine listed
      | absent | boolean | integer | float | moment | array | table => cases same
  | absent | boolean | integer | float | moment => exact absurd trivial fine

/-! ## Reading one key -/

/-- Decoding takes exactly the values of a type, and what it gives stands for the value. -/
structure Decodes {α : Type} (kind : ValueKind) (decode : Toml.Value → Except String α)
    (encode : α → Toml.Value) : Prop where
  accepted : ∀ value, kind.accepts value → ∃ decoded, decode value = .ok decoded ∧
    encode decoded = value
  refused : ∀ value, kind.accepts value = false → decode value = .error kind.reason

theorem decodes_optionalText : Decodes .optionalText decodeOptionalText optionalTextValue where
  accepted value accepts := by
    cases value with
    | absent => exact ⟨none, rfl, rfl⟩
    | string text => exact ⟨some text, rfl, rfl⟩
    | boolean | integer | float | moment | array | table => cases accepts
  refused value refuses := by
    cases value with
    | absent | string => cases refuses
    | boolean | integer | float | moment | array | table => rfl

theorem decodes_text : Decodes .text decodeText .string where
  accepted value accepts := by
    cases value with
    | string text => exact ⟨text, rfl, rfl⟩
    | absent | boolean | integer | float | moment | array | table => cases accepts
  refused value refuses := by
    cases value with
    | string => cases refuses
    | absent | boolean | integer | float | moment | array | table => rfl

theorem decodes_integer : Decodes .integer decodeInteger .integer where
  accepted value accepts := by
    cases value with
    | integer number => exact ⟨number, rfl, rfl⟩
    | absent | boolean | string | float | moment | array | table => cases accepts
  refused value refuses := by
    cases value with
    | integer => cases refuses
    | absent | boolean | string | float | moment | array | table => rfl

theorem decodes_boolean : Decodes .boolean decodeBoolean .boolean where
  accepted value accepts := by
    cases value with
    | boolean truth => exact ⟨truth, rfl, rfl⟩
    | absent | integer | string | float | moment | array | table => cases accepts
  refused value refuses := by
    cases value with
    | boolean => cases refuses
    | absent | integer | string | float | moment | array | table => rfl

section

variable {document : Toml.Fields} {settings : Settings}

/-- What reading a key comes to: an error if its section is none, or its value is of the wrong
type; otherwise the key has its value, if there is one, and no other key is changed. -/
structure Key.Reads (document : Toml.Fields) (settings : Settings) (key : Key)
    (result : Except SettingsError Settings) : Prop where
  misread : Misread document key → result = .error .notSection
  illTyped : IllTyped document key → result = .error (.invalid key.fullName key.kind.reason)
  fine : ¬ Misread document key → ¬ IllTyped document key → ∃ after, result = .ok after ∧
    key.valueIn after = (valueAt? document key).getD (key.valueIn settings) ∧
    ∀ other : Key, other ≠ key → other.valueIn after = other.valueIn settings

theorem IllTyped.not_misread {key : Key} (illTyped : IllTyped document key) :
    ¬ Misread document key := by
  obtain ⟨value, found, -⟩ := illTyped
  intro misread
  unfold valueAt? at found
  unfold Misread at misread
  cases sec : sectionOf document key.sectionName with
  | table fields =>
      rw [sec] at misread
      exact misread
  | absent | boolean | integer | float | moment | string | array =>
      rw [sec] at found
      cases found

/-- A key is read if its value can be decoded and the change is made to this key only. -/
theorem Key.reads_readKey {α : Type} {decode : Toml.Value → Except String α}
    {encode : α → Toml.Value} {change : α → Settings → Settings} (key : Key)
    (decodes : Decodes key.kind decode encode)
    (changes : ∀ decoded, key.valueIn (change decoded settings) = encode decoded)
    (frame : ∀ decoded (other : Key), other ≠ key →
      other.valueIn (change decoded settings) = other.valueIn settings) :
    key.Reads document settings
      (readKey document key.sectionName key.name decode change settings) where
  misread misread := by
    rw [readKey, lookup?_of_trips misread]
    rfl
  illTyped illTyped := by
    have entry := lookup?_of_not_trips illTyped.not_misread
    obtain ⟨value, found, refuses⟩ := illTyped
    rw [← valueAt?, found] at entry
    rw [readKey, entry, key.fullKey_eq, ok_bind]
    dsimp only
    rw [decodes.refused value refuses]
  fine notMisread typed := by
    have entry := lookup?_of_not_trips notMisread
    rw [← valueAt?] at entry
    rw [readKey, entry, ok_bind]
    cases found : valueAt? document key with
    | none => exact ⟨settings, rfl, rfl, fun _ _ => rfl⟩
    | some value =>
        have accepts : key.kind.accepts value := by
          rw [← Bool.not_eq_false]
          exact fun refuses => typed ⟨value, found, refuses⟩
        obtain ⟨decoded, ok, same⟩ := decodes.accepted value accepts
        refine ⟨change decoded settings, ?_, (changes decoded).trans same, frame decoded⟩
        dsimp only
        rw [ok]
        rfl

/-- Reads one key. -/
def Key.read (document : Toml.Fields) (settings : Settings) :
    Key → Except SettingsError Settings
  | graphName => readKey document "graph" "name" decodeOptionalText
      (fun value settings => { settings with graphName := value }) settings
  | token => readKey document "graph" "token" decodeOptionalText
      (fun value settings => { settings with token := value }) settings
  | baseUrl => readKey document "graph" "base_url" decodeText
      (fun value settings => { settings with baseUrl := value }) settings
  | defaultLimit => readKey document "query" "default_limit" decodeInteger
      (fun value settings => { settings with defaultLimit := value }) settings
  | refsDepth => readKey document "query" "refs_depth" decodeInteger
      (fun value settings => { settings with refsDepth := value }) settings
  | order => readKey document "query" "order_by" decodeText
      (fun value settings => { settings with order := value }) settings
  | colored => readKey document "display" "colored_output" decodeBoolean
      (fun value settings => { settings with colored := value }) settings

/-- Reading a key does what it should.  For every key there are the six others to look at, which
keep their values by definition. -/
theorem Key.reads_read (document : Toml.Fields) (settings : Settings) (key : Key) :
    key.Reads document settings (key.read document settings) := by
  cases key with
  | graphName =>
      apply reads_readKey .graphName decodes_optionalText fun _ => rfl
      intro _ other differ
      cases other with
      | graphName => exact absurd rfl differ
      | token | baseUrl | defaultLimit | refsDepth | order | colored => rfl
  | token =>
      apply reads_readKey .token decodes_optionalText fun _ => rfl
      intro _ other differ
      cases other with
      | token => exact absurd rfl differ
      | graphName | baseUrl | defaultLimit | refsDepth | order | colored => rfl
  | baseUrl =>
      apply reads_readKey .baseUrl decodes_text fun _ => rfl
      intro _ other differ
      cases other with
      | baseUrl => exact absurd rfl differ
      | graphName | token | defaultLimit | refsDepth | order | colored => rfl
  | defaultLimit =>
      apply reads_readKey .defaultLimit decodes_integer fun _ => rfl
      intro _ other differ
      cases other with
      | defaultLimit => exact absurd rfl differ
      | graphName | token | baseUrl | refsDepth | order | colored => rfl
  | refsDepth =>
      apply reads_readKey .refsDepth decodes_integer fun _ => rfl
      intro _ other differ
      cases other with
      | refsDepth => exact absurd rfl differ
      | graphName | token | baseUrl | defaultLimit | order | colored => rfl
  | order =>
      apply reads_readKey .order decodes_text fun _ => rfl
      intro _ other differ
      cases other with
      | order => exact absurd rfl differ
      | graphName | token | baseUrl | defaultLimit | refsDepth | colored => rfl
  | colored =>
      apply reads_readKey .colored decodes_boolean fun _ => rfl
      intro _ other differ
      cases other with
      | colored => exact absurd rfl differ
      | graphName | token | baseUrl | defaultLimit | refsDepth | order => rfl

/-! ## Reading all keys -/

/-- A document is read key by key. -/
theorem ofDocument_eq_foldlM (document : Toml.Fields) :
    ofDocument document = Key.all.foldlM (fun settings key => key.read document settings) {} := by
  simp only [Key.all, List.foldlM_cons, List.foldlM_nil, bind_pure]
  rfl

/-- The document has nothing wrong for the key. -/
def IsFine (document : Toml.Fields) (key : Key) : Prop :=
  ¬ Misread document key ∧ ¬ IllTyped document key

/-- What reading a key that has something wrong comes to. -/
theorem exists_error_of_not_isFine {key : Key} (wrong : ¬ IsFine document key) :
    ∃ error, (∀ settings, key.read document settings = .error error) ∧
      (IllTyped document key ∧ error = .invalid key.fullName key.kind.reason ∨
        Misread document key ∧ error = .notSection) := by
  by_cases misread : Misread document key
  · exact ⟨_, fun settings => (key.reads_read document settings).misread misread,
      .inr ⟨misread, rfl⟩⟩
  · have illTyped : IllTyped document key := by
      by_contra typed
      exact wrong ⟨misread, typed⟩
    exact ⟨_, fun settings => (key.reads_read document settings).illTyped illTyped,
      .inl ⟨illTyped, rfl⟩⟩

/-- Reading keys one after the other stops at the first one that has something wrong. -/
theorem foldlM_read_error {before : List Key} (fine : ∀ key ∈ before, IsFine document key)
    {key : Key} {error : SettingsError}
    (fails : ∀ settings, key.read document settings = .error error) (behind : List Key) :
    (before ++ key :: behind).foldlM (fun settings key => key.read document settings) settings =
      .error error := by
  induction before generalizing settings with
  | nil =>
      rw [List.nil_append, List.foldlM_cons, fails]
      rfl
  | cons first before ih =>
      rw [List.forall_mem_cons] at fine
      obtain ⟨after, read, -⟩ := (first.reads_read document settings).fine fine.1.1 fine.1.2
      rw [List.cons_append, List.foldlM_cons, read, ok_bind]
      exact ih fine.2

/-- Reading keys that have nothing wrong gives each of them its value and changes no other. -/
theorem foldlM_read_ok {keys : List Key} (distinct : keys.Nodup)
    (fine : ∀ key ∈ keys, IsFine document key) (settings : Settings) :
    ∃ after, keys.foldlM (fun settings key => key.read document settings) settings = .ok after ∧
      (∀ key ∈ keys, key.valueIn after =
        (valueAt? document key).getD (key.valueIn settings)) ∧
      ∀ key ∉ keys, key.valueIn after = key.valueIn settings := by
  induction keys generalizing settings with
  | nil => exact ⟨settings, rfl, List.forall_mem_nil _, fun _ _ => rfl⟩
  | cons first keys ih =>
      rw [List.forall_mem_cons] at fine
      rw [List.nodup_cons] at distinct
      obtain ⟨middle, read, value, others⟩ :=
        (first.reads_read document settings).fine fine.1.1 fine.1.2
      obtain ⟨after, rest, values, kept⟩ := ih distinct.2 fine.2 middle
      refine ⟨after, ?_, ?_, ?_⟩
      · rw [List.foldlM_cons, read, ok_bind]
        exact rest
      · rw [List.forall_mem_cons]
        refine ⟨(kept first distinct.1).trans value, ?_⟩
        intro key listed
        have differ : key ≠ first := by
          rintro rfl
          exact distinct.1 listed
        rw [values key listed, others key differ]
      · intro key unlisted
        rw [List.mem_cons, not_or] at unlisted
        rw [kept key unlisted.2, others key unlisted.1]

/-- A list of keys has nothing wrong, or there is a first one that has. -/
theorem exists_first_of_not_isFine (document : Toml.Fields) (keys : List Key) :
    (∀ key ∈ keys, IsFine document key) ∨ ∃ before key behind, keys = before ++ key :: behind ∧
      (∀ earlier ∈ before, IsFine document earlier) ∧ ¬ IsFine document key := by
  induction keys with
  | nil => exact .inl (List.forall_mem_nil _)
  | cons first keys ih =>
      by_cases fine : IsFine document first
      · rcases ih with all | ⟨before, key, behind, cut, earlier, wrong⟩
        · exact .inl (List.forall_mem_cons.mpr ⟨fine, all⟩)
        · refine .inr ⟨first :: before, key, behind, ?_, List.forall_mem_cons.mpr ⟨fine, earlier⟩,
            wrong⟩
          rw [cut, List.cons_append]
      · exact .inr ⟨[], first, keys, rfl, List.forall_mem_nil _, fine⟩

/-- Two places in a list: one of them comes first, or they are the same. -/
theorem mem_or_eq_or_mem {before behind front rear : List Key} {key other : Key}
    (same : before ++ key :: behind = front ++ other :: rear) :
    other ∈ before ∨ other = key ∨ key ∈ front := by
  rcases List.append_eq_append_iff.mp same with ⟨gap, rfl, split⟩ | ⟨gap, rfl, split⟩
  · cases gap with
    | nil =>
        injection split with first
        exact .inr (.inl first.symm)
    | cons first gap =>
        injection split with first
        exact .inr (.inr (by simp [first]))
  · cases gap with
    | nil =>
        injection split with first
        exact .inr (.inl first)
    | cons first gap =>
        injection split with first
        exact .inl (by simp [first])

end

/-! ## Reports -/

/-- The document gives settings that have its values and otherwise the defaults, or an error that
names the first key of the wrong type. -/
def Reports (document : Toml.Fields) : Prop :=
  (∃ settings, ofDocument document = .ok settings ∧ ∀ key : Key, ¬ IllTyped document key ∧
    key.valueIn settings = (valueAt? document key).getD (key.valueIn {})) ∨
  ∃ before key behind, Key.all = before ++ key :: behind ∧
    (∀ earlier ∈ before, ¬ IllTyped document earlier) ∧ IllTyped document key ∧
    ofDocument document = .error (.invalid key.fullName key.kind.reason)

/-- A key is looked for in something that is no section, and taken to be there, before a key of
the wrong type is found. -/
def TripsFirst (document : Toml.Fields) : Prop :=
  ∃ before key behind, Key.all = before ++ key :: behind ∧
    (∀ earlier ∈ before, ¬ IllTyped document earlier) ∧ Misread document key

section

variable {document : Toml.Fields}

/-- Nothing is wrong with a document. -/
theorem reports_of_isFine (all : ∀ key ∈ Key.all, IsFine document key) :
    Reports document ∧ ¬ TripsFirst document := by
  constructor
  · obtain ⟨settings, read, values, -⟩ := foldlM_read_ok Key.nodup_all all {}
    refine .inl ⟨settings, (ofDocument_eq_foldlM document).trans read, ?_⟩
    exact fun key => ⟨(all key key.mem_all).2, values key key.mem_all⟩
  · rintro ⟨_, key, _, _, _, misread⟩
    exact (all key key.mem_all).1 misread

/-- The first key that has something wrong has a value of the wrong type. -/
theorem reports_of_illTyped {before behind : List Key} {key : Key}
    (cut : Key.all = before ++ key :: behind) (fine : ∀ earlier ∈ before, IsFine document earlier)
    (illTyped : IllTyped document key)
    (failed : ofDocument document = .error (.invalid key.fullName key.kind.reason)) :
    Reports document ∧ ¬ TripsFirst document := by
  constructor
  · exact .inr ⟨before, key, behind, cut, fun earlier listed => (fine earlier listed).2, illTyped,
      failed⟩
  · rintro ⟨front, other, rear, split, typed, misread⟩
    rcases mem_or_eq_or_mem (cut.symm.trans split) with listed | rfl | listed
    · exact (fine other listed).1 misread
    · exact illTyped.not_misread misread
    · exact typed key listed illTyped

theorem Reports.ne_notSection (reports : Reports document) :
    ofDocument document ≠ .error .notSection := by
  intro failed
  rcases reports with ⟨_, ok, _⟩ | ⟨_, _, _, _, _, _, other⟩
  · rw [failed] at ok
    cases ok
  · rw [failed] at other
    cases other

end

/-- A document gives its settings, or an error that names its first key of the wrong type, unless
a key is taken to be in something that is no section: then the error names no key. -/
theorem ofDocument_reports_iff_not_tripsFirst (document : Toml.Fields) :
    (Reports document ↔ ¬ TripsFirst document) ∧
      (ofDocument document = .error .notSection ↔ TripsFirst document) := by
  rcases exists_first_of_not_isFine document Key.all with
    all | ⟨before, key, behind, cut, fine, wrong⟩
  · obtain ⟨reports, steady⟩ := reports_of_isFine all
    exact ⟨iff_of_true reports steady, iff_of_false reports.ne_notSection steady⟩
  · obtain ⟨error, fails, cause⟩ := exists_error_of_not_isFine wrong
    have failed : ofDocument document = .error error := by
      rw [ofDocument_eq_foldlM, cut]
      exact foldlM_read_error fine fails behind
    rcases cause with ⟨illTyped, rfl⟩ | ⟨misread, rfl⟩
    · obtain ⟨reports, steady⟩ := reports_of_illTyped cut fine illTyped failed
      exact ⟨iff_of_true reports steady, iff_of_false reports.ne_notSection steady⟩
    · have trips : TripsFirst document :=
        ⟨before, key, behind, cut, fun earlier listed => (fine earlier listed).2, misread⟩
      exact ⟨iff_of_false (fun reports => reports.ne_notSection failed) (not_not_intro trips),
        iff_of_true failed trips⟩

/-- A number in place of a section is not reported as a value of the wrong type. -/
theorem numberSection_not_reported : ¬ Reports [("display", .integer 5)] := by
  have read : ofDocument [("display", .integer 5)] = .error .notSection := by
    rfl
  rintro (⟨settings, ok, -⟩ | ⟨_, key, _, _, _, _, failed⟩)
  · rw [read] at ok
    cases ok
  · rw [read] at failed
    cases failed

end BlockQuery.Settings
