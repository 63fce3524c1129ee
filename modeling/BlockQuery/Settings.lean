import BlockQuery.Graph.Client
import BlockQuery.Toml
import BlockQuery.Toml.Writer

/-!
# Settings

The settings of the program: which graph to ask and how to show its answers. They
are read from a document with the sections `graph`, `query` and `display`; what a
document does not say has a default. A key of the wrong type is an error, and so
is a value out of range.
-/

namespace BlockQuery

/-- The settings of the program. -/
structure Settings where
  graphName : Option String := none
  token : Option String := none
  baseUrl : String := Graph.Client.defaultBaseUrl
  /-- The number of matches asked for when none is given; -1 stands for no bound. -/
  defaultLimit : Int := 50
  /-- How deep references in results are expanded. -/
  refsDepth : Int := Graph.defaultDepth
  order : String := Datalog.defaultOrder
  colored : Bool := true
deriving DecidableEq, Repr

/-- Why settings are refused. -/
inductive SettingsError
  /-- The value of a key is of the wrong type or out of range. -/
  | invalid (key reason : String)
  /-- A section is not a table. -/
  | notSection
deriving DecidableEq, Repr

/-- The wording of a settings error. -/
def SettingsError.message : SettingsError → String
  | invalid key reason => s!"Invalid config value for '{key}': {reason}"
  | notSection => "a section is not a table"

namespace Settings

/-- The environment variable that names the graph. -/
def graphVariable : String := "ROAM_GRAPH_NAME"

/-- The environment variable that holds the token. -/
def tokenVariable : String := "ROAM_API_TOKEN"

/-- The graph and the token, when both are given and not empty. -/
def credentials? (settings : Settings) : Option (String × String) := do
  let graph ← settings.graphName.filter (· != "")
  let token ← settings.token.filter (· != "")
  return (graph, token)

/-- Whether the graph and the token are known. -/
def hasCredentials (settings : Settings) : Bool :=
  settings.credentials?.isSome

/-- Checks the values. The result is a list of warnings. -/
def validate (settings : Settings) : Except SettingsError (List String) :=
  if settings.defaultLimit < -1 ∨ settings.defaultLimit = 0 then
    .error (.invalid "query.default_limit" "must be positive or -1 for unbounded")
  else if settings.refsDepth < 0 then
    .error (.invalid "query.refs_depth" "must be >= 0")
  else if ¬ (settings.baseUrl.startsWith "http://" ∨ settings.baseUrl.startsWith "https://") then
    .error (.invalid "graph.base_url" "must be an http(s) URL")
  else
    match settings.graphName.filter (· != ""), settings.token.filter (· != "") with
    | some graph, none =>
      .ok [s!"No API token configured for graph '{graph}'. " ++
        s!"Set graph.token or {tokenVariable}."]
    | _, _ => .ok []

/-- The settings with what the environment says; empty variables say nothing. -/
def withEnvironment (settings : Settings) (environment : String → Option String) : Settings :=
  { settings with
    graphName := ((environment graphVariable).filter (· != "")).or settings.graphName
    token := ((environment tokenVariable).filter (· != "")).or settings.token }

/-! ### Reading documents -/

/-- The value of a key in a section. A text that contains the key and a list that has it as an
item are taken for sections that have the key, but nothing can be read from them. -/
def lookup? (sec : Toml.Value) (key : String) : Except SettingsError (Option Toml.Value) :=
  match sec with
  | .table fields => .ok (fields.lookup key)
  | .string text =>
    if Text.contains key.toList text.toList then .error .notSection else .ok none
  | .array items =>
    let isKey (item : Toml.Value) : Bool := match item with
      | .string text => text == key
      | _ => false
    if items.any isKey then .error .notSection else .ok none
  | _ => .error .notSection

/-- A key of a section, by the name that messages use. -/
def fullKey (sectionName key : String) : String :=
  s!"{sectionName}.{key}"

/-- The section of a document; a missing section is empty. -/
def sectionOf (document : Toml.Fields) (name : String) : Toml.Value :=
  (document.lookup name).getD (.table [])

/-- Changes settings by the value of a key, if the document has the key. -/
def readKey {α : Type} (document : Toml.Fields) (sectionName key : String)
    (decode : Toml.Value → Except String α) (change : α → Settings → Settings)
    (settings : Settings) : Except SettingsError Settings := do
  match ← lookup? (sectionOf document sectionName) key with
  | none => return settings
  | some value =>
    match decode value with
    | .ok decoded => return change decoded settings
    | .error reason => .error (.invalid (fullKey sectionName key) reason)

/-- A text, or nothing. -/
def decodeOptionalText : Toml.Value → Except String (Option String)
  | .absent => .ok none
  | .string text => .ok (some text)
  | _ => .error "must be a string or null"

/-- A text. -/
def decodeText : Toml.Value → Except String String
  | .string text => .ok text
  | _ => .error "must be a string"

/-- A whole number. -/
def decodeInteger : Toml.Value → Except String Int
  | .integer value => .ok value
  | _ => .error "must be an integer"

/-- A truth value. -/
def decodeBoolean : Toml.Value → Except String Bool
  | .boolean value => .ok value
  | _ => .error "must be a boolean"

/-- The settings that a document gives. The first key of the wrong type is reported. -/
def ofDocument (document : Toml.Fields) : Except SettingsError Settings := do
  let settings : Settings := {}
  let settings ← readKey document "graph" "name" decodeOptionalText
    (fun value settings => { settings with graphName := value }) settings
  let settings ← readKey document "graph" "token" decodeOptionalText
    (fun value settings => { settings with token := value }) settings
  let settings ← readKey document "graph" "base_url" decodeText
    (fun value settings => { settings with baseUrl := value }) settings
  let settings ← readKey document "query" "default_limit" decodeInteger
    (fun value settings => { settings with defaultLimit := value }) settings
  let settings ← readKey document "query" "refs_depth" decodeInteger
    (fun value settings => { settings with refsDepth := value }) settings
  let settings ← readKey document "query" "order_by" decodeText
    (fun value settings => { settings with order := value }) settings
  readKey document "display" "colored_output" decodeBoolean
    (fun value settings => { settings with colored := value }) settings

/-! ### Writing documents -/

/-- The entries of the graph section; defaults are left out. -/
def graphEntries (settings : Settings) : List (String × Toml.Scalar) :=
  (settings.graphName.toList.map fun name => ("name", .string name)) ++
    (settings.token.toList.map fun token => ("token", .string token)) ++
    (if settings.baseUrl = Graph.Client.defaultBaseUrl then []
      else [("base_url", .string settings.baseUrl)])

/-- The sections of a document. A graph section without entries is left out. -/
def sections (settings : Settings) : List Toml.Section :=
  [⟨"query", [("default_limit", .integer settings.defaultLimit),
      ("refs_depth", .integer settings.refsDepth), ("order_by", .string settings.order)]⟩,
    ⟨"display", [("colored_output", .boolean settings.colored)]⟩] ++
    (if settings.graphEntries = [] then [] else [⟨"graph", settings.graphEntries⟩])

/-- Whether the numbers of the settings can be written. -/
def isWritable (settings : Settings) : Bool :=
  Text.isWritable settings.defaultLimit && Text.isWritable settings.refsDepth

/-- The settings as a document. -/
def write (settings : Settings) : String :=
  Toml.writeSections settings.sections

/-! ### Use -/

/-- The options of a request: what is asked for, and the settings elsewhere. -/
def requestOptions (settings : Settings) (limit : Option Int) (offset : Int)
    (order pageUid : Option String) : Datalog.RequestOptions where
  limit := some (limit.getD settings.defaultLimit)
  offset := offset
  order := some ((order.filter (· != "")).getD settings.order)
  pageUid := pageUid

/-- The depth of expansion: what is asked for, or the settings; nothing when it is not
positive. -/
def expansionDepth? (settings : Settings) (asked : Option Int) : Option Nat :=
  let depth := asked.getD settings.refsDepth
  if 0 < depth then some depth.toNat else none

/-- The client of the graph that the settings name. -/
def client? (settings : Settings) : Option Graph.Client :=
  settings.credentials?.map fun (graph, token) => ⟨graph, token, settings.baseUrl⟩

end Settings

/-- What is said when the settings lack a graph or a token. -/
def notConfiguredMessage : String :=
  "No Roam graph configured. Set graph.name and graph.token in the config " ++
    "file or ROAM_GRAPH_NAME and ROAM_API_TOKEN in the environment."

end BlockQuery
