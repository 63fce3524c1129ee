import BlockQuery.Files.PrivateFile
import BlockQuery.Settings
import BlockQuery.Toml.Reader

/-!
# Loading and saving settings

Settings live in a file of the home folder unless a path is given. A file that is
not there gives the defaults. The environment has the last word on the graph and
the token.
-/

namespace BlockQuery.Settings

open Files

/-- The surroundings that settings are loaded in. -/
structure Surroundings where
  /-- The folder that relative paths start at. -/
  working : Path
  home : Path
  environment : String → Option String

/-- Why settings are not loaded. -/
inductive LoadError
  | path (error : Path.PathError)
  | file (error : FileError)
  /-- The file is not a document. -/
  | unreadable (path : Path)
  /-- A number in the file has more digits than are converted. -/
  | tooManyDigits (digits : Nat)
  | settings (error : SettingsError)
deriving DecidableEq, Repr

/-- The wording of a load error. -/
def LoadError.message : LoadError → String
  | path .unknownHome => "Could not determine home directory."
  | path .nullCharacter => "embedded null byte"
  | file error => error.message
  | unreadable source => s!"Invalid config at {source.text}"
  | tooManyDigits digits => Text.tooLongMessage digits
  | settings error => error.message

/-- Why settings are not saved. -/
inductive SaveError
  | path (error : Path.PathError)
  | file (error : FileError)
  /-- A number has more digits than are written. -/
  | unwritable
deriving DecidableEq, Repr

/-- Settings with the file they come from, if there is one, and what to warn about. -/
structure Loaded where
  settings : Settings
  source : Option Path
  warnings : List String

/-- The path of the settings file when none is given. -/
def defaultPath (home : Path) : Path :=
  ((home.child ".config").child "roam-query").child "config.toml"

/-- The path of the settings file. -/
def settingsPath (around : Surroundings) (written : Option String) :
    Except Path.PathError Path :=
  match written with
  | none => .ok (defaultPath around.home)
  | some text => Path.resolve around.working around.home text

/-- The document in a file's text. -/
def documentOf (path : Path) (text : String) : Except LoadError Toml.Fields :=
  match Toml.read text with
  | .ok document => .ok document
  | .error .malformed => .error (.unreadable path)
  | .error (.tooManyDigits digits) => .error (.tooManyDigits digits)

/-- The settings of a document in an environment, and what to warn about. -/
def ofText (around : Surroundings) (path : Path) (text : String) : Except LoadError Loaded := do
  let document ← documentOf path text
  let settings ← (Settings.ofDocument document).mapError .settings
  let settings := settings.withEnvironment around.environment
  let warnings ← settings.validate.mapError .settings
  return { settings, source := some path, warnings }

/-- The settings when there is no file, and what to warn about. -/
def withoutFile (around : Surroundings) (path : Path) : Except LoadError Loaded := do
  let settings := Settings.withEnvironment {} around.environment
  let missing := if settings.hasCredentials then [] else
    [s!"No config file found at {path.text}. Using defaults. " ++
      "Create config with: roam-query init-config"]
  let warnings ← settings.validate.mapError .settings
  return { settings, source := none, warnings := missing ++ warnings }

variable {m : Type → Type} [Monad m]

/-- Loads the settings. -/
def load (fs : FileSystem m) (around : Surroundings) (written : Option String) :
    ExceptT LoadError m Loaded := do
  let path ← ExceptT.mk (pure ((settingsPath around written).mapError .path))
  match ← (fs.kind? path).adapt .file with
  | none => ExceptT.mk (pure (withoutFile around path))
  | some _ =>
    let text ← (fs.read path).adapt .file
    ExceptT.mk (pure (ofText around path text))

/-- Saves the settings. -/
def save (fs : FileSystem m) (around : Surroundings) (settings : Settings)
    (written : Option String) : ExceptT SaveError m Unit := do
  let path ← ExceptT.mk (pure ((settingsPath around written).mapError .path))
  if settings.isWritable then
    (writePrivate fs path settings.write).adapt .file
  else
    throw .unwritable

end BlockQuery.Settings
