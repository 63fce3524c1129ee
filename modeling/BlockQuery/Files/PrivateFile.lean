import BlockQuery.Files.FileSystem

/-!
# Private files

A file with secrets is written into a directory of its owner's: the content goes
to a temporary sibling that only the owner can read, and the sibling then takes
the place of the file. If a step fails after the sibling was created, the sibling
is removed, so the file is either written as a whole or left as it was.
-/

namespace BlockQuery.Files

/-- The mode of a private directory: its owner may do everything. -/
def privateDirectoryMode : Nat := 0o700

/-- The mode of a private file: its owner may read and write it. -/
def privateFileMode : Nat := 0o600

variable {m : Type → Type} [Monad m]

/-- Lets an error pass if there is a directory at the path all the same. -/
def excuse (fs : FileSystem m) (path : Path) (error : FileError) : ExceptT FileError m Unit := do
  match ← fs.kind? path with
  | some .directory => return ()
  | _ => throw error

/-- Creates a directory inside an existing one; one that is there already is fine. -/
def ensureDirectory (fs : FileSystem m) (path : Path) : ExceptT FileError m Unit :=
  tryCatch (fs.makeDirectory path) fun error =>
    match error with
    | .notFound _ => throw error
    | _ => excuse fs path error

/-- Creates a directory and those above it. `names` are the names of its path. -/
def ensureDirectories (fs : FileSystem m) : List String → ExceptT FileError m Unit
  | [] => ensureDirectory fs ⟨[]⟩
  | name :: above =>
    tryCatch (fs.makeDirectory ⟨name :: above⟩) fun error =>
      match error with
      | .notFound _ => do
        ensureDirectories fs above
        ensureDirectory fs ⟨name :: above⟩
      | _ => excuse fs ⟨name :: above⟩ error

/-- Fills a temporary file and lets it take the place of a path. -/
def fillAndRename (fs : FileSystem m) (temporary path : Path) (content : String) :
    ExceptT FileError m Unit := do
  fs.setMode temporary privateFileMode
  fs.write temporary content
  fs.rename temporary path

/-- Writes a private file. -/
def writePrivate (fs : FileSystem m) (path : Path) (content : String) :
    ExceptT FileError m Unit := do
  ensureDirectories fs path.parent.names
  fs.setMode path.parent privateDirectoryMode
  let temporary ← fs.createTemporary path.parent s!".{path.name}." ".tmp"
  tryCatch (fillAndRename fs temporary path content) fun error => do
    fs.remove temporary
    throw error

end BlockQuery.Files
