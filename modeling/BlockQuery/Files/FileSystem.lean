import BlockQuery.Files.Path
import BlockQuery.Text.Quoted

/-!
# File systems

What the program asks of a file system, over any monad: looking at a path,
reading, and the steps of a private write. Every step may fail.
-/

namespace BlockQuery.Files

/-- Why a step on a file system fails. -/
inductive FileError
  | notFound (path : Path)
  | alreadyThere (path : Path)
  | notDirectory (path : Path)
  | isDirectory (path : Path)
  /-- The path, or a name on the way there, is longer than the system allows. -/
  | nameTooLong (path : Path)
  /-- A file cannot take the place of a directory. -/
  | replacesDirectory (source target : Path)
  /-- Nothing can take the place of the root. -/
  | busy (source target : Path)
  /-- A failure of another kind, in the words of the system. -/
  | other (message : String)
deriving DecidableEq, Repr

/-- The wording of a failed step. -/
def FileError.message : FileError → String
  | notFound path => s!"[Errno 2] No such file or directory: {Text.quoted path.text}"
  | alreadyThere path => s!"[Errno 17] File exists: {Text.quoted path.text}"
  | notDirectory path => s!"[Errno 20] Not a directory: {Text.quoted path.text}"
  | nameTooLong path => s!"[Errno 36] File name too long: {Text.quoted path.text}"
  | isDirectory path => s!"[Errno 21] Is a directory: {Text.quoted path.text}"
  | replacesDirectory source target =>
    s!"[Errno 21] Is a directory: {Text.quoted source.text} -> {Text.quoted target.text}"
  | busy source target =>
    s!"[Errno 16] Device or resource busy: {Text.quoted source.text} -> {Text.quoted target.text}"
  | other message => message

/-- What stands at a path. -/
inductive Kind
  | directory
  | file
deriving DecidableEq, Repr

/-- The steps that a file system offers. -/
structure FileSystem (m : Type → Type) where
  /-- What stands at a path, if anything. -/
  kind? : Path → ExceptT FileError m (Option Kind)
  read : Path → ExceptT FileError m String
  /-- Creates a directory inside an existing one. -/
  makeDirectory : Path → ExceptT FileError m Unit
  setMode : Path → Nat → ExceptT FileError m Unit
  /-- Creates an empty file of an unused name in a directory, readable by its owner only. The name
  starts and ends with the given texts. -/
  createTemporary : Path → String → String → ExceptT FileError m Path
  write : Path → String → ExceptT FileError m Unit
  /-- Gives a file another path, replacing the file that is there. -/
  rename : Path → Path → ExceptT FileError m Unit
  remove : Path → m Unit

/-- The file system with its steps carried over to another monad. -/
def FileSystem.lift {m n : Type → Type} (carry : {α : Type} → m α → n α) (fs : FileSystem m) :
    FileSystem n where
  kind? path := ExceptT.mk (carry (fs.kind? path).run)
  read path := ExceptT.mk (carry (fs.read path).run)
  makeDirectory path := ExceptT.mk (carry (fs.makeDirectory path).run)
  setMode path mode := ExceptT.mk (carry (fs.setMode path mode).run)
  createTemporary folder start finish :=
    ExceptT.mk (carry (fs.createTemporary folder start finish).run)
  write path content := ExceptT.mk (carry (fs.write path content).run)
  rename source target := ExceptT.mk (carry (fs.rename source target).run)
  remove path := carry (fs.remove path)

variable {m : Type → Type} [Monad m]

/-- Follows names from a path one by one, as the system does: only a directory leads on. -/
def FileSystem.follow (fs : FileSystem m) (path : Path) : List String → ExceptT FileError m Path
  | [] => pure path
  | name :: rest => do
    match ← fs.kind? path with
    | some .directory => fs.follow (path.follow name) rest
    | some .file => throw (.notDirectory path)
    | none => throw (.notFound path)

/-- The largest number of bytes in a path. -/
def pathLimit : Nat := 4095

/-- The path that a text leads to from a working folder. The empty text leads nowhere, and a slash
at the end asks for a directory. -/
def FileSystem.locate (fs : FileSystem m) (working : Path) (written : String) :
    ExceptT FileError m Path :=
  if written = "" then
    throw (.notFound working)
  else if pathLimit < written.utf8ByteSize then
    throw (.nameTooLong working)
  else
    fs.follow (if written.startsWith "/" then Path.root else working) (written.splitOn "/")

end BlockQuery.Files
