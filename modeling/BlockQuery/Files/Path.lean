/-!
# Paths

An absolute path is a list of names. It is kept with the innermost name first, so
the parent of a path is its tail. A written path may be relative to a folder or
start at the home folder; dots are resolved on the names alone.
-/

namespace BlockQuery.Files

/-- An absolute path, innermost name first. -/
structure Path where
  names : List String
deriving DecidableEq, Repr

namespace Path

/-- The folder that contains everything. -/
def root : Path := ⟨[]⟩

/-- The folder of a path; the root is its own. -/
def parent (path : Path) : Path :=
  ⟨path.names.tail⟩

/-- The innermost name. -/
def name (path : Path) : String :=
  path.names.headD ""

/-- The path of a name inside a folder. -/
def child (path : Path) (name : String) : Path :=
  ⟨name :: path.names⟩

/-- A path as text. -/
def text (path : Path) : String :=
  "/" ++ "/".intercalate path.names.reverse

/-- The path reached by following one name; two dots lead to the parent. -/
def follow (path : Path) (name : String) : Path :=
  if name = "" ∨ name = "." then path else if name = ".." then path.parent else path.child name

/-- The names of a written path. -/
def writtenNames (written : String) : List String :=
  (written.splitOn "/").filter fun name => name != "" && name != "."

/-- The path that is written relative to a folder; a tilde is a name like any other. -/
def fromFolder (folder : Path) (written : String) : Path :=
  (writtenNames written).foldl follow (if written.startsWith "/" then root else folder)

/-- Why a written path leads nowhere. -/
inductive PathError
  /-- The path starts at the home of an unknown user. -/
  | unknownHome
  /-- The path has a character that no path can have. -/
  | nullCharacter
deriving DecidableEq, Repr

/-- Whether a text has the character that ends a path for the system. -/
def hasNull (text : String) : Bool :=
  text.contains '\x00'

/-- The path that is written relative to a working folder. A tilde at the start stands for the
home folder. -/
def resolve (working home : Path) (written : String) : Except PathError Path :=
  let relative := !written.startsWith "/"
  let first := (writtenNames written).headD ""
  if relative && first.startsWith "~" && first != "~" && !hasNull first then
    .error .unknownHome
  else if hasNull written then
    .error .nullCharacter
  else if relative && first == "~" then
    .ok ((writtenNames written).tail.foldl follow home)
  else
    .ok (fromFolder working written)

end Path

end BlockQuery.Files
