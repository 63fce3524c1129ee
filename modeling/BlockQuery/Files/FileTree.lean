import BlockQuery.Files.FileSystem

/-!
# File trees

A file system as a value: the nodes at their paths, each with its mode. Nodes lie
in directories; a path that leads through a file is not one of a directory.
-/

namespace BlockQuery.Files

/-- What stands at a path. -/
inductive Node
  | directory (mode : Nat)
  | file (mode : Nat) (content : String)
deriving DecidableEq, Repr

namespace Node

/-- Whether a node is a directory or a file. -/
def kind : Node → Kind
  | directory _ => .directory
  | file .. => .file

/-- The mode of a node. -/
def mode : Node → Nat
  | directory mode => mode
  | file mode _ => mode

/-- The node with another mode. -/
def withMode (mode : Nat) : Node → Node
  | directory _ => directory mode
  | file _ content => file mode content

end Node

/-- The nodes of a file system at their paths; the first entry of a path counts. -/
abbrev FileTree := List (Path × Node)

namespace FileTree

/-- The mode of a new directory. -/
def directoryMode : Nat := 0o755

/-- The mode of a new file. -/
def fileMode : Nat := 0o644

/-- The largest number of bytes in a name. -/
def nameLimit : Nat := 255

/-- The number of bytes that a temporary name has besides its start and its end. -/
def tagSize : Nat := 8

/-- The mode of the root: that of its entry, if it has one. -/
def rootMode (tree : FileTree) : Nat :=
  ((tree.lookup Path.root).map Node.mode).getD directoryMode

/-- The node at a path. The root is always a directory. -/
def node? (tree : FileTree) (path : Path) : Option Node :=
  if path = Path.root then some (.directory tree.rootMode) else tree.lookup path

/-- The tree with a node at a path. -/
def put (tree : FileTree) (path : Path) (node : Node) : FileTree :=
  (path, node) :: tree.filter fun entry => entry.1 != path

/-- The tree without the node at a path. -/
def erase (tree : FileTree) (path : Path) : FileTree :=
  tree.filter fun entry => entry.1 != path

/-- Whether a path with the given names leads through directories only, and if not, why. -/
def reach (tree : FileTree) (target : Path) : List String → Except FileError Unit
  | [] => .ok ()
  | name :: above => do
    tree.reach target above
    if nameLimit < name.utf8ByteSize then
      throw (.nameTooLong target)
    match tree.node? ⟨name :: above⟩ with
    | some (.directory _) => .ok ()
    | some (.file ..) => .error (.notDirectory target)
    | none => .error (.notFound target)

/-- What stands at a path, if the way there leads through directories. -/
def find (tree : FileTree) (path : Path) : Except FileError (Option Node) := do
  if pathLimit < path.text.utf8ByteSize then
    throw (.nameTooLong path)
  tree.reach path path.parent.names
  if nameLimit < path.name.utf8ByteSize then
    throw (.nameTooLong path)
  return tree.node? path

/-- The kind of what stands at a path. A way that does not lead there ends at nothing. -/
def kind? (tree : FileTree) (path : Path) : Except FileError (Option Kind) :=
  match tree.find path with
  | .ok node => .ok (node.map Node.kind)
  | .error (.nameTooLong path) => .error (.nameTooLong path)
  | .error _ => .ok none

/-- The content of the file at a path. -/
def read (tree : FileTree) (path : Path) : Except FileError String := do
  match ← tree.find path with
  | some (.file _ content) => .ok content
  | some (.directory _) => .error (.isDirectory path)
  | none => .error (.notFound path)

/-- The tree with a new directory. -/
def makeDirectory (tree : FileTree) (path : Path) : Except FileError FileTree := do
  match ← tree.find path with
  | some _ => .error (.alreadyThere path)
  | none => .ok (tree.put path (.directory directoryMode))

/-- The tree with the mode of a node changed. -/
def setMode (tree : FileTree) (path : Path) (mode : Nat) : Except FileError FileTree :=
  match tree.node? path with
  | some node => .ok (tree.put path (node.withMode mode))
  | none => .error (.notFound path)

/-- The first of numbered paths in a directory that is not in use. -/
def unusedPath (tree : FileTree) (folder : Path) (start tag finish : String) : Path :=
  let candidate (count : Nat) : Path :=
    folder.child (start ++ tag ++ String.ofList (List.replicate count 'x') ++ finish)
  ((List.range (tree.length + 1)).map candidate).find? (fun path => (tree.node? path).isNone)
    |>.getD (candidate (tree.length + 1))

/-- The tree with a new temporary file, and its path. -/
def createTemporary (tree : FileTree) (folder : Path) (start tag finish : String) :
    Except FileError (Path × FileTree) := do
  let path := tree.unusedPath folder start tag finish
  if pathLimit < path.text.utf8ByteSize then
    throw (.nameTooLong path)
  tree.reach path folder.names
  if nameLimit < start.utf8ByteSize + tagSize + finish.utf8ByteSize then
    throw (.nameTooLong path)
  return (path, tree.put path (.file 0o600 ""))

/-- The tree with the content of a file replaced. -/
def write (tree : FileTree) (path : Path) (content : String) : Except FileError FileTree :=
  match tree.node? path with
  | some (.file mode _) => .ok (tree.put path (.file mode content))
  | some (.directory _) => .error (.isDirectory path)
  | none => .error (.notFound path)

/-- The tree with a file moved to another path. -/
def rename (tree : FileTree) (source target : Path) : Except FileError FileTree :=
  if target = Path.root then
    .error (.busy source target)
  else
    match tree.node? source, tree.node? target with
    | none, _ => .error (.notFound source)
    | some (.file ..), some (.directory _) => .error (.replacesDirectory source target)
    | some node, _ => .ok ((tree.erase source).put target node)

/-- The names in a directory, in order. -/
def names (tree : FileTree) (folder : Path) : List String :=
  let inside := tree.filterMap fun entry =>
    if entry.1.names ≠ [] ∧ entry.1.parent = folder then some entry.1.name else none
  inside.mergeSort fun a b => decide (a ≤ b)

/-- Changes the tree by a step that may fail. -/
def step (change : FileTree → Except FileError FileTree) :
    ExceptT FileError (StateM FileTree) Unit := do
  match change (← get) with
  | .ok tree => set tree
  | .error error => throw error

/-- The tree as a file system. Temporary files have `tag` in their names. -/
def system (tag : String) : FileSystem (StateM FileTree) where
  kind? path := do
    let tree ← get
    ExceptT.mk (pure (tree.kind? path))
  read path := do
    let tree ← get
    ExceptT.mk (pure (tree.read path))
  makeDirectory path := step (makeDirectory · path)
  setMode path mode := step (setMode · path mode)
  createTemporary folder start finish := do
    match (← get).createTemporary folder start tag finish with
    | .ok (path, tree) =>
      set tree
      return path
    | .error error => throw error
  write path content := step (write · path content)
  rename source target := step (rename · source target)
  remove path := modify (erase · path)

end FileTree

end BlockQuery.Files
