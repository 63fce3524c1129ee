import BlockQuery.Proofs.Files.Faults

/-!
# All or nothing

A private write changes its path in its last step or not at all, whichever of its calls
fails.  Until then there are three stages: the folders on the way are made ready, a
temporary sibling that only its owner can read takes the content, and the sibling moves to
the path.  Each call leads from a stage to the next one or leaves its stage as it was, and
from the second stage on a failure removes the sibling, which leads back to the first.
-/

namespace BlockQuery.Files

/-! ## The way to a folder -/

/-- What may become of the node at a place when a private file is written to a folder: the folders
that are missing on the way are there, and the folder itself is private. -/
inductive Passes (folder place : Path) (before : Option Node) : Option Node → Prop
  | kept : Passes folder place before before
  | made (inside : place.names <:+ folder.names) (missing : before = none) :
    Passes folder place before (some (.directory FileTree.directoryMode))
  | secured (here : place = folder) (fine : ∀ node, before = some node → node.kind = .directory) :
    Passes folder place before (some (.directory privateDirectoryMode))

section

variable {folder place : Path} {before after : Option Node}

theorem Passes.eq_of_file {mode : Nat} {text : String}
    (passes : Passes folder place before (some (.file mode text))) :
    before = some (.file mode text) := by
  cases passes
  rfl

theorem Passes.eq_none (passes : Passes folder place before none) : before = none := by
  cases passes
  rfl

theorem Passes.make (passes : Passes folder place before none)
    (inside : place.names <:+ folder.names) :
    Passes folder place before (some (.directory FileTree.directoryMode)) :=
  .made inside passes.eq_none

end

/-- The first stage: the folders on the way are being made ready, and nothing else has changed. -/
def Stage.ready (first : FileTree) (folder : Path) : Stage first where
  holds tree := ∀ place, Passes folder place (first.node? place) (tree.node? place)
  guarded passes place mode text file := by
    have passed := passes place
    rw [file] at passed
    exact .inl passed.eq_of_file

section

variable {first : FileTree} {folder : Path} {tag : String} {faults : Nat → Option Fault}

/-- The first stage, with a directory at the end of a way. -/
def Stage.opened (first : FileTree) (folder : Path) (names : List String) : Stage first :=
  (Stage.ready first folder).knowing fun tree => ∃ mode, tree.node? ⟨names⟩ = some (.directory mode)

end

/-! ## The temporary sibling -/

/-- The second stage: a temporary sibling of the path has some text in it, and only its owner can
read it.  Apart from it, the tree is as at the first stage. -/
structure Drafted (first : FileTree) (path temporary : Path) (text : String) (tree : FileTree) :
    Prop where
  sibling : ∃ name, temporary = path.parent.child name
  fresh : first.node? temporary = none
  draft : tree.node? temporary = some (.file privateFileMode text)
  secured : tree.node? path.parent = some (.directory privateDirectoryMode)
  passes : ∀ place, place ≠ temporary →
    Passes path.parent place (first.node? place) (tree.node? place)
  reached : tree.reach path path.parent.names = .ok ()
  fits : path ≠ Path.root →
    path.text.utf8ByteSize ≤ pathLimit ∧ path.name.utf8ByteSize ≤ FileTree.nameLimit

namespace Drafted

variable {first tree : FileTree} {path temporary : Path} {text : String}

theorem ne_of_suffix (drafted : Drafted first path temporary text tree) {names : List String}
    (inside : names <:+ path.parent.names) : (⟨names⟩ : Path) ≠ temporary := by
  obtain ⟨name, rfl⟩ := drafted.sibling
  exact Path.ne_child_of_suffix inside

theorem ne_root (drafted : Drafted first path temporary text tree) : temporary ≠ Path.root := by
  obtain ⟨name, rfl⟩ := drafted.sibling
  exact Path.child_ne_root _ _

theorem guarded (drafted : Drafted first path temporary text tree) : Guarded first tree := by
  intro place mode content file
  by_cases here : place = temporary
  · rw [here, drafted.draft] at file
    cases file
    exact .inr rfl
  · have passed := drafted.passes place here
    rw [file] at passed
    exact .inl passed.eq_of_file

theorem put (drafted : Drafted first path temporary text tree) (content : String) :
    Drafted first path temporary content
      (tree.put temporary (.file privateFileMode content)) where
  sibling := drafted.sibling
  fresh := drafted.fresh
  draft := FileTree.node?_put_self drafted.ne_root _
  secured := by
    rw [FileTree.node?_put_of_ne (drafted.ne_of_suffix List.suffix_rfl)]
    exact drafted.secured
  passes place other := by
    rw [FileTree.node?_put_of_ne other]
    exact drafted.passes place other
  reached := by
    apply FileTree.reach_of_reach _ drafted.reached
    intro way inside
    exact FileTree.node?_put_of_ne (drafted.ne_of_suffix inside) _
  fits := drafted.fits

/-- Without the sibling, the tree is at the first stage again. -/
theorem erase (drafted : Drafted first path temporary text tree) :
    (Stage.ready first path.parent).holds (tree.erase temporary) := by
  intro place
  by_cases here : place = temporary
  · rw [here, FileTree.node?_erase_self drafted.ne_root, drafted.fresh]
    exact .kept
  · rw [FileTree.node?_erase_of_ne here]
    exact drafted.passes place here

end Drafted

/-- The second stage. -/
def Stage.drafted (first : FileTree) (path temporary : Path) (text : String) : Stage first where
  holds := Drafted first path temporary text
  guarded := Drafted.guarded

/-- The last stage: the content is at the path, where only its owner can read it. -/
structure Written (first : FileTree) (path : Path) (content : String) (tree : FileTree) :
    Prop where
  found : tree.find path = .ok (some (.file privateFileMode content))
  secured : tree.node? path.parent = some (.directory privateDirectoryMode)
  passes : ∀ place, place ≠ path →
    Passes path.parent place (first.node? place) (tree.node? place)

section

variable {first tree : FileTree} {path temporary : Path} {content : String} {tag : String}
  {faults : Nat → Option Fault}

theorem Written.guarded (written : Written first path content tree) : Guarded first tree := by
  intro place mode text file
  by_cases here : place = path
  · obtain ⟨-, -, -, there⟩ := FileTree.find_eq_ok_iff.mp written.found
    rw [here, there] at file
    cases file
    exact .inr rfl
  · have passed := written.passes place here
    rw [file] at passed
    exact .inl passed.eq_of_file

/-- The last stage. -/
def Stage.written (first : FileTree) (path : Path) (content : String) : Stage first where
  holds := Written first path content
  guarded := Written.guarded

/-- The sibling takes the place of the path. -/
theorem Drafted.rename (drafted : Drafted first path temporary content tree)
    (proper : path ≠ Path.root) :
    Written first path content
      ((tree.erase temporary).put path (.file privateFileMode content)) := by
  have onWay {names : List String} (inside : names <:+ path.parent.names) :
      ((tree.erase temporary).put path (.file privateFileMode content)).node? ⟨names⟩ =
        tree.node? ⟨names⟩ := by
    rw [FileTree.node?_put_of_ne (Path.ne_of_suffix_parent proper inside),
      FileTree.node?_erase_of_ne (drafted.ne_of_suffix inside)]
  obtain ⟨near, short⟩ := drafted.fits proper
  refine ⟨?_, ?_, ?_⟩
  · rw [FileTree.find_eq_ok_iff]
    refine ⟨near, ?_, short, FileTree.node?_put_self proper _⟩
    exact FileTree.reach_of_reach (fun way inside => onWay inside) drafted.reached
  · rw [onWay List.suffix_rfl]
    exact drafted.secured
  · intro place other
    rw [FileTree.node?_put_of_ne other]
    exact drafted.erase place

/-! ## The write -/

/-- The first stage, with a private folder. -/
def Stage.secured (first : FileTree) (folder : Path) : Stage first :=
  (Stage.ready first folder).knowing fun tree =>
    tree.node? folder = some (.directory privateDirectoryMode)

end

/-! ## The write without faults -/

section

variable {tag : String} {faults : Nat → Option Fault} (calm : ∀ count, faults count = none)
include calm

end

/-! ## All or nothing -/

/-- The root is its own parent and no entry of any folder, so what is done to a parent is done to
it: a write to the root fails at its last step, and the root has become private all the same. -/
theorem private_write_to_root :
    FileTree.node? [] Path.root = some (.directory 0o755) ∧
      ∃ later, (writePrivate (FileTree.system "") Path.root "new").run.run [] =
          (.error (.busy ⟨["...tmp"]⟩ Path.root), later) ∧
        later.node? Path.root = some (.directory 0o700) := by
  have failed : ((writePrivate (FileTree.system "") Path.root "new").run.run []).1 =
      .error (.busy ⟨["...tmp"]⟩ Path.root) := by
    decide +kernel
  have secured : ((writePrivate (FileTree.system "") Path.root "new").run.run []).2.node?
      Path.root = some (.directory 0o700) := by
    decide +kernel
  exact ⟨rfl, _, Prod.ext failed rfl, secured⟩

end BlockQuery.Files
