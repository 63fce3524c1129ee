import BlockQuery.Proofs.Files.WrittenFile

/-!
# File systems with faults

Any call on a file system may fail, for reasons that are not in its tree: a full disk, a
right that is missing, an interrupt.  Here a schedule says which calls do, and each call is
noted down with the tree that it leaves.  A call that fails changes nothing, apart from a
write, which may leave any text in its file.  Only removing a file always succeeds.
-/

namespace BlockQuery.Files

/-! ## Disturbed calls -/

/-- A failure that comes from outside. -/
structure Fault where
  error : FileError
  /-- What a failed write leaves in its file. -/
  left : String

/-- The calls on a file system. -/
inductive Call
  | look | read | makeDirectory | setMode | createTemporary | write | rename | remove

/-- A call that was made. -/
structure Event where
  call : Call
  failure : Option FileError
  /-- The tree behind the call. -/
  tree : FileTree

/-- A tree, with the calls that were made on it so far. -/
structure Watched where
  tree : FileTree
  log : List Event

/-- The state behind one more call. -/
def Watched.note (state : Watched) (call : Call) (failure : Option FileError) (tree : FileTree) :
    Watched :=
  ⟨tree, state.log ++ [⟨call, failure, tree⟩]⟩

/-- The result of an action and the tree behind it, if a fault may come in its place. -/
def outcome {α : Type} (fault : Option Fault) (damage : String → FileTree → FileTree)
    (action : ExceptT FileError (StateM FileTree) α) (tree : FileTree) :
    Except FileError α × FileTree :=
  match fault with
  | some fault => (.error fault.error, damage fault.left tree)
  | none => action.run.run tree

/-- Makes a call.  The number of calls made before tells whether it is due to fail. -/
def attempt {α : Type} (faults : Nat → Option Fault) (call : Call)
    (damage : String → FileTree → FileTree) (action : ExceptT FileError (StateM FileTree) α) :
    ExceptT FileError (StateM Watched) α :=
  ExceptT.mk fun state =>
    let ended := outcome (faults state.log.length) damage action state.tree
    (ended.1, state.note call (errorOf? ended.1) ended.2)

section

variable {α β : Type}

/-- A computation does on a watched tree what another one does on the tree alone. -/
def Follows (program : ExceptT FileError (StateM Watched) α)
    (plain : ExceptT FileError (StateM FileTree) α) : Prop :=
  ∀ state, plain.run.run state.tree = ((program.run.run state).1, (program.run.run state).2.tree)

namespace Follows

variable {program : ExceptT FileError (StateM Watched) α}
  {plain : ExceptT FileError (StateM FileTree) α}

theorem pure (value : α) : Follows (Pure.pure value) (Pure.pure value) :=
  fun _ => rfl

theorem throw (error : FileError) :
    Follows (MonadExcept.throw error : ExceptT FileError (StateM Watched) α)
      (MonadExcept.throw error) :=
  fun _ => rfl

theorem bind {next : α → ExceptT FileError (StateM Watched) β}
    {plainNext : α → ExceptT FileError (StateM FileTree) β} (first : Follows program plain)
    (rest : ∀ value, Follows (next value) (plainNext value)) :
    Follows (program >>= next) (plain >>= plainNext) := by
  intro state
  have followed := first state
  rcases run : program.run.run state with ⟨error | value, later⟩
  · rw [run] at followed
    rw [run_bind_of_error run, run_bind_of_error followed]
  · rw [run] at followed
    rw [run_bind_of_ok run, run_bind_of_ok followed]
    exact rest value later

theorem tryCatch {handle : FileError → ExceptT FileError (StateM Watched) α}
    {plainHandle : FileError → ExceptT FileError (StateM FileTree) α}
    (first : Follows program plain)
    (handled : ∀ error, Follows (handle error) (plainHandle error)) :
    Follows (MonadExcept.tryCatch program handle) (MonadExcept.tryCatch plain plainHandle) := by
  intro state
  have followed := first state
  rcases run : program.run.run state with ⟨error | value, later⟩
  · rw [run] at followed
    rw [run_tryCatch_of_error run, run_tryCatch_of_error followed]
    exact handled error later
  · rw [run] at followed
    rw [run_tryCatch_of_ok run, run_tryCatch_of_ok followed]

end Follows

end

/-! ## Assertions -/

/-- The files of a tree are private, apart from those that are in the first tree as well. -/
def Guarded (first tree : FileTree) : Prop :=
  ∀ place mode text, tree.node? place = some (.file mode text) →
    first.node? place = some (.file mode text) ∨ mode = privateFileMode

/-- What is known of the tree at a stage of a computation that started with the first tree. -/
structure Stage (first : FileTree) where
  holds : FileTree → Prop
  guarded {tree : FileTree} : holds tree → Guarded first tree

namespace Stage

variable {first : FileTree}

/-- A stage at which more is known. -/
def knowing (stage : Stage first) (more : FileTree → Prop) : Stage first where
  holds tree := stage.holds tree ∧ more tree
  guarded both := stage.guarded both.1

/-- One of many stages. -/
def any {α : Type} (stages : α → Stage first) : Stage first where
  holds tree := ∃ a, (stages a).holds tree
  guarded := fun ⟨a, holds⟩ => (stages a).guarded holds

end Stage

namespace Watched

/-- All trees that have been there are guarded. -/
def Guards (first : FileTree) (state : Watched) : Prop :=
  ∀ event ∈ state.log, Guarded first event.tree

/-- A call has failed with an error. -/
def Told (error : FileError) (state : Watched) : Prop :=
  ∃ event ∈ state.log, event.failure = some error

/-- No call has failed, apart from the creation of directories. -/
def IsSmooth (state : Watched) : Prop :=
  ∀ event ∈ state.log, event.failure ≠ none → event.call = .makeDirectory

section

variable {first tree : FileTree} {state : Watched} {call : Call} {failure : Option FileError}
  {error : FileError}

theorem Guards.note (guards : state.Guards first) (guarded : Guarded first tree) :
    (state.note call failure tree).Guards first := by
  rw [Guards, Watched.note, List.forall_mem_append, List.forall_mem_singleton]
  exact ⟨guards, guarded⟩

theorem Told.note (told : state.Told error) : (state.note call failure tree).Told error := by
  obtain ⟨event, logged, failed⟩ := told
  exact ⟨event, List.mem_append_left _ logged, failed⟩

theorem IsSmooth.note (smooth : state.IsSmooth) (fine : failure ≠ none → call = .makeDirectory) :
    (state.note call failure tree).IsSmooth := by
  rw [IsSmooth, Watched.note, List.forall_mem_append, List.forall_mem_singleton]
  exact ⟨smooth, fine⟩

end

end Watched

/-- A computation is under way at a stage, and the errors have come up on its way. -/
structure Going {first : FileTree} (errors : List FileError) (stage : Stage first)
    (state : Watched) : Prop where
  now : stage.holds state.tree
  guards : state.Guards first
  smooth : state.IsSmooth
  told : ∀ error ∈ errors, state.Told error

/-- A computation has failed at a stage, with the error of one of its calls. -/
structure Halted {first : FileTree} (stage : Stage first) (error : FileError)
    (state : Watched) : Prop where
  now : stage.holds state.tree
  guards : state.Guards first
  told : state.Told error

section

variable {first tree : FileTree} {errors : List FileError} {stage next : Stage first}
  {state : Watched} {error : FileError}

theorem Going.mono (going : Going errors stage state)
    (implies : ∀ tree, stage.holds tree → next.holds tree) : Going [] next state :=
  ⟨implies _ going.now, going.guards, going.smooth, List.forall_mem_nil _⟩

theorem Going.halted (going : Going (error :: errors) stage state) : Halted stage error state :=
  ⟨going.now, going.guards, going.told error List.mem_cons_self⟩

theorem Halted.mono (halted : Halted stage error state)
    (implies : ∀ tree, stage.holds tree → next.holds tree) : Halted next error state :=
  ⟨implies _ halted.now, halted.guards, halted.told⟩

theorem Going.note (going : Going errors stage state) (holds : next.holds tree) (call : Call) :
    Going errors next (state.note call none tree) :=
  ⟨holds, going.guards.note (next.guarded holds), going.smooth.note fun failed => absurd rfl failed,
    fun error listed => (going.told error listed).note⟩

theorem Halted.note (halted : Halted stage error state) (holds : next.holds tree) (call : Call) :
    Halted next error (state.note call none tree) :=
  ⟨holds, halted.guards.note (next.guarded holds), halted.told.note⟩

end

/-! ## Contracts of calls -/

section

variable {α : Type} {first : FileTree} {tag : String} {faults : Nat → Option Fault}
  {errors : List FileError} {stage : Stage first} {path : Path}

end

end BlockQuery.Files
