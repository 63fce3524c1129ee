import BlockQuery.Command.Program
import BlockQuery.Files.FileTree
import BlockQuery.Proofs.Query.CompileErrors

/-!
# How showing a query ends

The command `parse` ends with 0 when it has shown a query, and with 1 when it has
reported why the text is not one.  It breaks off at a date that is out of range, and
as text also at an argument of the request whose day in local time cannot be found in
the calendar.
-/

namespace BlockQuery.Command

variable {m : Type → Type} [Monad m]

/-- The action has some effects and then ends in this way. -/
def Ends (action : Action m Unit) (ending : Ending) : Prop :=
  ∃ effects : m Unit, Program.ending action = (do effects; pure ending)

section

variable [LawfulMonad m]

theorem ends_pure : Ends (pure () : Action m Unit) (.exit 0) :=
  ⟨pure (), by simp [Program.ending]⟩

theorem ends_throw (ending : Ending) : Ends (throw ending : Action m Unit) ending :=
  ⟨pure (), by simp [Program.ending]⟩

theorem Ends.after {rest : Action m Unit} {ending : Ending} (ends : Ends rest ending)
    (effect : m Unit) : Ends (do (liftM effect : Action m Unit); rest) ending := by
  rcases ends with ⟨effects, same⟩
  refine ⟨do effect; effects, ?_⟩
  have first : (do (liftM effect : Action m Unit); rest).run = (do effect; rest.run) :=
    ExceptT.run_bind_lift effect fun _ => rest
  rw [Program.ending] at same ⊢
  rw [first, bind_assoc, bind_assoc]
  exact bind_congr fun _ => same

theorem ends_effect (effect : m Unit) : Ends (liftM effect : Action m Unit) (.exit 0) := by
  have ends := ends_pure.after effect
  rwa [bind_pure_unit] at ends

end

namespace ShowQuery

/-- The format and the text of a command line that asks for no help. -/
def accepted? (invocation : Invocation) (arguments : List String) : Option (Format × String) := do
  let specs := synopsis.options ++ [flag synopsis.help invocation.helpNames]
  let read ← (readArguments specs true arguments).toOption
  if read.options.any fun option => decide (option.1 = synopsis.help) then
    none
  else
    (requestOf read).toOption

/-- What the command does with a text. -/
def showSource (host : Host m) (presentation : Presentation) (format : Format) (source : String) :
    Action m Unit :=
  match preview host.clock source none, format with
  | .error error, _ => report host source error
  | .ok shown, .json => host.line .output (toJson shown).pretty
  | .ok shown, .text => showText host presentation shown

/-- Wherever the local clock is looked at to find the day of a timestamp, it shows a day of the
calendar. -/
def Paged (time : Calendar.LocalTime) (timestamp : Int) : Prop :=
  ∀ probe ∈ time.dateProbes (timestamp / 1000), Calendar.InCalendar (probe + time.ahead probe)

theorem exists_pageOf_iff {time : Calendar.LocalTime} {timestamp : Int} :
    (∃ page, pageOf time timestamp = .ok page) ↔ Paged time timestamp := by
  rw [Paged, ← Calendar.LocalTime.exists_date_iff, pageOf]
  simp only [map_eq_ok_iff]
  constructor
  · rintro ⟨_, date, found, -⟩
    exact ⟨date, found⟩
  · rintro ⟨date, found⟩
    exact ⟨_, date, found, rfl⟩

section

variable {invocation : Invocation} {arguments : List String} {format : Format} {source : String}

theorem exists_read_of_accepted
    (accepted : accepted? invocation arguments = some (format, source)) :
    ∃ read, readArguments (synopsis.options ++ [flag synopsis.help invocation.helpNames]) true
        arguments = .ok read ∧
      ¬ (read.options.any fun option => decide (option.1 = synopsis.help)) ∧
      requestOf read = .ok (format, source) := by
  obtain ⟨read, taken, asked⟩ := Option.bind_eq_some_iff.mp accepted
  split at asked
  · cases asked
  · next plain =>
    exact ⟨read, toOption_eq_some_iff.mp taken, plain, toOption_eq_some_iff.mp asked⟩

theorem run_of_accepted [LawfulMonad m] {host : Host m} {context : Context}
    (accepted : accepted? invocation arguments = some (format, source)) :
    run host context invocation arguments =
      showSource host context.presentation format source := by
  obtain ⟨read, taken, plain, asked⟩ := exists_read_of_accepted accepted
  rw [run, Host.readCommand]
  dsimp only
  rw [taken]
  simp only [Host.accept, pure_bind, if_neg plain, asked]
  rfl

end

/-! ## Endings -/

/-- The action reports that a query is invalid, and why, before it ends with 1. -/
def Reports (host : Host m) (message : String) (action : Action m Unit) : Prop :=
  ∃ rest, action = (do host.error s!"Invalid query: {message}"; rest) ∧ Ends rest (.exit 1)

section

variable [LawfulMonad m] (host : Host m)

theorem reports_of_isDocumented (source : String) {error : CompileError}
    (documented : error.isDocumented) : Reports host error.message (report host source error) := by
  cases error with
  | unreadable error => exact ⟨_, rfl, (ends_throw _).after _⟩
  | undated error =>
      cases error with
      | unreadable text => exact ⟨_, rfl, ends_throw _⟩
      | outOfRange cause => cases documented
  | unwritable error => cases documented

theorem printArguments_of_paged (index : Nat) {values : List Json}
    (paged : ∀ timestamp, .int timestamp ∈ values → Paged host.clock.localTime timestamp) :
    Ends (printArguments host index values) (.exit 0) := by
  induction values generalizing index with
  | nil => exact ends_pure
  | cons value values ih =>
      have rest := ih (index + 1) fun other later => paged other (List.mem_cons_of_mem _ later)
      unfold printArguments
      split
      · next none => cases none
      · next timestamp others same =>
        cases same
        obtain ⟨page, shown⟩ := exists_pageOf_iff.mpr (paged timestamp List.mem_cons_self)
        rw [shown]
        exact rest.after _
      · next other others _ same =>
        cases same
        exact rest.after _

theorem printArguments_of_not_paged (index : Nat) {values : List Json}
    (missing : ∃ timestamp, .int timestamp ∈ values ∧ ¬ Paged host.clock.localTime timestamp) :
    ∃ cause, Ends (printArguments host index values) (.crash (.range cause)) := by
  induction values generalizing index with
  | nil =>
      obtain ⟨_, member, -⟩ := missing
      cases member
  | cons value values ih =>
      obtain ⟨other, member, unpaged⟩ := missing
      have rest (later : .int other ∈ values) := ih (index + 1) ⟨other, later, unpaged⟩
      unfold printArguments
      split
      · next none => cases none
      · next timestamp others same =>
        cases same
        cases shown : pageOf host.clock.localTime timestamp with
        | error cause => exact ⟨cause, ends_throw _⟩
        | ok page =>
            rcases List.mem_cons.mp member with ⟨⟨⟩⟩ | later
            · exact absurd (exists_pageOf_iff.mp ⟨page, shown⟩) unpaged
            · obtain ⟨cause, ends⟩ := rest later
              exact ⟨cause, ends.after _⟩
      · next noStamp same =>
        cases same
        rcases List.mem_cons.mp member with rfl | later
        · exact absurd rfl (noStamp other)
        · obtain ⟨cause, ends⟩ := rest later
          exact ⟨cause, ends.after _⟩

theorem showText_of_paged (presentation : Presentation) {shown : Preview}
    (paged : ∀ timestamp, .int timestamp ∈ shown.request.arguments →
      Paged host.clock.localTime timestamp) :
    Ends (showText host presentation shown) (.exit 0) :=
  ((printArguments_of_paged host 0 paged).after _).after _

theorem showText_of_not_paged (presentation : Presentation) {shown : Preview}
    (missing : ∃ timestamp, .int timestamp ∈ shown.request.arguments ∧
      ¬ Paged host.clock.localTime timestamp) :
    ∃ cause, Ends (showText host presentation shown) (.crash (.range cause)) := by
  obtain ⟨cause, ends⟩ := printArguments_of_not_paged host 0 missing
  exact ⟨cause, (ends.after _).after _⟩

end

/-- Compiling fails with an error that callers know of, unless the first date of the text that
cannot be resolved is out of range, or all dates can be resolved and a number of the request has too
many digits.  The command asks for no numbers, and it breaks off at a date that is out of range.
Every other error is reported before the command ends with 1.  What can be compiled is shown before
it ends with 0, but as text only up to an argument that has no page. -/
theorem show_documented_unless_escapes (clock : Calendar.Clock) (source : String)
    (options : Option Datalog.RequestOptions) :
    ((∃ error, preview clock source options = .error error ∧ ¬ error.isDocumented) ↔
      Escapes clock source (options.getD {})) ∧
      ∀ (m : Type → Type) [Monad m] [LawfulMonad m] (host : Host m) (context : Context)
        (invocation : Invocation) (arguments : List String) (format : Format),
        host.clock = clock → accepted? invocation arguments = some (format, source) →
        (Escapes clock source {} →
          ∃ cause, Ends (run host context invocation arguments) (.crash (.range cause))) ∧
        (∀ error, preview clock source none = .error error → ¬ Escapes clock source {} →
          Reports host error.message (run host context invocation arguments)) ∧
        ∀ shown, preview clock source none = .ok shown →
          ((format = .json ∨ ∀ timestamp, .int timestamp ∈ shown.request.arguments →
              Paged clock.localTime timestamp) →
            Ends (run host context invocation arguments) (.exit 0)) ∧
          ((format = .text ∧ ∃ timestamp, .int timestamp ∈ shown.request.arguments ∧
              ¬ Paged clock.localTime timestamp) →
            ∃ cause, Ends (run host context invocation arguments) (.crash (.range cause))) := by
  refine ⟨exists_undocumented_iff, ?_⟩
  intro m _ _ host context invocation arguments format sameClock accepted
  subst sameClock
  rw [run_of_accepted accepted]
  refine ⟨?_, ?_, ?_⟩
  · rintro ⟨named, parsed, overruns | ⟨-, long⟩⟩
    · obtain ⟨cause, failed⟩ := exists_compile_outOfRange_iff.mpr ⟨named, parsed, overruns⟩
      unfold showSource
      rw [preview_eq_error_iff.mpr (.inl failed)]
      exact ⟨cause, ends_throw _⟩
    · exact absurd ⟨by simp, by simp⟩ long
  · intro error failed known
    have documented : error.isDocumented := by
      by_contra unknown
      exact known (exists_undocumented_iff.mp ⟨error, failed, unknown⟩)
    unfold showSource
    rw [failed]
    exact reports_of_isDocumented host source documented
  · intro shown ok
    unfold showSource
    rw [ok]
    cases format with
    | json =>
        refine ⟨fun _ => ends_effect _, ?_⟩
        rintro ⟨⟨⟩, -⟩
    | text =>
        refine ⟨?_, fun ⟨_, missing⟩ => showText_of_not_paged host _ missing⟩
        rintro (⟨⟨⟩⟩ | paged)
        exact showText_of_paged host _ paged

/-- A host at the start of a year. -/
def quietHost : Host (StateM Files.FileTree) where
  files := Files.FileTree.system ""
  around := { working := .root, home := .root, environment := fun _ => none }
  clock := Query.newYear
  isTerminal := false
  input := pure ""
  print _ _ := pure ()
  page _ := pure true
  transport _ := { post := fun _ _ => pure (.failed ""), sleep := fun delay => pure delay.check }

theorem show_documented_unless_escapes_distant :
    accepted? (.ofCommand "parse") [distantText] = some (.text, distantText) ∧
      Escapes quietHost.clock distantText {} ∧
      ∃ cause, Ends (run quietHost {} (.ofCommand "parse") [distantText])
        (.crash (.range cause)) := by
  have accepted : accepted? (.ofCommand "parse") [distantText] = some (.text, distantText) := by
    decide +kernel
  have escapes : Escapes quietHost.clock distantText {} := by
    obtain ⟨named, parsed, overruns⟩ := exists_compile_outOfRange_iff.mp ⟨_, compile_distantText⟩
    exact ⟨named, parsed, .inl overruns⟩
  have shown := (show_documented_unless_escapes quietHost.clock distantText none).2
    (StateM Files.FileTree) quietHost {} (.ofCommand "parse") [distantText] .text rfl accepted
  exact ⟨accepted, escapes, shown.1 escapes⟩

end ShowQuery

end BlockQuery.Command
