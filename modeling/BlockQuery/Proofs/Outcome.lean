/-!
# Results that may fail

When a computation in `Except` succeeds, so did every computation it is made of.
When it fails, then with the error of the first of these that does.  The same holds
of computations that also have a state, which then goes from each to the next.
-/

namespace BlockQuery

/-- A mapped result is a result that was mapped. -/
theorem map_eq_ok_iff {ε α β : Type} {f : α → β} {result : Except ε α} {b : β} :
    result.map f = .ok b ↔ ∃ a, result = .ok a ∧ f a = b := by
  cases result with
  | error e => simp [Except.map]
  | ok a => simp [Except.map]

theorem ok_bind {ε α β : Type} (a : α) (next : α → Except ε β) :
    (Except.ok a >>= next) = next a :=
  rfl

theorem error_bind_ne_ok {ε α β : Type} (e : ε) (next : α → Except ε β) (b : β) :
    (Except.error e >>= next) ≠ .ok b := by
  intro same
  cases same

/-- A chained result goes through a first result. -/
theorem bind_eq_ok_iff {ε α β : Type} {result : Except ε α} {next : α → Except ε β} {b : β} :
    result >>= next = .ok b ↔ ∃ a, result = .ok a ∧ next a = .ok b := by
  cases result with
  | error e => simp [bind, Except.bind]
  | ok a => simp [bind, Except.bind]

/-- A chained result fails at the first or at the second result. -/
theorem bind_eq_error_iff {ε α β : Type} {result : Except ε α} {next : α → Except ε β} {e : ε} :
    result >>= next = .error e ↔
      result = .error e ∨ ∃ a, result = .ok a ∧ next a = .error e := by
  cases result with
  | error d => simp [bind, Except.bind]
  | ok a => simp [bind, Except.bind]

/-- A result is not changed by what becomes of errors. -/
theorem mapError_eq_ok_iff {ε δ α : Type} {f : ε → δ} {result : Except ε α} {a : α} :
    result.mapError f = .ok a ↔ result = .ok a := by
  constructor
  · intro same
    cases result with
    | error e => cases same
    | ok b =>
        cases same
        rfl
  · rintro rfl
    rfl

/-- An error that was translated. -/
theorem mapError_eq_error_iff {ε δ α : Type} {f : ε → δ} {result : Except ε α} {d : δ} :
    result.mapError f = .error d ↔ ∃ e, result = .error e ∧ f e = d := by
  constructor
  · intro same
    cases result with
    | error e =>
        cases same
        exact ⟨e, rfl, rfl⟩
    | ok a => cases same
  · rintro ⟨e, rfl, rfl⟩
    rfl

theorem toOption_eq_some_iff {ε α : Type} {result : Except ε α} {a : α} :
    result.toOption = some a ↔ result = .ok a := by
  cases result with
  | error e => exact ⟨nofun, nofun⟩
  | ok b =>
      constructor
      · rintro ⟨⟩
        rfl
      · rintro ⟨⟩
        rfl

/-- The error of a result, if it has one. -/
def errorOf? {ε α : Type} : Except ε α → Option ε
  | .error e => some e
  | .ok _ => none

theorem errorOf?_eq_some_iff {ε α : Type} {result : Except ε α} {e : ε} :
    errorOf? result = some e ↔ result = .error e := by
  cases result with
  | error d => simp [errorOf?]
  | ok a => simp [errorOf?]

theorem errorOf?_eq_none_iff {ε α : Type} {result : Except ε α} :
    errorOf? result = none ↔ ∃ a, result = .ok a := by
  cases result with
  | error d => simp [errorOf?]
  | ok a => simp [errorOf?]

/-- A result that is no value is an error. -/
theorem exists_error_iff {ε α : Type} {result : Except ε α} :
    (∃ e, result = .error e) ↔ ¬ ∃ a, result = .ok a := by
  cases result with
  | error d => simp
  | ok a => simp

theorem errorOf?_map {ε α β : Type} (f : α → β) (result : Except ε α) :
    errorOf? (result.map f) = errorOf? result := by
  cases result with
  | error e => rfl
  | ok a => rfl

/-! ## Computations with a state -/

section

variable {ε δ α β σ : Type}

theorem run_bind_of_ok {first : ExceptT ε (StateM σ) α} {state later : σ} {value : α}
    (ended : first.run.run state = (.ok value, later)) (next : α → ExceptT ε (StateM σ) β) :
    (first >>= next).run.run state = (next value).run.run later := by
  change (ExceptT.bindCont next (first.run.run state).1).run (first.run.run state).2 = _
  rw [ended]
  rfl

theorem run_bind_of_error {first : ExceptT ε (StateM σ) α} {state later : σ} {error : ε}
    (ended : first.run.run state = (.error error, later)) (next : α → ExceptT ε (StateM σ) β) :
    (first >>= next).run.run state = (.error error, later) := by
  change (ExceptT.bindCont next (first.run.run state).1).run (first.run.run state).2 = _
  rw [ended]
  rfl

theorem run_run_adapt (f : ε → δ) (computation : ExceptT ε (StateM σ) α) (state : σ) :
    (computation.adapt f).run.run state =
      ((computation.run.run state).1.mapError f, (computation.run.run state).2) :=
  rfl

/-- A chained computation that succeeds goes through a first result. -/
theorem exists_of_run_bind {first : ExceptT ε (StateM σ) α}
    {next : α → ExceptT ε (StateM σ) β} {state final : σ} {result : β}
    (ended : (first >>= next).run.run state = (.ok result, final)) :
    ∃ value later, first.run.run state = (.ok value, later) ∧
      (next value).run.run later = (.ok result, final) := by
  rcases start : first.run.run state with ⟨error | value, later⟩
  · rw [run_bind_of_error start] at ended
    cases ended
  · rw [run_bind_of_ok start] at ended
    exact ⟨value, later, rfl, ended⟩

theorem exists_of_run_bind_ok {first : ExceptT ε (StateM σ) α}
    {next : α → ExceptT ε (StateM σ) β} {state : σ} {result : β}
    (ended : ((first >>= next).run.run state).1 = .ok result) :
    ∃ value later, ((next value).run.run later).1 = .ok result := by
  obtain ⟨value, later, -, rest⟩ := exists_of_run_bind (Prod.ext ended rfl)
  exact ⟨value, later, congrArg Prod.fst rest⟩

section

variable {first : ExceptT ε (StateM σ) α} {handle : ε → ExceptT ε (StateM σ) α}
  {state later final : σ}

theorem run_tryCatch (first : ExceptT ε (StateM σ) α) (handle : ε → ExceptT ε (StateM σ) α)
    (state : σ) :
    (tryCatch first handle).run.run state =
      (tryCatch (ExceptT.mk (pure (first.run.run state).1)) handle :
        ExceptT ε (StateM σ) α).run.run (first.run.run state).2 :=
  rfl

theorem run_tryCatch_of_ok {value : α} (ended : first.run.run state = (.ok value, later)) :
    (tryCatch first handle).run.run state = (.ok value, later) := by
  rw [run_tryCatch, ended]
  rfl

theorem run_tryCatch_of_error {error : ε} (ended : first.run.run state = (.error error, later)) :
    (tryCatch first handle).run.run state = (handle error).run.run later := by
  rw [run_tryCatch, ended]
  rfl

/-- A guarded computation that succeeds did so itself, or what follows its error did. -/
theorem exists_of_run_tryCatch {result : α}
    (ended : (tryCatch first handle).run.run state = (.ok result, final)) :
    first.run.run state = (.ok result, final) ∨
      ∃ error later, first.run.run state = (.error error, later) ∧
        (handle error).run.run later = (.ok result, final) := by
  rcases start : first.run.run state with ⟨error | value, later⟩
  · rw [run_tryCatch_of_error start] at ended
    exact .inr ⟨error, later, rfl, ended⟩
  · rw [run_tryCatch_of_ok start] at ended
    exact .inl ended

end

end

/-! ## Contracts -/

section

variable {ε α β σ : Type}

/-- What a computation comes to from every state that `pre` holds of: `post` holds of the state
behind it if it succeeds, and `failed` if it fails. -/
def Ensures (pre : σ → Prop) (program : ExceptT ε (StateM σ) α) (post : α → σ → Prop)
    (failed : ε → σ → Prop) : Prop :=
  ∀ state, pre state →
    match program.run.run state with
    | (.ok value, later) => post value later
    | (.error error, later) => failed error later

namespace Ensures

variable {pre : σ → Prop} {program : ExceptT ε (StateM σ) α} {post : α → σ → Prop}
  {failed : ε → σ → Prop}

theorem pure {value : α} (ends : ∀ state, pre state → post value state) :
    Ensures pre (Pure.pure value) post failed :=
  ends

theorem throw {error : ε} (ends : ∀ state, pre state → failed error state) :
    Ensures pre (MonadExcept.throw error) post failed :=
  ends

theorem lift {action : StateM σ α}
    (ends : ∀ state, pre state → post (action.run state).1 (action.run state).2) :
    Ensures pre (liftM action) post failed :=
  ends

theorem bind {middle : α → σ → Prop} {next : α → ExceptT ε (StateM σ) β} {last : β → σ → Prop}
    (first : Ensures pre program middle failed)
    (rest : ∀ value, Ensures (middle value) (next value) last failed) :
    Ensures pre (program >>= next) last failed := by
  intro state holds
  have ended := first state holds
  rcases run : program.run.run state with ⟨error | value, later⟩
  · rw [run] at ended
    rw [run_bind_of_error run]
    exact ended
  · rw [run] at ended
    rw [run_bind_of_ok run]
    exact rest value later ended

theorem tryCatch {caught : ε → σ → Prop} {handle : ε → ExceptT ε (StateM σ) α}
    (first : Ensures pre program post caught)
    (handled : ∀ error, Ensures (caught error) (handle error) post failed) :
    Ensures pre (MonadExcept.tryCatch program handle) post failed := by
  intro state holds
  have ended := first state holds
  rcases run : program.run.run state with ⟨error | value, later⟩
  · rw [run] at ended
    rw [run_tryCatch_of_error run]
    exact handled error later ended
  · rw [run] at ended
    rw [run_tryCatch_of_ok run]
    exact ended

end Ensures

end

end BlockQuery
