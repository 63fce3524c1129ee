import BlockQuery.Proofs.Query.Leaves

/-!
# Dates as inputs

The dates of a query are resolved from left to right, the start of a window before
its end.  The first date that cannot be resolved decides the error of the whole
query.  If all of them can be resolved, every window has two inputs, one for each
of its dates, and the values of these are all that the clock and the texts of the
dates decide.
-/

namespace BlockQuery.Query

open Datalog

/-- The date windows of a query, from left to right. -/
def windows (query : Query) : List (String × String) :=
  query.leaves.filterMap window?

/-- The texts of the dates of several windows, from left to right. -/
def dateTexts (windows : List (String × String)) : List String :=
  windows.flatMap fun window => [window.1, window.2]

theorem length_filterMap_window? (leaves : List Query) :
    (leaves.filterMap window?).length = leaves.countP isWindow :=
  List.length_filterMap_eq_countP

/-! ## The first error -/

/-- The error of the first date that cannot be resolved. -/
def firstDateError? (clock : Calendar.Clock) (texts : List String) :
    Option Calendar.DateError :=
  texts.findSome? fun text => errorOf? (Calendar.resolve clock text)

/-- The dates of leaves one after the other. -/
theorem firstDateError?_append (clock : Calendar.Clock) (first second : List Query) :
    firstDateError? clock (dateTexts ((first ++ second).filterMap window?)) =
      (firstDateError? clock (dateTexts (first.filterMap window?))).or
        (firstDateError? clock (dateTexts (second.filterMap window?))) := by
  rw [List.filterMap_append, dateTexts, List.flatMap_append, firstDateError?,
    List.findSome?_append]
  rfl

mutual

/-- A query has the error of the first of its dates that has one. -/
theorem errorOf?_conditionsFrom (clock : Calendar.Clock) (query : Query) (refs dates : Nat) :
    errorOf? (query.conditionsFrom clock refs dates) =
      firstDateError? clock (dateTexts query.windows) := by
  cases query with
  | all children | any children =>
      rw [conditionsFrom, errorOf?_map, errorOf?_conditionsEach]
      rfl
  | not child =>
      rw [conditionsFrom, errorOf?_map, errorOf?_conditionsFrom]
      rfl
  | between start finish =>
      change _ = List.findSome? _ [start, finish]
      rw [conditionsFrom, List.findSome?_cons, List.findSome?_cons, List.findSome?_nil]
      cases Calendar.resolve clock start with
      | error e => rfl
      | ok first =>
          cases Calendar.resolve clock finish with
          | error e => rfl
          | ok last => rfl
  | _ => rfl

/-- Several queries have the error of the first of their dates that has one. -/
theorem errorOf?_conditionsEach (clock : Calendar.Clock) (children : List Query)
    (refs dates : Nat) :
    errorOf? (conditionsEach clock refs dates children) =
      firstDateError? clock (dateTexts ((leavesEach children).filterMap window?)) := by
  cases children with
  | nil => rfl
  | cons child children =>
      have first := errorOf?_conditionsFrom clock child refs dates
      have others := errorOf?_conditionsEach clock children (refs + child.refCount)
        (dates + child.dateCount)
      rw [conditionsEach, leavesEach, firstDateError?_append, ← windows, ← first, ← others]
      cases child.conditionsFrom clock refs dates with
      | error e => rfl
      | ok conditions =>
          cases conditionsEach clock (refs + child.refCount) (dates + child.dateCount) children with
          | error e => rfl
          | ok parts => rfl

end

/-! ## Inputs -/

/-- The inputs of conditions are written by the names of their variables. -/
theorem inputs_clauses (conditions : Conditions) :
    conditions.clauses.inputs = (conditions.inputs.map Prod.fst).map Var.name := by
  rw [List.map_map]
  rfl

/-- Every window has an input for each of its dates, numbered from `number` on, with the
time that the date denotes; the second one counts up to the end of its day. -/
inductive WindowInputs (clock : Calendar.Clock) :
    Nat → List (String × String) → List (Var × Int) → Prop
  | nil (number : Nat) : WindowInputs clock number [] []
  | cons {number : Nat} {start finish : String} {first last : Int}
      {windows : List (String × String)} {inputs : List (Var × Int)} :
      Calendar.resolve clock start = .ok first → Calendar.resolve clock finish = .ok last →
      WindowInputs clock (number + 2) windows inputs →
      WindowInputs clock number ((start, finish) :: windows)
        ((.startDate number, first) :: (.endDate (number + 1), Calendar.endOfDay last) :: inputs)

namespace WindowInputs

variable {clock : Calendar.Clock} {number : Nat} {windows : List (String × String)}
  {inputs : List (Var × Int)}

theorem length_inputs (dated : WindowInputs clock number windows inputs) :
    inputs.length = 2 * windows.length := by
  induction dated with
  | nil number => rfl
  | cons _ _ _ ih => rw [List.length_cons, List.length_cons, ih, List.length_cons, Nat.mul_succ]

theorem append {others : List (String × String)} {more : List (Var × Int)}
    (dated : WindowInputs clock number windows inputs)
    (behind : WindowInputs clock (number + 2 * windows.length) others more) :
    WindowInputs clock number (windows ++ others) (inputs ++ more) := by
  induction dated with
  | nil number => exact behind
  | cons firstOk lastOk _ ih =>
      apply WindowInputs.cons firstOk lastOk
      apply ih
      rw [List.length_cons, Nat.mul_succ] at behind
      rwa [Nat.add_assoc, Nat.add_comm 2]

/-- The two inputs of a window. -/
theorem getElem?_inputs (dated : WindowInputs clock number windows inputs) {place : Nat}
    {start finish : String} (found : windows[place]? = some (start, finish)) :
    ∃ first last, Calendar.resolve clock start = .ok first ∧
      Calendar.resolve clock finish = .ok last ∧
      inputs[2 * place]? = some (.startDate (number + 2 * place), first) ∧
      inputs[2 * place + 1]? =
        some (.endDate (number + 2 * place + 1), Calendar.endOfDay last) := by
  induction dated generalizing place with
  | nil number => cases found
  | @cons number start finish first last windows inputs firstOk lastOk rest ih =>
      cases place with
      | zero =>
          cases found
          exact ⟨first, last, firstOk, lastOk, rfl, rfl⟩
      | succ place =>
          have shifted := ih found
          rwa [Nat.add_assoc, Nat.add_comm 2] at shifted

/-- Only the times that the dates denote decide the inputs of two runs over as many
windows. -/
theorem two_runs {other : Calendar.Clock} {others : List (String × String)}
    {more : List (Var × Int)} (dated : WindowInputs clock number windows inputs)
    (also : WindowInputs other number others more) (same : windows.length = others.length) :
    inputs.map Prod.fst = more.map Prod.fst ∧
      ∀ place : Nat, inputs[place]? ≠ more[place]? →
        ∃ text changed, (dateTexts windows)[place]? = some text ∧
          (dateTexts others)[place]? = some changed ∧
          Calendar.resolve clock text ≠ Calendar.resolve other changed := by
  induction dated generalizing others more with
  | nil number =>
      cases also with
      | nil => exact ⟨rfl, fun place differ => absurd rfl differ⟩
      | cons => cases same
  | @cons number start finish first last windows inputs firstOk lastOk rest ih =>
      cases also with
      | nil => cases same
      | @cons _ begin stop early late others more earlyOk lateOk restAlso =>
          rcases ih restAlso (Nat.succ.inj same) with ⟨names, differing⟩
          refine ⟨by rw [List.map_cons, List.map_cons, names]; rfl, ?_⟩
          intro place differ
          match place with
          | 0 =>
              refine ⟨start, begin, rfl, rfl, ?_⟩
              rintro agree
              apply differ
              rw [firstOk, earlyOk] at agree
              cases agree
              rfl
          | 1 =>
              refine ⟨finish, stop, rfl, rfl, ?_⟩
              rintro agree
              apply differ
              rw [lastOk, lateOk] at agree
              cases agree
              rfl
          | place + 2 => exact differing place differ

end WindowInputs

/-- The inputs of a query are those of its date windows. -/
theorem windowInputs_conditions (clock : Calendar.Clock) :
    Compiles clock
      (fun _ dates query conditions => WindowInputs clock dates query.windows conditions.inputs)
      (fun _ dates children parts =>
        WindowInputs clock dates ((leavesEach children).filterMap window?)
          (parts.flatMap Conditions.inputs)) where
  tag _ dates _ := .nil dates
  blockRef _ dates _ := .nil dates
  all _ _ _ _ each := each
  any _ _ _ _ each := each
  not _ _ _ _ inner := inner
  between _ dates _ _ _ _ firstOk lastOk := .cons firstOk lastOk (.nil _)
  search _ dates _ := .nil dates
  dailyNotes _ dates := .nil dates
  touchedBy _ dates _ := .nil dates
  createdBy _ dates _ := .nil dates
  editedBy _ dates _ := .nil dates
  nil _ dates := .nil dates
  cons _ dates child children conditions parts first rest := by
    rw [leavesEach, List.filterMap_append, List.flatMap_cons]
    apply first.append
    rwa [dateCount_eq_countP, ← length_filterMap_window?] at rest

/-- A date that can be resolved, for closed instances. -/
theorem resolve_today_newYear : Calendar.resolve newYear "today" = .ok 1767225600000 := by
  decide +kernel

end BlockQuery.Query
