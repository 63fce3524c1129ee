import BlockQuery.Proofs.Datalog.Answer
import BlockQuery.Proofs.Query.Meaning
import Mathlib.Data.List.Nodup

/-!
# What requests select

A find request is a text.  Its sections are read back as variables and forms, and
its inputs are bound in the order of its arguments.  Read in this way, it selects
exactly the blocks that have a text, an identifier and a page with a title, are on
the page that the request is restricted to, and are matched by the query.
-/

namespace BlockQuery.Query

open Datalog

/-! ## Inputs -/

/-- The number of a date. -/
def dateIndex? : Var → Option Nat
  | .startDate index | .endDate index => some index
  | _ => none

/-- The inputs of a query are its dates, numbered from left to right. -/
theorem dateIndex?_inputs (clock : Calendar.Clock) :
    Compiles clock
      (fun _ dates query conditions => conditions.inputs.map (fun input => dateIndex? input.1) =
        (List.range' dates query.dateCount).map some)
      (fun _ dates children parts =>
        (parts.flatMap Conditions.inputs).map (fun input => dateIndex? input.1) =
          (List.range' dates (dateCountEach children)).map some) where
  tag _ _ _ := rfl
  blockRef _ _ _ := rfl
  all _ _ _ _ each := each
  any _ _ _ _ each := each
  not _ _ _ _ inner := inner
  between _ _ _ _ _ _ _ _ := rfl
  search _ _ _ := rfl
  dailyNotes _ _ := rfl
  touchedBy _ _ _ := rfl
  createdBy _ _ _ := rfl
  editedBy _ _ _ := rfl
  nil _ _ := rfl
  cons _ dates child children conditions parts first rest := by
    rw [List.flatMap_cons, List.map_append, first, rest, dateCountEach, ← List.map_append,
      List.range'_append_1]

/-- The inputs of a request with their values. -/
def givenPairs (inputs : List (Var × Int)) (scope : Option String) : List (Var × Value) :=
  inputs.map (fun input => (input.1, .number input.2)) ++
    scope.toList.map fun uid => (.targetPage, .text uid)

theorem pairInputs_givenPairs (conditions : Conditions) (pageUid : Option String) :
    pairInputs (inputVars (conditions.inputs.map Prod.fst) pageUid)
        (conditions.clauses.arguments pageUid) =
      some (givenPairs conditions.inputs (pageScope pageUid)) := by
  have scope : pairInputs (if (pageScope pageUid).isSome then [.targetPage] else [])
      ((pageScope pageUid).toList.map Json.str) =
        some ((pageScope pageUid).toList.map fun uid => (.targetPage, .text uid)) := by
    cases pageScope pageUid <;> rfl
  exact pairInputs_numbers conditions.inputs scope

section

variable {clock : Calendar.Clock} {query : Query} {conditions : Conditions}

/-- Every input of a compiled query is a date. -/
theorem isSome_dateIndex? (ok : query.conditions clock = .ok conditions) {input : Var × Int}
    (inInputs : input ∈ conditions.inputs) : (dateIndex? input.1).isSome := by
  have indices := (dateIndex?_inputs clock).holds query ok
  have inIndices := List.mem_map_of_mem (f := fun input => dateIndex? input.1) inInputs
  rw [indices, List.mem_map] at inIndices
  rcases inIndices with ⟨index, _, same⟩
  rw [← same]
  rfl

theorem map_fst_givenPairs (inputs : List (Var × Int)) (pageUid : Option String) :
    (givenPairs inputs (pageScope pageUid)).map Prod.fst =
      inputVars (inputs.map Prod.fst) pageUid := by
  rw [givenPairs, inputVars, List.map_append, List.map_map, List.map_map]
  cases pageScope pageUid <;> rfl

/-- The dates of a query are different variables. -/
theorem nodup_inputs (ok : query.conditions clock = .ok conditions) :
    (conditions.inputs.map Prod.fst).Nodup := by
  have indices := (dateIndex?_inputs clock).holds query ok
  apply List.Nodup.of_map dateIndex?
  rw [List.map_map]
  exact indices ▸ List.Nodup.map (fun _ _ => Option.some.inj) List.nodup_range'

/-- No input is given twice. -/
theorem nodup_givenPairs (ok : query.conditions clock = .ok conditions)
    (pageUid : Option String) :
    ((givenPairs conditions.inputs (pageScope pageUid)).map Prod.fst).Nodup := by
  have dates := nodup_inputs ok
  have noPage : .targetPage ∉ conditions.inputs.map Prod.fst := by
    intro inInputs
    rcases List.mem_map.mp inInputs with ⟨input, inInputs, same⟩
    have isDate := isSome_dateIndex? ok inInputs
    rw [same] at isDate
    cases isDate
  rw [map_fst_givenPairs, inputVars]
  split
  · rw [← List.concat_eq_append, List.nodup_concat]
    exact ⟨noPage, dates⟩
  · rw [List.append_nil]
    exact dates

/-! ## Listed blocks -/

/-- The block has a text, an identifier and a page with a title; if there is a
restriction to one page, this is the page. -/
def Listed (db : Database) (block : Nat) (scope : Option String) : Prop :=
  (∃ x, db.Has block .blockString x) ∧ (∃ x, db.Has block .blockUid x) ∧
    ∃ page, db.Has block .blockPage (.entity page) ∧ (∃ x, db.Has page .nodeTitle x) ∧
      ∀ uid ∈ scope, db.Has page .blockUid (.text uid)

/-- The forms of every find request. -/
def listedForms : List Form :=
  baseForms ++ [pageTitleForm]

variable {db : Database} {given : Bindings} {block : Nat}

/-- What a block needs to be listed, as one row. -/
structure ListedRow where
  text : Value
  uid : Value
  page : Nat
  title : Value

/-- The row holds of the block. -/
structure ListedRow.Valid (row : ListedRow) (db : Database) (block : Nat) : Prop where
  text : db.Has block .blockString row.text
  uid : db.Has block .blockUid row.uid
  page : db.Has block .blockPage (.entity row.page)
  title : db.Has row.page .nodeTitle row.title

theorem expresses_listed :
    Expresses db given block [] 0 0 listedForms (∃ row : ListedRow, row.Valid db block) := by
  apply Expresses.of_rows [.subject, .blockText, .blockUid, .page, .pageTitle]
    fun row : ListedRow => [(.subject, .entity block), (.blockText, row.text),
      (.blockUid, row.uid), (.page, .entity row.page), (.pageTitle, row.title)]
  · exact fun _ => rfl
  · decide
  · intro v
    simp [listedForms, baseForms, pageTitleForm, Form.bindersEach, Form.binders, Term.vars]
    tauto
  · exact noRefs (by decide)
  · intro row valid
    exact ⟨rfl, valid.text, valid.uid, valid.page, row.page, valid.page, valid.title⟩
  · intro bindings supply
    constructor
    · rintro ⟨hasText, hasUid, onPage, ⟨page, title, pageBound, titleBound, titled⟩, _⟩
      rcases (Form.holds_fact_iff supply.subject).mp hasText with ⟨text, textBound, hasText⟩
      rcases (Form.holds_fact_iff supply.subject).mp hasUid with ⟨uid, uidBound, hasUid⟩
      rcases (Form.holds_fact_iff supply.subject).mp onPage with ⟨x, same, onPage⟩
      cases same.symm.trans pageBound
      exact ⟨⟨text, uid, page, title⟩, ⟨hasText, hasUid, onPage, titled⟩, supply.subject,
        textBound, uidBound, pageBound, titleBound⟩
    · rintro ⟨row, valid, subject, textBound, uidBound, pageBound, titleBound⟩
      exact ⟨⟨block, _, subject, textBound, valid.text⟩, ⟨block, _, subject, uidBound, valid.uid⟩,
        ⟨block, _, subject, pageBound, valid.page⟩,
        ⟨row.page, _, pageBound, titleBound, valid.title⟩, trivial⟩

/-- The page of the block has the identifier. -/
def OnPage (db : Database) (block : Nat) (uid : String) : Prop :=
  ∃ page, db.Has block .blockPage (.entity page) ∧ db.Has page .blockUid (.text uid)

theorem expresses_page {uid : String} (isGiven : given .targetPage = some (.text uid)) :
    Expresses db given block [.page, .targetPage] 0 0 [pageScopeForm] (OnPage db block uid) := by
  apply Expresses.of_rows [.page, .targetPage] fun page =>
    [(.page, .entity page), (.targetPage, .text uid)]
  · exact fun _ => rfl
  · decide
  · intro v
    simp [pageScopeForm, Form.bindersEach, Form.binders, Term.vars]
  · exact noRefs (by decide)
  · rintro page ⟨onPage, _⟩
    exact ⟨onPage, isGiven⟩
  · intro bindings supply
    rcases supply.needs .page (by simp) with ⟨x, pageBound, onPage⟩
    rcases supply.needs .targetPage (by simp) with ⟨y, uidBound, denotes⟩
    cases Option.some.inj (Eq.trans (Eq.symm denotes) isGiven)
    constructor
    · rintro ⟨⟨page, z, same, bound, has⟩, _⟩
      cases pageBound.symm.trans same
      cases uidBound.symm.trans bound
      exact ⟨page, ⟨onPage, has⟩, pageBound, uidBound⟩
    · rintro ⟨page, ⟨_, has⟩, pageBound, uidBound⟩
      exact ⟨⟨page, _, pageBound, uidBound, has⟩, trivial⟩

/-- The restriction of a request expresses that the block is on the page. -/
theorem expresses_scope {scope : Option String}
    (isGiven : ∀ uid ∈ scope, given .targetPage = some (.text uid)) :
    Expresses db given block (if scope.isSome then [.page, .targetPage] else []) 0 0
      (if scope.isSome then [pageScopeForm] else []) (∀ uid ∈ scope, OnPage db block uid) := by
  cases scope with
  | none => exact Expresses.nil.congr (by simp)
  | some uid => exact (expresses_page (isGiven uid rfl)).congr (by simp)

theorem listed_iff (single : db.SingleValued) (scope : Option String) :
    ((∃ row : ListedRow, row.Valid db block) ∧ ∀ uid ∈ scope, OnPage db block uid) ↔
      Listed db block scope := by
  constructor
  · rintro ⟨⟨row, valid⟩, onPage⟩
    refine ⟨⟨_, valid.text⟩, ⟨_, valid.uid⟩, row.page, valid.page, ⟨_, valid.title⟩, ?_⟩
    intro uid inScope
    rcases onPage uid inScope with ⟨page, onPage, has⟩
    cases single .blockPage (by decide) block _ _ onPage valid.page
    exact has
  · rintro ⟨⟨text, hasText⟩, ⟨uid, hasUid⟩, page, onPage, ⟨title, titled⟩, hasScope⟩
    refine ⟨⟨⟨text, uid, page, title⟩, hasText, hasUid, onPage, titled⟩, ?_⟩
    intro uid inScope
    exact ⟨page, onPage, hasScope uid inScope⟩

/-- The conditions of a find request express that the block is listed and that
the query matches it. -/
theorem expresses_findForms (single : db.SingleValued)
    (ok : query.conditions clock = .ok conditions) (inScope : query.isScoped true)
    (pageUid : Option String) (datesGiven : Given given conditions.inputs)
    (pageGiven : ∀ uid ∈ pageScope pageUid, given .targetPage = some (.text uid)) :
    Expresses db given block (inputVars (conditions.inputs.map Prod.fst) pageUid) 0 query.refCount
      (findForms pageUid conditions.forms)
      (Listed db block (pageScope pageUid) ∧ query.Matches db clock block) := by
  have compiled : Expresses db given block (needs true conditions.inputs) 0 (0 + query.refCount)
      conditions.forms (query.Matches db clock block) :=
    (expresses_conditions single clock).holds query ok true inScope datesGiven
  rw [Nat.zero_add] at compiled
  have listed : Expresses db given block (inputVars (conditions.inputs.map Prod.fst) pageUid) 0 0
      (listedForms ++ scopeForms pageUid) (Listed db block (pageScope pageUid)) := by
    apply (expresses_listed.anywhere.append single (expresses_scope pageGiven) ?_ (Nat.le_refl 0)
      (Nat.le_refl 0)).congr (listed_iff single _)
    intro v inNeeded
    split at inNeeded
    · next restricted =>
        rw [inputVars, if_pos restricted]
        rcases List.mem_cons.mp inNeeded with rfl | inTarget
        · exact .inr (by decide)
        · exact .inl (List.mem_append_right _ inTarget)
    · cases inNeeded
  apply listed.append single compiled ?_ (Nat.zero_le 0) (Nat.zero_le _)
  intro v inNeeds
  rcases List.mem_cons.mp inNeeds with rfl | inInputs
  · rw [Form.bindersEach_append]
    exact .inr (List.mem_append_left _ (by decide))
  · exact .inl (List.mem_append_left _ inInputs)

/-! ## Answers -/

/-- The values of a request's inputs. -/
def givenBindings (conditions : Conditions) (pageUid : Option String) : Bindings :=
  .ofPairs (givenPairs conditions.inputs (pageScope pageUid))

theorem isInput_of_givenBindings (ok : query.conditions clock = .ok conditions)
    {pageUid : Option String} {v : Var} {x : Value}
    (bound : givenBindings conditions pageUid v = some x) :
    (dateIndex? v).isSome ∨ v = .targetPage := by
  have inPairs := Bindings.mem_of_ofPairs bound
  rcases List.mem_append.mp inPairs with inDates | inScope
  · rcases List.mem_map.mp inDates with ⟨input, inInputs, same⟩
    cases same
    exact .inl (isSome_dateIndex? ok inInputs)
  · rcases List.mem_map.mp inScope with ⟨uid, _, same⟩
    cases same
    exact .inr rfl

/-- The inputs together with the block suit the conditions of a find request. -/
theorem suit_givenBindings (ok : query.conditions clock = .ok conditions)
    (pageUid : Option String) (block low high : Nat) :
    ((givenBindings conditions pageUid).set .subject (.entity block)).Suit db
      (givenBindings conditions pageUid) block (inputVars (conditions.inputs.map Prod.fst) pageUid)
      low high [] where
  subject := if_pos rfl
  denotes v x bound := by
    rw [Bindings.set] at bound
    split at bound
    · next same =>
        cases same
        exact (Option.some.inj bound).symm
    · have isInput := isInput_of_givenBindings ok bound
      cases v with
      | startDate _ | endDate _ | targetPage => exact bound
      | _ => simp [dateIndex?] at isInput
  bound v inVars := by
    rw [← map_fst_givenPairs, ← Bindings.isSome_ofPairs] at inVars
    rw [Bindings.set]
    split
    · rfl
    · exact inVars
  fresh v index isRef _ _ isBound := by
    rw [Bindings.set] at isBound
    split at isBound
    · next same =>
        cases same
        cases isRef
    · rcases Option.isSome_iff_exists.mp isBound with ⟨x, bound⟩
      have isInput := isInput_of_givenBindings ok bound
      cases v with
      | pageRef _ | blockRef _ => simp [dateIndex?] at isInput
      | _ => cases isRef

/-- A find request is made unless one of its numbers is too long.  It selects the blocks that it
lists and that its query matches, and nothing else. -/
theorem find_selects_iff_matches (single : db.SingleValued)
    (ok : query.conditions clock = .ok conditions) (inScope : query.isScoped true)
    {options : RequestOptions} (readable : options.OrderReadable) :
    conditions.clauses.MakesRequest options defaultSelection fun request =>
      ∀ x, request.Selects db x ↔
        ∃ block, x = .entity block ∧ Listed db block (pageScope options.pageUid) ∧
          query.Matches db clock block := by
  refine Clauses.makesRequest_of fun x => ?_
  have distinct := nodup_givenPairs ok options.pageUid
  have datesGiven : Given (givenBindings conditions options.pageUid) conditions.inputs := by
    intro input inInputs
    apply Bindings.ofPairs_of_mem distinct
    exact List.mem_append_left _ (List.mem_map.mpr ⟨input, inInputs, rfl⟩)
  have pageGiven : ∀ uid ∈ pageScope options.pageUid,
      givenBindings conditions options.pageUid .targetPage = some (.text uid) := by
    intro uid scope
    apply Bindings.ofPairs_of_mem distinct
    exact List.mem_append_right _ (List.mem_map.mpr ⟨uid, by simpa using scope, rfl⟩)
  have subjectFree : givenBindings conditions options.pageUid .subject = none := by
    rw [Option.eq_none_iff_forall_ne_some]
    intro y bound
    rcases isInput_of_givenBindings ok bound with isDate | isPage
    · cases isDate
    · cases isPage
  have subjectBinds : .subject ∈ Form.bindersEach (findForms options.pageUid conditions.forms) :=
    List.mem_cons_self
  have solvable : ∀ block, (∃ after, Form.Solve db
      ((givenBindings conditions options.pageUid).set .subject (.entity block))
        (findForms options.pageUid conditions.forms) after) ↔
      Listed db block (pageScope options.pageUid) ∧ query.Matches db clock block := by
    intro block
    have expresses : Expresses db _ block _ 0 _ _ _ :=
      expresses_findForms single ok inScope options.pageUid datesGiven pageGiven
    exact expresses.solvable_iff single (suit_givenBindings ok options.pageUid block 0 _)
  rcases readSection_conditions conditions readable with ⟨inputs, forms⟩
  rw [Request.selects_iff inputs forms (pairInputs_givenPairs conditions options.pageUid)]
  constructor
  · rintro ⟨after, solved, subject⟩
    rcases solved.2.1 with ⟨block, _, entity, _⟩
    cases subject.symm.trans entity
    refine ⟨block, rfl, (solvable block).mp ⟨after, ?_⟩⟩
    exact (Form.solve_set_iff subjectBinds subjectFree).mpr ⟨solved, subject⟩
  · rintro ⟨block, rfl, holds⟩
    rcases (solvable block).mpr holds with ⟨after, solved⟩
    exact ⟨after, (Form.solve_set_iff subjectBinds subjectFree).mp solved⟩

/-- Two notes of a daily page: one refers to a page, the other to nothing. -/
def dailyPageNotes : Database where
  facts :=
    [⟨1, ":block/string", .text "buy milk"⟩, ⟨1, ":block/uid", .text "b1"⟩,
     ⟨1, ":block/page", .entity 3⟩, ⟨1, ":block/refs", .entity 4⟩,
     ⟨1, ":create/time", .number 1767225600001⟩, ⟨1, ":create/user", .entity 5⟩,
     ⟨2, ":block/string", .text "milk"⟩, ⟨2, ":block/uid", .text "b2"⟩,
     ⟨2, ":block/page", .entity 3⟩,
     ⟨3, ":node/title", .text "January 1st, 2026"⟩, ⟨3, ":block/uid", .text "01-01-2026"⟩,
     ⟨4, ":node/title", .text "shop"⟩, ⟨5, ":user/display-name", .text "Ann"⟩]
  finds _ title := title = "January 1st, 2026"

/-- Of the two notes, the request selects the one that matches. -/
theorem find_selects_iff_matches_dailyPageNotes :
    ∃ conditions,
      (all [tag "shop", search "milk", between "today" "today",
        not (any [createdBy "Bob", not dailyNotes])]).conditions newYear = .ok conditions ∧
      ∃ request,
        conditions.clauses.find ⟨some 5, 0, some defaultOrder, some "01-01-2026"⟩
          defaultSelection = .ok request ∧
        request.Selects dailyPageNotes (.entity 1) ∧
        ¬ request.Selects dailyPageNotes (.entity 2) := by
  have single : dailyPageNotes.SingleValued := Database.singleValued_of_facts (by decide)
  have today : Calendar.resolve newYear "today" = .ok 1767225600000 := by decide +kernel
  have compiled : ∃ conditions, (all [tag "shop", search "milk", between "today" "today",
      not (any [createdBy "Bob", not dailyNotes])]).conditions newYear = .ok conditions := by
    simp only [conditions, conditionsFrom, conditionsEach, today]
    exact ⟨_, rfl⟩
  have readable : (⟨some 5, 0, some defaultOrder, some "01-01-2026"⟩ :
      RequestOptions).OrderReadable := orderReadable_default (by decide)
  rcases compiled with ⟨conditions, ok⟩
  obtain ⟨request, made, selects⟩ := (find_selects_iff_matches single ok rfl readable).made
    (RequestOptions.writable_of_small (by decide) (by decide) _ _)
  refine ⟨conditions, ok, request, made, ?_, ?_⟩
  · rw [selects]
    have listed : Listed dailyPageNotes 1 (some "01-01-2026") := by
      refine ⟨⟨.text "buy milk", by decide⟩, ⟨.text "b1", by decide⟩, 3, by decide,
        ⟨.text "January 1st, 2026", by decide⟩, ?_⟩
      rintro _ ⟨⟩
      decide
    have contains : Contains dailyPageNotes 1 "milk" :=
      ⟨"buy milk", by decide, "buy ".toList, [], rfl⟩
    have created : CreatedWithin dailyPageNotes 1 1767225600000
        (Calendar.endOfDay 1767225600000) := ⟨1767225600001, by decide, by decide, by decide⟩
    refine ⟨1, rfl, listed, ⟨4, by decide, by decide⟩, contains,
      ⟨_, _, today, today, created⟩, ?_, trivial⟩
    rintro (⟨person, created, named⟩ | notDaily | none)
    · simp [Database.Has, dailyPageNotes, Attribute.name] at named
    · exact notDaily ⟨3, "January 1st, 2026", by decide, by decide, rfl⟩
    · exact none
  · rw [selects]
    rintro ⟨block, same, _, ⟨target, _, refers⟩, _⟩
    cases same
    revert refers
    simp [Database.Has, dailyPageNotes, Attribute.name]

end

end BlockQuery.Query
