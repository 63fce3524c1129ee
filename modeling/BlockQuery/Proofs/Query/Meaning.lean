import BlockQuery.Proofs.Datalog.Expression
import BlockQuery.Proofs.Query.Quotation

/-!
# The meaning of queries

`Query.Matches` says which blocks of a database a query is about, without a word
about variables or forms.  The compiled forms express it: for given dates, and
with the subject bound to a block, they can be solved exactly if the query matches
the block.

The induction over the query needs to know which variables the forms around a
query have bound.  A disjunction hands only the subject to its branches, so a text
search or a date window below it would miss the variables that it compares.
-/

namespace BlockQuery.Query

open Datalog

/-- The block refers to an entity that has the text under the key. -/
def RefersTo (db : Database) (block : Nat) (key : Attribute) (text : String) : Prop :=
  ∃ target, db.Has target key (.text text) ∧ db.Has block .blockRefs (.entity target)

/-- The user under the key of the block has the name. -/
def UserIs (db : Database) (block : Nat) (key : Attribute) (user : String) : Prop :=
  ∃ person, db.Has block key (.entity person) ∧ db.Has person .displayName (.text user)

/-- The block was created at a time between two others. -/
def CreatedWithin (db : Database) (block : Nat) (first last : Int) : Prop :=
  ∃ time, db.Has block .createTime (.number time) ∧ first ≤ time ∧ time ≤ last

/-- The text of the block contains another text. -/
def Contains (db : Database) (block : Nat) (part : String) : Prop :=
  ∃ text, db.Has block .blockString (.text text) ∧ part.toList <:+: text.toList

/-- The page of the block is a daily page. -/
def OnDailyPage (db : Database) (block : Nat) : Prop :=
  ∃ page title, db.Has block .blockPage (.entity page) ∧ db.Has page .nodeTitle (.text title) ∧
    db.finds dailyTitlePattern title

mutual

/-- The block is one that the query is about. -/
def Matches (db : Database) (clock : Calendar.Clock) (block : Nat) : Query → Prop
  | tag title => RefersTo db block .nodeTitle title
  | blockRef uid => RefersTo db block .blockUid uid
  | all children => MatchesAll db clock block children
  | any children => MatchesAny db clock block children
  | not child => ¬ Matches db clock block child
  | between start finish => ∃ first last, Calendar.resolve clock start = .ok first ∧
      Calendar.resolve clock finish = .ok last ∧
      CreatedWithin db block first (Calendar.endOfDay last)
  | search text => Contains db block text
  | dailyNotes => OnDailyPage db block
  | touchedBy user => UserIs db block .createUser user ∨ UserIs db block .editUser user
  | createdBy user => UserIs db block .createUser user
  | editedBy user => UserIs db block .editUser user

/-- The block is one that each of several queries is about. -/
def MatchesAll (db : Database) (clock : Calendar.Clock) (block : Nat) : List Query → Prop
  | [] => True
  | child :: children => Matches db clock block child ∧ MatchesAll db clock block children

/-- The block is one that some of several queries is about. -/
def MatchesAny (db : Database) (clock : Calendar.Clock) (block : Nat) : List Query → Prop
  | [] => False
  | child :: children => Matches db clock block child ∨ MatchesAny db clock block children

end

mutual

/-- Whether text searches and date windows stand only where the variables around
the query can be used; below a disjunction they cannot. -/
def isScoped (around : Bool) : Query → Bool
  | search _ | between .. => around
  | all children => isScopedEach around children
  | any children => isScopedEach false children
  | not child => isScoped around child
  | _ => true

/-- Whether this is so in each of several queries. -/
def isScopedEach (around : Bool) : List Query → Bool
  | [] => true
  | child :: children => isScoped around child && isScopedEach around children

end

/-! ## Leaves -/

section

variable {db : Database} {given : Bindings} {block : Nat}

/-- Variables that are no references have no numbers to keep apart. -/
theorem noRefs {vars : List Var} (none : ∀ v ∈ vars, v.refIndex? = none) {low high : Nat} :
    ∀ v ∈ vars, ∀ index, v.refIndex? = some index → low ≤ index ∧ index < high := by
  intro v inVars index indexed
  rw [none v inVars] at indexed
  cases indexed

theorem expresses_reference {target : Var} {low : Nat} (isRef : target.refIndex? = some low)
    (key : Attribute) (text : String) :
    Expresses db given block [] low (low + 1) (referenceForms target key text)
      (RefersTo db block key text) := by
  have notSubject : Var.subject ≠ target := by
    rintro rfl
    cases isRef
  apply Expresses.of_rows [.subject, target]
    fun id => [(.subject, .entity block), (target, .entity id)]
  · exact fun _ => rfl
  · simpa using notSubject
  · intro v
    simp [referenceForms, Form.bindersEach, Form.binders, Term.vars]
    tauto
  · intro v inVars index indexed
    simp only [List.mem_cons, List.not_mem_nil, or_false] at inVars
    rcases inVars with rfl | rfl
    · cases indexed
    · cases isRef.symm.trans indexed
      exact ⟨Nat.le_refl low, Nat.lt_succ_self low⟩
  · intro id _
    refine ⟨rfl, ?_⟩
    cases target with
    | pageRef index | blockRef index => exact True.intro
    | _ => cases isRef
  · intro bindings supply
    constructor
    · rintro ⟨⟨id, _, targetBound, value, named⟩, refers, _⟩
      cases value
      rcases (Form.holds_fact_iff supply.subject).mp refers with ⟨x, same, refers⟩
      cases same.symm.trans targetBound
      exact ⟨id, ⟨named, refers⟩, supply.subject, targetBound⟩
    · rintro ⟨id, ⟨named, refers⟩, subject, targetBound⟩
      exact ⟨⟨id, _, targetBound, rfl, named⟩, ⟨block, _, subject, targetBound, refers⟩, trivial⟩

theorem expresses_user {key : Attribute} {person : Var} (noRef : person.refIndex? = none)
    (denotes : ∀ x, person.Denotes db given block x ↔ db.Has block key x)
    (notSubject : Var.subject ≠ person) (user : String) (low : Nat) :
    Expresses db given block [] low low (userForms key person user)
      (UserIs db block key user) := by
  apply Expresses.of_rows [.subject, person]
    fun id => [(.subject, .entity block), (person, .entity id)]
  · exact fun _ => rfl
  · simpa using notSubject
  · intro v
    simp [userForms, Form.bindersEach, Form.binders, Term.vars]
  · intro v inVars index indexed
    simp only [List.mem_cons, List.not_mem_nil, or_false] at inVars
    rcases inVars with rfl | rfl
    · cases indexed
    · cases noRef.symm.trans indexed
  · rintro id ⟨has, _⟩
    exact ⟨rfl, (denotes _).mpr has⟩
  · intro bindings supply
    constructor
    · rintro ⟨has, ⟨id, _, personBound, value, named⟩, _⟩
      cases value
      rcases (Form.holds_fact_iff supply.subject).mp has with ⟨x, same, has⟩
      cases same.symm.trans personBound
      exact ⟨id, ⟨has, named⟩, supply.subject, personBound⟩
    · rintro ⟨id, ⟨has, named⟩, subject, personBound⟩
      exact ⟨⟨block, _, subject, personBound, has⟩, ⟨id, _, personBound, rfl, named⟩, trivial⟩

theorem expresses_daily (low : Nat) :
    Expresses db given block [] low low dailyForms (OnDailyPage db block) := by
  have rows : Expresses db given block [] low low dailyForms
      (∃ row : Nat × String, db.Has block .blockPage (.entity row.1) ∧
        db.Has row.1 .nodeTitle (.text row.2) ∧ db.finds dailyTitlePattern row.2) := by
    apply Expresses.of_rows [.subject, .dailyPage, .dailyTitle] fun row : Nat × String =>
      [(.subject, .entity block), (.dailyPage, .entity row.1), (.dailyTitle, .text row.2)]
    · exact fun _ => rfl
    · decide
    · intro v
      simp [dailyForms, Form.bindersEach, Form.binders, Term.vars]
    · exact noRefs (by decide)
    · rintro ⟨page, title⟩ ⟨onPage, titled, _⟩
      exact ⟨rfl, onPage, page, onPage, titled⟩
    · intro bindings supply
      constructor
      · rintro ⟨onPage, ⟨page, _, pageBound, titleBound, titled⟩, ⟨title, textBound, found⟩, _⟩
        rcases (Form.holds_fact_iff supply.subject).mp onPage with ⟨x, same, onPage⟩
        cases same.symm.trans pageBound
        cases titleBound.symm.trans textBound
        exact ⟨(page, title), ⟨onPage, titled, found⟩, supply.subject, pageBound, textBound⟩
      · rintro ⟨⟨page, title⟩, ⟨onPage, titled, found⟩, subject, pageBound, titleBound⟩
        exact ⟨⟨block, _, subject, pageBound, onPage⟩, ⟨page, _, pageBound, titleBound, titled⟩,
          ⟨title, titleBound, found⟩, trivial⟩
  exact rows.congr Prod.exists

theorem expresses_window {start finish : Var} {first last : Int}
    (startGiven : ∀ x, start.Denotes db given block x → x = .number first)
    (finishGiven : ∀ x, finish.Denotes db given block x → x = .number last) (low : Nat) :
    Expresses db given block [start, finish] low low (windowForms start finish)
      (CreatedWithin db block first last) := by
  apply Expresses.of_rows [.subject, .createTime] fun time =>
    [(.subject, .entity block), (.createTime, .number time)]
  · exact fun _ => rfl
  · decide
  · intro v
    simp [windowForms, Form.bindersEach, Form.binders, Term.vars]
  · exact noRefs (by decide)
  · rintro time ⟨created, _⟩
    exact ⟨rfl, created⟩
  · intro bindings supply
    rcases supply.needs start (by simp) with ⟨x, startBound, denotes⟩
    cases startGiven x denotes
    rcases supply.needs finish (by simp) with ⟨x, finishBound, denotes⟩
    cases finishGiven x denotes
    constructor
    · rintro ⟨created, ⟨time, m, timeBound, bound, after⟩, ⟨other, n, otherBound, limit, before⟩, _⟩
      rcases (Form.holds_fact_iff supply.subject).mp created with ⟨x, same, created⟩
      cases same.symm.trans timeBound
      cases otherBound.symm.trans timeBound
      cases bound.symm.trans startBound
      cases limit.symm.trans finishBound
      exact ⟨time, ⟨created, after, before⟩, supply.subject, timeBound⟩
    · rintro ⟨time, ⟨created, after, before⟩, subject, timeBound⟩
      exact ⟨⟨block, _, subject, timeBound, created⟩, ⟨time, first, timeBound, startBound, after⟩,
        ⟨time, last, timeBound, finishBound, before⟩, trivial⟩

theorem expresses_search (single : db.SingleValued) (part : String) (low : Nat) :
    Expresses db given block [.blockText] low low [.includes .blockText part]
      (Contains db block part) := by
  apply Expresses.of_iff
  · intro v inBinders
    cases inBinders
  · intro bindings suit
    rcases suit.supply.needs .blockText (by simp) with ⟨x, textBound, has⟩
    constructor
    · rintro ⟨⟨text, bound, includes⟩, _⟩
      cases textBound.symm.trans bound
      exact ⟨text, has, includes⟩
    · rintro ⟨text, hasText, includes⟩
      cases single .blockString (by decide) block _ _ has hasText
      exact ⟨⟨text, textBound, includes⟩, trivial⟩

/-- One user variable for each of the two branches. -/
theorem expresses_either (single : db.SingleValued) (user : String) (low : Nat) :
    Expresses db given block [] low low
      [.orJoin [.and (userForms .createUser .eitherCreator user),
        .and (userForms .editUser .eitherEditor user)]]
      (UserIs db block .createUser user ∨ UserIs db block .editUser user) := by
  have created : Expresses db given block [] low low
      (userForms .createUser .eitherCreator user) (UserIs db block .createUser user) :=
    expresses_user rfl (fun _ => Iff.rfl) (by decide) user low
  have edited : Expresses db given block [] low low
      (userForms .editUser .eitherEditor user) (UserIs db block .editUser user) :=
    expresses_user rfl (fun _ => Iff.rfl) (by decide) user low
  apply Expresses.disjunction
    [userForms .createUser .eitherCreator user, userForms .editUser .eitherEditor user]
  intro bindings suit
  rw [List.exists_mem_cons_iff, List.exists_mem_cons_iff, created.solvable_iff single suit,
    edited.solvable_iff single suit]
  simp

/-! ## Compiled queries -/

/-- The variables that conditions need from outside. -/
def needs (around : Bool) (inputs : List (Var × Int)) : List Var :=
  if around then .blockText :: inputs.map Prod.fst else []

theorem needs_mono (around : Bool) {inputs more : List (Var × Int)} (fewer : inputs ⊆ more) :
    ∀ v ∈ needs around inputs, v ∈ needs around more := by
  intro v inNeeds
  cases around with
  | false => exact inNeeds
  | true =>
      rcases List.mem_cons.mp inNeeds with rfl | inInputs
      · exact List.mem_cons_self
      · exact List.mem_cons_of_mem _ (List.map_subset _ fewer inInputs)

/-- Every input has its value. -/
def Given (given : Bindings) (inputs : List (Var × Int)) : Prop :=
  ∀ input ∈ inputs, given input.1 = some (.number input.2)

/-- The conditions of a query express its meaning. -/
theorem expresses_conditions (single : db.SingleValued) (clock : Calendar.Clock) :
    Compiles clock
      (fun refs _ query conditions => ∀ around, query.isScoped around →
        Given given conditions.inputs →
        Expresses db given block (needs around conditions.inputs) refs (refs + query.refCount)
          conditions.forms (query.Matches db clock block))
      (fun refs _ children parts => ∀ around, isScopedEach around children →
        Given given (parts.flatMap Conditions.inputs) →
        Expresses db given block (needs around (parts.flatMap Conditions.inputs)) refs
            (refs + refCountEach children) (parts.flatMap Conditions.forms)
            (MatchesAll db clock block children) ∧
          (around = false → ∀ bindings : Bindings,
            bindings.Suit db given block [] refs (refs + refCountEach children) [] →
            ((∃ part ∈ parts.map Conditions.forms, ∃ after, Form.Solve db bindings part after) ↔
              MatchesAny db clock block children))) where
  tag refs _ title _ _ _ := (expresses_reference rfl .nodeTitle title).anywhere
  blockRef refs _ uid _ _ _ := (expresses_reference rfl .blockUid uid).anywhere
  all refs _ children parts each around inScope isGiven := (each around inScope isGiven).1
  any refs _ children parts each around inScope isGiven := by
    have solvable := (each false inScope isGiven).2 rfl
    have whole := Expresses.disjunction (parts.map Conditions.forms) solvable
    rw [List.map_map] at whole
    exact whole.anywhere
  not refs _ child conditions inner around inScope isGiven :=
    (inner around inScope isGiven).negation single
  between refs dates start finish first last firstOk lastOk around inScope isGiven := by
    cases inScope
    have startGiven : given (.startDate dates) = some (.number first) :=
      isGiven (.startDate dates, first) (by simp)
    have finishGiven : given (.endDate (dates + 1)) = some (.number (Calendar.endOfDay last)) :=
      isGiven (.endDate (dates + 1), Calendar.endOfDay last) (by simp)
    have leaf : Expresses db given block [.startDate dates, .endDate (dates + 1)] refs refs
        (windowForms (.startDate dates) (.endDate (dates + 1)))
        (CreatedWithin db block first (Calendar.endOfDay last)) := by
      apply expresses_window
      · intro x denotes
        exact Option.some.inj (Eq.trans (Eq.symm denotes) startGiven)
      · intro x denotes
        exact Option.some.inj (Eq.trans (Eq.symm denotes) finishGiven)
    have needed : ∀ v ∈ [Var.startDate dates, .endDate (dates + 1)],
        v ∈ needs true
          [(.startDate dates, first), (.endDate (dates + 1), Calendar.endOfDay last)] :=
      fun v inNeeded => List.mem_cons_of_mem _ inNeeded
    apply (leaf.mono needed (Nat.le_refl refs) (Nat.le_refl refs)).congr
    rw [Matches]
    constructor
    · intro created
      exact ⟨first, last, firstOk, lastOk, created⟩
    · rintro ⟨_, _, startOk, finishOk, created⟩
      cases firstOk.symm.trans startOk
      cases lastOk.symm.trans finishOk
      exact created
  search refs _ text around inScope _ := by
    cases inScope
    exact expresses_search single text refs
  dailyNotes refs _ _ _ _ := (expresses_daily refs).anywhere
  touchedBy refs _ user _ _ _ := (expresses_either single user refs).anywhere
  createdBy refs _ user _ _ _ :=
    (expresses_user rfl (fun _ => Iff.rfl) (by decide) user refs).anywhere
  editedBy refs _ user _ _ _ :=
    (expresses_user rfl (fun _ => Iff.rfl) (by decide) user refs).anywhere
  nil refs _ _ _ _ := by
    refine ⟨Expresses.nil.anywhere, ?_⟩
    intro _ bindings _
    simp [MatchesAny]
  cons refs dates child children conditions parts first rest around inScope isGiven := by
    rw [isScopedEach, Bool.and_eq_true] at inScope
    rw [List.flatMap_cons, Given, List.forall_mem_append] at isGiven
    have leftExpresses := first around inScope.1 isGiven.1
    rcases rest around inScope.2 isGiven.2 with ⟨rightExpresses, solvable⟩
    rw [refCountEach, ← Nat.add_assoc, List.flatMap_cons, List.flatMap_cons]
    have below : refs ≤ refs + child.refCount := Nat.le_add_right _ _
    have above : refs + child.refCount ≤ refs + child.refCount + refCountEach children :=
      Nat.le_add_right _ _
    constructor
    · have left := leftExpresses.mono
        (needs_mono around (List.subset_append_left _ (parts.flatMap Conditions.inputs)))
        (Nat.le_refl _) (Nat.le_refl _)
      have right := rightExpresses.mono
        (needs_mono around (List.subset_append_right conditions.inputs _))
        (Nat.le_refl _) (Nat.le_refl _)
      exact left.append single right (fun _ => Or.inl) below above
    · rintro rfl bindings suit
      have leftSuit := suit.mono suit.bound (Nat.le_refl _) above
      have rightSuit := suit.mono suit.bound below (Nat.le_refl _)
      rw [List.map_cons, List.exists_mem_cons_iff, leftExpresses.solvable_iff single leftSuit,
        solvable rfl bindings rightSuit, MatchesAny]

end

end BlockQuery.Query
