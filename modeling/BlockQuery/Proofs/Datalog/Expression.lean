import BlockQuery.Proofs.Datalog.Satisfaction
import Mathlib.Data.List.Basic

/-!
# Forms that express a property of a block

Different leaves of a query use the same helper variables, and forms under a
negation see every variable of the forms around them.  This is harmless because
a helper variable can take only one value once the block is fixed: the creator
of the block, the title of its page.  Only the variables of references may take
several values, and these are numbered apart.

`Expresses` makes this precise.  Forms express a property of a block when they
hold of suitable bindings exactly if the block has the property, for bindings
that may hold anything else that is true of the block.  Conjunction, negation
and disjunction of forms then express those of the properties.
-/

namespace BlockQuery.Datalog

/-- The number of a reference. -/
def Var.refIndex? : Var → Option Nat
  | pageRef index | blockRef index => some index
  | _ => none

/-- The value that a variable may take once the block is fixed. Inputs have the
values that are given to them; references are free. -/
def Var.Denotes (db : Database) (given : Bindings) (block : Nat) (v : Var) (x : Value) : Prop :=
  match v with
  | subject => x = .entity block
  | blockText => db.Has block .blockString x
  | blockUid => db.Has block .blockUid x
  | page | dailyPage => db.Has block .blockPage x
  | pageTitle | dailyTitle =>
    ∃ page, db.Has block .blockPage (.entity page) ∧ db.Has page .nodeTitle x
  | createTime => db.Has block .createTime x
  | creator | eitherCreator => db.Has block .createUser x
  | editor | eitherEditor => db.Has block .editUser x
  | pageRef _ | blockRef _ => True
  | targetPage | startDate _ | endDate _ => given v = some x

/-- A variable other than a reference takes one value only. -/
theorem Var.Denotes.unique {db : Database} {given : Bindings} {block : Nat} {v : Var}
    {x y : Value} (single : db.SingleValued) (noRef : v.refIndex? = none)
    (first : v.Denotes db given block x) (second : v.Denotes db given block y) : x = y := by
  cases v with
  | subject => exact first.trans second.symm
  | pageRef index | blockRef index => cases noRef
  | pageTitle | dailyTitle =>
      rcases first with ⟨page, onPage, titled⟩
      rcases second with ⟨other, onOther, otherTitled⟩
      have samePage := single .blockPage (by decide) block _ _ onPage onOther
      cases samePage
      exact single .nodeTitle (by decide) page _ _ titled otherTitled
  | targetPage | startDate _ | endDate _ => exact Option.some.inj (first.symm.trans second)
  | blockText => exact single .blockString (by decide) block _ _ first second
  | blockUid => exact single .blockUid (by decide) block _ _ first second
  | page | dailyPage => exact single .blockPage (by decide) block _ _ first second
  | createTime => exact single .createTime (by decide) block _ _ first second
  | creator | eitherCreator => exact single .createUser (by decide) block _ _ first second
  | editor | eitherEditor => exact single .editUser (by decide) block _ _ first second

/-- The block is the subject, and every needed variable has a value that it may
take. -/
structure Bindings.Supply (bindings : Bindings) (db : Database) (given : Bindings)
    (block : Nat) (needed : List Var) : Prop where
  subject : bindings .subject = some (.entity block)
  needs : ∀ v ∈ needed, ∃ x, bindings v = some x ∧ v.Denotes db given block x

/-- The bindings suit a part of a query: the block is the subject, every value is
true of it, the needed variables are bound, and of the references from `low` to
below `high` only the given ones are. -/
structure Bindings.Suit (bindings : Bindings) (db : Database) (given : Bindings) (block : Nat)
    (needed : List Var) (low high : Nat) (vars : List Var) : Prop where
  subject : bindings .subject = some (.entity block)
  denotes : ∀ v x, bindings v = some x → v.Denotes db given block x
  bound : ∀ v ∈ needed, (bindings v).isSome
  fresh : ∀ v index, v.refIndex? = some index → low ≤ index → index < high →
    (bindings v).isSome → v ∈ vars

/-- The forms express the property of the block. They use the references from
`low` to below `high` and need the variables in `needed` from outside. -/
structure Expresses (db : Database) (given : Bindings) (block : Nat) (needed : List Var)
    (low high : Nat) (forms : List Form) (property : Prop) : Prop where
  /-- The references that the forms bind have their own numbers. -/
  range : ∀ v ∈ Form.bindersEach forms, ∀ index, v.refIndex? = some index →
    low ≤ index ∧ index < high
  /-- What the forms bind is true of the block. -/
  denotes : ∀ bindings : Bindings, bindings.Supply db given block needed →
    Form.HoldEach db bindings forms → ∀ v ∈ Form.bindersEach forms,
    ∀ x, bindings v = some x → v.Denotes db given block x
  /-- The forms hold only of blocks with the property. -/
  sound : ∀ bindings : Bindings,
    bindings.Suit db given block needed low high (Form.bindersEach forms) →
    Form.HoldEach db bindings forms → property
  /-- A block with the property has values for what the forms bind, and the forms
  hold of all bindings that have these values. -/
  complete : property → ∃ values : Bindings,
    (∀ v, (values v).isSome ↔ v ∈ Form.bindersEach forms) ∧
    (∀ v x, values v = some x → v.Denotes db given block x) ∧
    ∀ bindings : Bindings,
      bindings.Suit db given block needed low high (Form.bindersEach forms) →
      values.Within bindings → Form.HoldEach db bindings forms

section

variable {db : Database} {given : Bindings} {block : Nat}

/-- Values that are true of the same block agree, references apart. -/
theorem Bindings.within_orElse_right (single : db.SingleValued) {left right : Bindings}
    (leftDenotes : ∀ v x, left v = some x → v.Denotes db given block x)
    (rightDenotes : ∀ v x, right v = some x → v.Denotes db given block x)
    (apart : ∀ v, (left v).isSome → (right v).isSome → v.refIndex? = none) :
    right.Within (left.orElse right) := by
  intro v x bound
  cases before : left v with
  | none => rw [Bindings.orElse, before, Option.none_or, bound]
  | some y =>
      have noRef := apart v (Option.isSome_of_mem before) (Option.isSome_of_mem bound)
      have same := Var.Denotes.unique single noRef (leftDenotes v y before)
        (rightDenotes v x bound)
      rw [Bindings.orElse, before, Option.some_or, same]

/-- Bindings with more values supply what is needed as well. -/
theorem Bindings.Supply.extend {bindings after : Bindings} {needed : List Var}
    (supply : bindings.Supply db given block needed) (within : bindings.Within after) :
    after.Supply db given block needed where
  subject := within _ _ supply.subject
  needs v inNeeded := by
    rcases supply.needs v inNeeded with ⟨x, bound, denotes⟩
    exact ⟨x, within v x bound, denotes⟩

namespace Bindings.Suit

variable {bindings : Bindings} {needed vars : List Var} {low high : Nat}

theorem supply (suit : bindings.Suit db given block needed low high vars) :
    bindings.Supply db given block needed where
  subject := suit.subject
  needs v inNeeded := by
    rcases Option.isSome_iff_exists.mp (suit.bound v inNeeded) with ⟨x, bound⟩
    exact ⟨x, bound, suit.denotes v x bound⟩

/-- Less is needed and fewer references are kept apart. -/
theorem mono (suit : bindings.Suit db given block needed low high vars)
    {others : List Var} (fewer : ∀ v ∈ others, (bindings v).isSome) {first last : Nat}
    (above : low ≤ first) (below : last ≤ high) :
    bindings.Suit db given block others first last vars where
  subject := suit.subject
  denotes := suit.denotes
  bound := fewer
  fresh v index isRef atLeast lessThan :=
    suit.fresh v index isRef (Nat.le_trans above atLeast) (Nat.lt_of_lt_of_le lessThan below)

/-- Only the references among the variables matter. -/
theorem change_vars (suit : bindings.Suit db given block needed low high vars)
    {others : List Var}
    (sameRefs : ∀ v index, v.refIndex? = some index → low ≤ index → index < high →
      v ∈ vars → v ∈ others) :
    bindings.Suit db given block needed low high others where
  subject := suit.subject
  denotes := suit.denotes
  bound := suit.bound
  fresh v index isRef atLeast lessThan isBound :=
    sameRefs v index isRef atLeast lessThan (suit.fresh v index isRef atLeast lessThan isBound)

/-- The subject alone suits every part that needs nothing. -/
theorem only_subject (suit : bindings.Suit db given block needed low high vars) :
    (bindings.only .subject).Suit db given block [] low high [] where
  subject := by
    rw [Bindings.only, if_pos rfl]
    exact suit.subject
  denotes v x bound := by
    rw [Bindings.only] at bound
    split at bound
    · exact suit.denotes v x bound
    · cases bound
  bound v inNeeded := by cases inNeeded
  fresh v index isRef _ _ isBound := by
    rw [Bindings.only] at isBound
    split at isBound
    · next same =>
        cases same
        cases isRef
    · cases isBound

/-- New values that are true of the block suit as well. -/
theorem extend (suit : bindings.Suit db given block needed low high []) {after : Bindings}
    (extension : bindings.Extends vars after)
    (denotes : ∀ v ∈ vars, ∀ x, after v = some x → v.Denotes db given block x) :
    after.Suit db given block needed low high vars where
  subject := extension.keeps _ _ suit.subject
  denotes v x bound := by
    rcases (extension.binds v).mp (Option.isSome_of_mem bound) with before | inVars
    · rcases Option.isSome_iff_exists.mp before with ⟨y, before⟩
      have kept := extension.keeps v y before
      rw [bound] at kept
      cases kept
      exact suit.denotes v x before
    · exact denotes v inVars x bound
  bound v inNeeded := (extension.binds v).mpr (.inl (suit.bound v inNeeded))
  fresh v index isRef atLeast lessThan isBound := by
    rcases (extension.binds v).mp isBound with before | inVars
    · cases suit.fresh v index isRef atLeast lessThan before
    · exact inVars

end Bindings.Suit

namespace Expresses

variable {needed : List Var} {low high : Nat} {forms : List Form} {property : Prop}

/-- Forms that express a property are solvable exactly if it holds. -/
theorem solvable_iff (expresses : Expresses db given block needed low high forms property)
    (single : db.SingleValued) {bindings : Bindings}
    (suit : bindings.Suit db given block needed low high []) :
    (∃ after, Form.Solve db bindings forms after) ↔ property := by
  constructor
  · rintro ⟨after, extension, hold⟩
    have supply := suit.supply.extend extension.keeps
    exact expresses.sound after (suit.extend extension (expresses.denotes after supply hold)) hold
  · intro holds
    rcases expresses.complete holds with ⟨values, domain, denotes, satisfied⟩
    have extension : bindings.Extends (Form.bindersEach forms) (bindings.orElse values) := by
      refine ⟨Bindings.within_orElse bindings values, ?_⟩
      intro v
      rw [Bindings.isSome_orElse, domain]
    have within : values.Within (bindings.orElse values) := by
      apply Bindings.within_orElse_right single suit.denotes denotes
      intro v before isBound
      cases isRef : v.refIndex? with
      | none => rfl
      | some index =>
          rcases expresses.range v ((domain v).mp isBound) index isRef with ⟨atLeast, lessThan⟩
          cases suit.fresh v index isRef atLeast lessThan before
    have suitAfter := suit.extend extension (by
      intro v _ x bound
      rcases Bindings.eq_some_of_orElse bound with before | new
      · exact suit.denotes v x before
      · exact denotes v x new)
    exact ⟨_, extension, satisfied _ suitAfter within⟩

/-- More may be needed and more references may be used. -/
theorem mono (expresses : Expresses db given block needed low high forms property)
    {others : List Var} (more : ∀ v ∈ needed, v ∈ others) {first last : Nat}
    (below : first ≤ low) (above : high ≤ last) :
    Expresses db given block others first last forms property where
  range v inBinders index isRef := by
    rcases expresses.range v inBinders index isRef with ⟨atLeast, lessThan⟩
    exact ⟨Nat.le_trans below atLeast, Nat.lt_of_lt_of_le lessThan above⟩
  denotes bindings supply :=
    expresses.denotes bindings ⟨supply.subject, fun v inNeeded => supply.needs v (more v inNeeded)⟩
  sound bindings suit :=
    expresses.sound bindings (suit.mono (fun v inNeeded => suit.bound v (more v inNeeded))
      below above)
  complete holds := by
    rcases expresses.complete holds with ⟨values, domain, denotes, satisfied⟩
    refine ⟨values, domain, denotes, ?_⟩
    intro bindings suit
    exact satisfied bindings (suit.mono (fun v inNeeded => suit.bound v (more v inNeeded))
      below above)

/-- What needs nothing may stand anywhere. -/
theorem anywhere (expresses : Expresses db given block [] low high forms property)
    {others : List Var} : Expresses db given block others low high forms property :=
  expresses.mono (fun _ inNeeded => absurd inNeeded List.not_mem_nil) (Nat.le_refl low)
    (Nat.le_refl high)

/-- A property may be described in another way. -/
theorem congr (expresses : Expresses db given block needed low high forms property)
    {other : Prop} (same : property ↔ other) :
    Expresses db given block needed low high forms other := by
  rw [← propext same]
  exact expresses

/-! ## Forms without variables of their own -/

/-- Forms that bind at most the subject express what they say. -/
theorem of_iff (alone : ∀ v ∈ Form.bindersEach forms, v = .subject)
    (same : ∀ bindings : Bindings, bindings.Suit db given block needed low high [] →
      (Form.HoldEach db bindings forms ↔ property)) :
    Expresses db given block needed low high forms property where
  range v inBinders index isRef := by
    cases alone v inBinders
    cases isRef
  denotes bindings supply hold v inBinders x bound := by
    cases alone v inBinders
    exact Option.some.inj (bound.symm.trans supply.subject)
  sound bindings suit := by
    apply (same bindings (suit.change_vars ?_)).mp
    intro v index isRef _ _ inBinders
    cases alone v inBinders
    cases isRef
  complete holds := by
    refine ⟨.ofPairs ((Form.bindersEach forms).map fun v => (v, .entity block)), ?_, ?_, ?_⟩
    · intro v
      rw [Bindings.isSome_ofPairs, List.map_map]
      simp
    · intro v x bound
      rcases List.mem_map.mp (Bindings.mem_of_ofPairs bound) with ⟨w, inBinders, same⟩
      cases same
      cases alone v inBinders
      rfl
    · intro bindings suit _
      apply (same bindings (suit.change_vars ?_)).mpr holds
      intro v index isRef _ _ inBinders
      cases alone v inBinders
      cases isRef

theorem nil : Expresses db given block [] low low [] True := by
  apply of_iff
  · intro v inBinders
    cases inBinders
  · intro bindings _
    exact Iff.rfl

/-- The negation of forms expresses the negation of their property. -/
theorem negation (expresses : Expresses db given block needed low high forms property)
    (single : db.SingleValued) :
    Expresses db given block needed low high [.not (.group forms)] (¬ property) := by
  apply of_iff
  · intro v inBinders
    cases inBinders
  · intro bindings suit
    rw [Form.HoldEach, Form.HoldEach, and_true, Form.holds_not_group,
      expresses.solvable_iff single suit]

/-- The disjunction of forms expresses that some of them is solvable from the
subject. -/
theorem disjunction (parts : List (List Form))
    (same : ∀ bindings : Bindings, bindings.Suit db given block [] low high [] →
      ((∃ part ∈ parts, ∃ after, Form.Solve db bindings part after) ↔ property)) :
    Expresses db given block [] low high [.orJoin (parts.map .group)] property := by
  apply of_iff
  · intro v inBinders
    exact List.mem_singleton.mp inBinders
  · intro bindings suit
    rw [Form.HoldEach, Form.HoldEach, and_true, Form.holds_orJoin_group]
    exact same _ suit.only_subject

/-! ## Forms with variables of their own -/

/-- Forms that hold exactly of the bindings with the values of some row express
that there is a row. -/
theorem of_rows {Row : Type} (vars : List Var) (values : Row → List (Var × Value))
    {valid : Row → Prop} (columns : ∀ row, (values row).map Prod.fst = vars)
    (distinct : vars.Nodup) (binders : ∀ v, v ∈ Form.bindersEach forms ↔ v ∈ vars)
    (range : ∀ v ∈ vars, ∀ index, v.refIndex? = some index → low ≤ index ∧ index < high)
    (denotes : ∀ row, valid row →
      (values row).Forall fun pair => pair.1.Denotes db given block pair.2)
    (hold_iff : ∀ bindings : Bindings, bindings.Supply db given block needed →
      (Form.HoldEach db bindings forms ↔
        ∃ row, valid row ∧ (values row).Forall fun pair => bindings pair.1 = some pair.2)) :
    Expresses db given block needed low high forms (∃ row, valid row) where
  range v inBinders := range v ((binders v).mp inBinders)
  denotes bindings supply hold v inBinders x bound := by
    rcases (hold_iff bindings supply).mp hold with ⟨row, isValid, inRow⟩
    have inVars := (binders v).mp inBinders
    rw [← columns row, List.mem_map] at inVars
    rcases inVars with ⟨pair, inValues, rfl⟩
    rw [← Option.some.inj ((List.forall_iff_forall_mem.mp inRow pair inValues).symm.trans bound)]
    exact List.forall_iff_forall_mem.mp (denotes row isValid) pair inValues
  sound bindings suit hold := by
    rcases (hold_iff bindings suit.supply).mp hold with ⟨row, isValid, _⟩
    exact ⟨row, isValid⟩
  complete := by
    rintro ⟨row, isValid⟩
    refine ⟨.ofPairs (values row), ?_, ?_, ?_⟩
    · intro v
      rw [Bindings.isSome_ofPairs, columns, binders]
    · intro v x bound
      have inValues := Bindings.mem_of_ofPairs bound
      exact List.forall_iff_forall_mem.mp (denotes row isValid) (v, x) inValues
    · intro bindings suit within
      apply (hold_iff bindings suit.supply).mpr
      refine ⟨row, isValid, List.forall_iff_forall_mem.mpr ?_⟩
      intro pair inValues
      apply within
      apply Bindings.ofPairs_of_mem ?_ inValues
      rw [columns]
      exact distinct

/-! ## Several forms -/

/-- Forms one after the other express the conjunction of their properties. The
second may need what the first bind. -/
theorem append {middle : Nat} {more : List Var} {others : List Form} {other : Prop}
    (single : db.SingleValued)
    (first : Expresses db given block needed low middle forms property)
    (second : Expresses db given block more middle high others other)
    (available : ∀ v ∈ more, v ∈ needed ∨ v ∈ Form.bindersEach forms)
    (below : low ≤ middle) (above : middle ≤ high) :
    Expresses db given block needed low high (forms ++ others) (property ∧ other) := by
  -- The references of one part are none of the other part.
  have leftSuit : ∀ {bindings : Bindings}, bindings.Suit db given block needed low high
      (Form.bindersEach (forms ++ others)) →
      bindings.Suit db given block needed low middle (Form.bindersEach forms) := by
    intro bindings suit
    apply (suit.mono suit.bound (Nat.le_refl low) above).change_vars
    intro v index isRef _ lessThan inBinders
    rw [Form.bindersEach_append, List.mem_append] at inBinders
    apply inBinders.resolve_right
    intro inOthers
    exact absurd (second.range v inOthers index isRef).1 (Nat.not_le.mpr lessThan)
  have rightSuit : ∀ {bindings : Bindings}, bindings.Suit db given block needed low high
      (Form.bindersEach (forms ++ others)) →
      (∀ v ∈ Form.bindersEach forms, (bindings v).isSome) →
      bindings.Suit db given block more middle high (Form.bindersEach others) := by
    intro bindings suit isBound
    have moreBound : ∀ v ∈ more, (bindings v).isSome := by
      intro v inMore
      exact (available v inMore).elim (suit.bound v) (isBound v)
    apply (suit.mono moreBound below (Nat.le_refl high)).change_vars
    intro v index isRef atLeast _ inBinders
    rw [Form.bindersEach_append, List.mem_append] at inBinders
    apply inBinders.resolve_left
    intro inForms
    exact absurd (first.range v inForms index isRef).2 (Nat.not_lt.mpr atLeast)
  constructor
  · intro v inBinders index isRef
    rw [Form.bindersEach_append, List.mem_append] at inBinders
    rcases inBinders with inForms | inOthers
    · rcases first.range v inForms index isRef with ⟨atLeast, lessThan⟩
      exact ⟨atLeast, Nat.lt_of_lt_of_le lessThan above⟩
    · rcases second.range v inOthers index isRef with ⟨atLeast, lessThan⟩
      exact ⟨Nat.le_trans below atLeast, lessThan⟩
  · intro bindings supply hold v inBinders
    rw [Form.holdEach_append] at hold
    rw [Form.bindersEach_append, List.mem_append] at inBinders
    have firstDenotes := first.denotes bindings supply hold.1
    have moreSupplied : bindings.Supply db given block more := by
      refine ⟨supply.subject, ?_⟩
      intro w inMore
      rcases available w inMore with inNeeded | inForms
      · exact supply.needs w inNeeded
      · have subjectBound := Option.isSome_of_mem supply.subject
        rcases Option.isSome_iff_exists.mp
          (Form.isSome_of_holdEach subjectBound forms hold.1 inForms) with ⟨x, bound⟩
        exact ⟨x, bound, firstDenotes w inForms x bound⟩
    rcases inBinders with inForms | inOthers
    · exact firstDenotes v inForms
    · exact second.denotes bindings moreSupplied hold.2 v inOthers
  · intro bindings suit hold
    rw [Form.holdEach_append] at hold
    have subjectBound : (bindings .subject).isSome := Option.isSome_of_mem suit.subject
    have isBound := fun v => Form.isSome_of_holdEach (v := v) subjectBound forms hold.1
    exact ⟨first.sound bindings (leftSuit suit) hold.1,
      second.sound bindings (rightSuit suit isBound) hold.2⟩
  · rintro ⟨holds, otherHolds⟩
    rcases first.complete holds with ⟨left, leftDomain, leftDenotes, leftSatisfied⟩
    rcases second.complete otherHolds with ⟨right, rightDomain, rightDenotes, rightSatisfied⟩
    refine ⟨left.orElse right, ?_, ?_, ?_⟩
    · intro v
      rw [Bindings.isSome_orElse, leftDomain, rightDomain, Form.bindersEach_append,
        List.mem_append]
    · intro v x bound
      rcases Bindings.eq_some_of_orElse bound with inLeft | inRight
      · exact leftDenotes v x inLeft
      · exact rightDenotes v x inRight
    · intro bindings suit within
      have rightWithin : right.Within (left.orElse right) := by
        apply Bindings.within_orElse_right single leftDenotes rightDenotes
        intro v inLeft inRight
        cases isRef : v.refIndex? with
        | none => rfl
        | some index =>
            have lessThan := (first.range v ((leftDomain v).mp inLeft) index isRef).2
            have atLeast := (second.range v ((rightDomain v).mp inRight) index isRef).1
            exact absurd atLeast (Nat.not_le.mpr lessThan)
      have leftBound := (Bindings.within_orElse left right).trans within
      have rightBound := rightWithin.trans within
      have isBound : ∀ v ∈ Form.bindersEach forms, (bindings v).isSome := by
        intro v inForms
        rcases Option.isSome_iff_exists.mp ((leftDomain v).mpr inForms) with ⟨x, bound⟩
        exact Option.isSome_of_mem (leftBound v x bound)
      rw [Form.holdEach_append]
      exact ⟨leftSatisfied bindings (leftSuit suit) leftBound,
        rightSatisfied bindings (rightSuit suit isBound) rightBound⟩

end Expresses

end

end BlockQuery.Datalog
