import BlockQuery.Proofs.Datalog.RequestInputs
import BlockQuery.Proofs.Query.DateInputs
import BlockQuery.Proofs.Query.Selection
import Mathlib.Data.List.Count

/-!
# Numbers of leaves and places of inputs

References are numbered together from left to right, and date windows have two
numbers each.  No two leaves share a numbered variable, every date variable stands
in one place of the conditions, and both requests of a query list the date
variables in the order of their values, with the page at the end.
-/

namespace BlockQuery.Query

open Datalog

/-! ## Numbered variables -/

/-- Whether a variable stands for a date. -/
def isDate (v : Var) : Bool :=
  (dateIndex? v).isSome

/-- Whether a variable is numbered within a query. -/
def isNumbered (v : Var) : Bool :=
  v.refIndex?.isSome || isDate v

/-- The numbered variables of a leaf with so many references and date windows in front of
it. -/
def ownVars (refs windows : Nat) : Query → List Var
  | tag _ => [.pageRef refs]
  | blockRef _ => [.blockRef refs]
  | between .. => [.startDate (2 * windows), .endDate (2 * windows + 1)]
  | _ => []

/-- The numbered variables in the share of a leaf are its own. -/
theorem mem_varsEach_share {v : Var} (numbered : isNumbered v) (refs windows : Nat)
    (leaf : Query) :
    v ∈ Form.varsEach (leaf.share refs windows) ↔ v ∈ leaf.ownVars refs windows := by
  have kept : v ∈ Form.varsEach (leaf.share refs windows) ↔
      v ∈ (Form.varsEach (leaf.share refs windows)).filter isNumbered := by
    rw [List.mem_filter, and_iff_left numbered]
  rw [kept]
  cases leaf with
  | tag title =>
      change v ∈ [.pageRef refs, .pageRef refs] ↔ v ∈ [.pageRef refs]
      simp
  | blockRef uid =>
      change v ∈ [.blockRef refs, .blockRef refs] ↔ v ∈ [.blockRef refs]
      simp
  | _ => exact Iff.rfl

theorem of_mem_ownVars_ref {v : Var} {refs windows index : Nat} {leaf : Query}
    (own : v ∈ leaf.ownVars refs windows) (number : v.refIndex? = some index) :
    leaf.isReference ∧ index = refs := by
  cases leaf with
  | tag title | blockRef uid =>
      cases List.mem_singleton.mp own
      cases number
      exact ⟨rfl, rfl⟩
  | between start finish =>
      simp only [ownVars, List.mem_cons, List.not_mem_nil, or_false] at own
      rcases own with rfl | rfl <;> cases number
  | _ => cases own

theorem of_mem_ownVars_date {v : Var} {refs windows index : Nat} {leaf : Query}
    (own : v ∈ leaf.ownVars refs windows) (number : dateIndex? v = some index) :
    leaf.isWindow ∧ index / 2 = windows := by
  cases leaf with
  | tag title | blockRef uid =>
      cases List.mem_singleton.mp own
      cases number
  | between start finish =>
      simp only [ownVars, List.mem_cons, List.not_mem_nil, or_false] at own
      rcases own with rfl | rfl
      · cases number
        exact ⟨rfl, by omega⟩
      · cases number
        exact ⟨rfl, by omega⟩
  | _ => cases own

/-! ## Leaves apart from each other -/

/-- Two leaves of a kind with as many leaves of the kind in front of them are one. -/
theorem eq_of_countP_take {p : Query → Bool} {leaves : List Query} {first second : Nat}
    {leaf other : Query} (found : leaves[first]? = some leaf) (isKind : p leaf)
    (foundOther : leaves[second]? = some other) (isKindOther : p other)
    (same : (leaves.take first).countP p = (leaves.take second).countP p) : first = second := by
  have grows : ∀ {i j : Nat} {leaf : Query}, leaves[i]? = some leaf → p leaf → i < j →
      (leaves.take i).countP p < (leaves.take j).countP p := by
    intro i j leaf found isKind less
    have front : leaves.take (i + 1) <+: leaves.take j := List.take_prefix_take_left less
    have atMost := front.countP_le (p := p)
    rw [List.take_add_one, found, Option.toList_some, List.countP_append, List.countP_singleton,
      if_pos isKind] at atMost
    exact atMost
  rcases Nat.lt_trichotomy first second with less | equal | more
  · exact absurd same (grows found isKind less).ne
  · exact equal
  · exact absurd same (grows foundOther isKindOther more).ne'

/-- Every leaf has a part of the conditions, and its numbered variables are the ones that
the leaves in front of it leave to it; no other part holds them. -/
structure LeafNumbers (leaves : List Query) (parts : List (List Form)) : Prop where
  part : ∀ place : Nat, parts[place]? = leaves[place]?.map fun leaf =>
    leaf.share ((leaves.take place).countP isReference) ((leaves.take place).countP isWindow)
  own : ∀ (place : Nat) (leaf : Query) (part : List Form), leaves[place]? = some leaf →
    parts[place]? = some part →
    ∀ v, isNumbered v → (v ∈ Form.varsEach part ↔
      v ∈ leaf.ownVars ((leaves.take place).countP isReference)
        ((leaves.take place).countP isWindow))
  apart : ∀ (first second : Nat) (part other : List Form), parts[first]? = some part →
    parts[second]? = some other → ∀ v, isNumbered v →
      v ∈ Form.varsEach part → v ∈ Form.varsEach other → first = second

theorem leafNumbers_shares (leaves : List Query) : LeafNumbers leaves (shares 0 0 leaves) := by
  have part : ∀ place : Nat, (shares 0 0 leaves)[place]? = leaves[place]?.map fun leaf =>
      leaf.share ((leaves.take place).countP isReference)
        ((leaves.take place).countP isWindow) := by
    intro place
    have found := getElem?_shares 0 0 leaves place
    simpa only [Nat.zero_add] using found
  refine ⟨part, ?_, ?_⟩
  · intro place leaf forms found foundForms v numbered
    rw [part place, found] at foundForms
    cases foundForms
    exact mem_varsEach_share numbered _ _ leaf
  · intro first second forms others foundForms foundOthers v numbered inForms inOthers
    rw [part first, Option.map_eq_some_iff] at foundForms
    rw [part second, Option.map_eq_some_iff] at foundOthers
    rcases foundForms with ⟨leaf, found, rfl⟩
    rcases foundOthers with ⟨other, foundOther, rfl⟩
    rw [mem_varsEach_share numbered] at inForms inOthers
    rw [isNumbered, isDate, Bool.or_eq_true, Option.isSome_iff_exists,
      Option.isSome_iff_exists] at numbered
    -- the number of a variable tells how many leaves of its kind are in front of its leaf
    rcases numbered with ⟨index, number⟩ | ⟨index, number⟩
    · have one := of_mem_ownVars_ref inForms number
      have two := of_mem_ownVars_ref inOthers number
      exact eq_of_countP_take found one.1 foundOther two.1 (one.2.symm.trans two.2)
    · have one := of_mem_ownVars_date inForms number
      have two := of_mem_ownVars_date inOthers number
      exact eq_of_countP_take found one.1 foundOther two.1 (one.2.symm.trans two.2)

/-! ## Places of date variables -/

/-- The date variables of several forms, once for every place where they stand. -/
def dateVars (forms : List Form) : List Var :=
  (Form.varsEach forms).filter isDate

theorem dateVars_conjunction (parts : List Conditions) :
    dateVars (Conditions.conjunction parts).forms =
      parts.flatMap fun part => dateVars part.forms := by
  rw [dateVars, each_conjunction Form.varsEach_eq_flatMap, List.filter_flatMap]
  rfl

theorem dateVars_disjunction (parts : List Conditions) :
    dateVars (Conditions.disjunction parts).forms =
      parts.flatMap fun part => dateVars part.forms := by
  have only : dateVars (Conditions.disjunction parts).forms =
      (Form.varsEach (parts.map fun part : Conditions => Form.group part.forms) ++ []).filter
        isDate := rfl
  rw [only, List.append_nil, Form.varsEach_eq_flatMap, List.flatMap_map, List.filter_flatMap]
  simp only [Form.vars_group]
  rfl

theorem dateVars_negation (conditions : Conditions) :
    dateVars (conditions.wrap .not).forms = dateVars conditions.forms := by
  rw [dateVars, each_negation Form.varsEach_eq_flatMap (fun _ => rfl) Form.vars_group, dateVars]

/-- The date variables of the conditions of a query are its inputs, each in one place. -/
theorem dateVars_conditions (clock : Calendar.Clock) :
    Compiles clock
      (fun _ _ _ conditions => dateVars conditions.forms = conditions.inputs.map Prod.fst)
      (fun _ _ _ parts => (parts.flatMap fun part => dateVars part.forms) =
        (parts.flatMap Conditions.inputs).map Prod.fst) where
  tag _ _ _ := rfl
  blockRef _ _ _ := rfl
  all _ _ _ parts each := (dateVars_conjunction parts).trans each
  any _ _ _ parts each := (dateVars_disjunction parts).trans each
  not _ _ _ conditions inner := (dateVars_negation conditions).trans inner
  between _ _ _ _ _ _ _ _ := rfl
  search _ _ _ := rfl
  dailyNotes _ _ := rfl
  touchedBy _ _ _ := rfl
  createdBy _ _ _ := rfl
  editedBy _ _ _ := rfl
  nil _ _ := rfl
  cons _ _ _ _ _ _ first rest := by
    rw [List.flatMap_cons, List.flatMap_cons, List.map_append, first, rest]

theorem injective_name : Function.Injective Var.name := by
  intro v w same
  have read := Var.ofName?_name v
  rw [same, Var.ofName?_name w] at read
  exact (Option.some.inj read).symm

section

variable {clock : Calendar.Clock} {query : Query} {conditions : Conditions}

/-- Every input stands in one place of the conditions. -/
theorem count_name_of_mem_inputs (ok : query.conditions clock = .ok conditions) {name : String}
    (inInputs : name ∈ conditions.clauses.inputs) :
    ((Form.varsEach conditions.forms).map Var.name).count name = 1 := by
  rcases List.mem_map.mp inInputs with ⟨input, isInput, rfl⟩
  have dated : isDate input.1 := isSome_dateIndex? ok isInput
  have places := (dateVars_conditions clock).holds query ok
  have once := List.count_eq_one_of_mem (nodup_inputs ok) (List.mem_map_of_mem isInput)
  rw [← places, dateVars, List.count_filter dated] at once
  rw [List.count_map_of_injective _ _ injective_name]
  exact once

/-! ## Inputs of requests -/

/-- The inputs and their values, two for every date window, in the order of the windows. -/
structure DatedInputs (clock : Calendar.Clock) (windows : List (String × String))
    (clauses : Clauses) : Prop where
  inputs : clauses.inputs.length = 2 * windows.length
  values : clauses.values.length = 2 * windows.length
  window : ∀ (place : Nat) (start finish : String), windows[place]? = some (start, finish) →
    ∃ first last, Calendar.resolve clock start = .ok first ∧
      Calendar.resolve clock finish = .ok last ∧
      clauses.inputs[2 * place]? = some s!"?start-date-{2 * place}" ∧
      clauses.values[2 * place]? = some (.int first) ∧
      clauses.inputs[2 * place + 1]? = some s!"?end-date-{2 * place + 1}" ∧
      clauses.values[2 * place + 1]? = some (.int (last + 86399999))

theorem endOfDay_eq (timestamp : Int) : Calendar.endOfDay timestamp = timestamp + 86399999 := by
  rw [Calendar.endOfDay, Int.add_sub_assoc]
  rfl

theorem datedInputs_clauses (ok : query.conditions clock = .ok conditions) :
    DatedInputs clock query.windows conditions.clauses := by
  have dated := (windowInputs_conditions clock).holds query ok
  refine ⟨?_, ?_, ?_⟩
  · rw [Conditions.clauses, List.length_map, dated.length_inputs]
  · rw [Conditions.clauses, List.length_map, dated.length_inputs]
  · intro place start finish found
    rcases dated.getElem?_inputs found with ⟨first, last, firstOk, lastOk, atStart, atFinish⟩
    rw [Nat.zero_add] at atStart atFinish
    rw [endOfDay_eq] at atFinish
    refine ⟨first, last, firstOk, lastOk, ?_, ?_, ?_, ?_⟩
    all_goals simp only [Conditions.clauses, List.getElem?_map, atStart, atFinish, Option.map_some]
    all_goals rfl

/-- The request lists the inputs of its conditions and then its page, each at the place of
its value. -/
def Aligned (request : Request) (clauses : Clauses) (pageUid : Option String) : Prop :=
  ∃ names, request.inputNames = "$" :: names ∧ names.length = request.arguments.length ∧
    names.zip request.arguments = clauses.inputs.zip clauses.values ++
      (pageScope pageUid).toList.map fun uid => ("?target-page-uid", .str uid)

theorem aligned_of_inputNames {request : Request} {pageUid : Option String}
    (listed : request.inputNames = inputTexts (conditions.inputs.map Prod.fst) pageUid)
    (given : request.arguments = conditions.clauses.arguments pageUid) :
    Aligned request conditions.clauses pageUid := by
  have named := (inputs_clauses conditions).symm
  have paired : conditions.clauses.inputs.length = conditions.clauses.values.length := by
    rw [Conditions.clauses, List.length_map, List.length_map]
  refine ⟨_, listed, ?_, ?_⟩
  · rw [given, Clauses.arguments, inputVars, List.map_append, named, List.length_append,
      List.length_append, paired]
    cases pageScope pageUid <;> rfl
  · rw [given, Clauses.arguments, inputVars, List.map_append, named, List.zip_append paired]
    cases pageScope pageUid <;> rfl

end

/-- The leaves of a query are numbered apart from each other, its dates become inputs in
their order, and both requests, if made, list the inputs in the order of their values.  Conditions
are missing exactly if some date cannot be resolved, and the first such date decides the
error. -/
theorem conditions_numbered (clock : Calendar.Clock) (query : Query) :
    (∀ error, query.conditions clock = .error error ↔
      firstDateError? clock (dateTexts query.windows) = some error) ∧
    ∀ conditions, query.conditions clock = .ok conditions →
      (∃ forms parts, conditions.clauses.readForms = some forms ∧
        Form.atomsEach forms = parts.flatten ∧ LeafNumbers query.leaves parts ∧
        ∀ name ∈ conditions.clauses.inputs,
          ((Form.varsEach forms).map Var.name).count name = 1) ∧
      DatedInputs clock query.windows conditions.clauses ∧
      ∀ options : RequestOptions,
        Aligned (conditions.clauses.count options.pageUid) conditions.clauses options.pageUid ∧
        ∀ selection : List String, (∀ text ∈ selection, ":in".toList ∉ Text.words text.toList) →
          conditions.clauses.MakesRequest options selection fun request =>
            Aligned request conditions.clauses options.pageUid := by
  refine ⟨?_, ?_⟩
  · intro error
    rw [← errorOf?_eq_some_iff, conditions, errorOf?_conditionsFrom]
  · intro conditions ok
    have named := inputs_clauses conditions
    refine ⟨?_, datedInputs_clauses ok, ?_⟩
    · have atoms := (atoms_conditions clock).holds query ok 0 rfl
      exact ⟨conditions.forms, shares 0 0 query.leaves, Clauses.readForms_eq rfl, atoms,
        leafNumbers_shares query.leaves, fun name => count_name_of_mem_inputs ok⟩
    · intro options
      refine ⟨aligned_of_inputNames (inputNames_count named options.pageUid) rfl, ?_⟩
      intro selection other
      exact Clauses.makesRequest_of
        (aligned_of_inputNames (inputNames_findRequest named options other) rfl)

/-- Windows below a disjunction and a negation are numbered like others, and an order with
the keyword of inputs changes nothing. -/
theorem conditions_numbered_nested :
    ∃ conditions,
      (any [tag "a", not (all [between "today" "today", blockRef "u"]),
        between "today" "today"]).conditions newYear = .ok conditions ∧
      DatedInputs newYear [("today", "today"), ("today", "today")] conditions.clauses ∧
      ∃ request,
        conditions.clauses.find ⟨none, 0, some "?b :in $ ?b", some "p"⟩ defaultSelection =
          .ok request ∧
        Aligned request conditions.clauses (some "p") := by
  have compiled : ∃ conditions, (any [tag "a", not (all [between "today" "today", blockRef "u"]),
      between "today" "today"]).conditions newYear = .ok conditions := by
    simp only [conditions, conditionsFrom, conditionsEach, resolve_today_newYear]
    exact ⟨_, rfl⟩
  rcases compiled with ⟨conditions, ok⟩
  have numbered := (conditions_numbered newYear _).2 conditions ok
  have aligned := numbered.2.2 ⟨none, 0, some "?b :in $ ?b", some "p"⟩
  exact ⟨conditions, ok, numbered.2.1, (aligned.2 defaultSelection (by decide)).made
    (RequestOptions.writable_of_small (by decide) (by decide) _ _)⟩

end BlockQuery.Query
