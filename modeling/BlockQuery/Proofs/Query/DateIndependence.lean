import BlockQuery.Proofs.Query.DateInputs

/-!
# Request texts without dates and pages

The texts of both requests of a query depend on the shape of the query alone: not
on its dates, not on the clock and not on the page that a request is restricted
to.  All of these are arguments, and a change of one of them is seen at its place
and nowhere else.
-/

namespace BlockQuery.Query

open Datalog

mutual

/-- The query with all of its dates left blank. -/
def undated : Query → Query
  | between .. => between "" ""
  | all children => all (undatedEach children)
  | any children => any (undatedEach children)
  | not child => not (undated child)
  | leaf => leaf

/-- Several queries with all of their dates left blank. -/
def undatedEach : List Query → List Query
  | [] => []
  | child :: children => undated child :: undatedEach children

end

/-! ## Forms of a shape -/

mutual

/-- The forms of a query whose references are numbered from `refs` and whose dates are
numbered from `dates`. -/
def formsFrom (refs dates : Nat) : Query → List Form
  | tag title => referenceForms (.pageRef refs) .nodeTitle title
  | blockRef uid => referenceForms (.blockRef refs) .blockUid uid
  | all children => (formsEach refs dates children).flatten
  | any children => [.orJoin ((formsEach refs dates children).map Form.group)]
  | not child => [.not (Form.group (formsFrom refs dates child))]
  | between .. => windowForms (.startDate dates) (.endDate (dates + 1))
  | search text => [.includes .blockText text]
  | dailyNotes => dailyForms
  | touchedBy user =>
    [.orJoin [.and (userForms .createUser .eitherCreator user),
      .and (userForms .editUser .eitherEditor user)]]
  | createdBy user => userForms .createUser .creator user
  | editedBy user => userForms .editUser .editor user

/-- The forms of each of several queries. -/
def formsEach (refs dates : Nat) : List Query → List (List Form)
  | [] => []
  | child :: children =>
    formsFrom refs dates child ::
      formsEach (refs + child.refCount) (dates + child.dateCount) children

end

/-- The forms of compiled conditions are those of the shape. -/
theorem forms_conditions (clock : Calendar.Clock) :
    Compiles clock
      (fun refs dates query conditions => conditions.forms = query.formsFrom refs dates)
      (fun refs dates children parts =>
        parts.map Conditions.forms = formsEach refs dates children) where
  tag _ _ _ := rfl
  blockRef _ _ _ := rfl
  all _ _ children parts each := by
    rw [formsFrom, ← each, Conditions.conjunction, List.flatMap_def]
  any _ _ children parts each := by
    rw [formsFrom, ← each, Conditions.disjunction, List.map_map]
    rfl
  not _ _ child conditions inner := by
    rw [formsFrom, ← inner, Conditions.wrap]
  between _ _ _ _ _ _ _ _ := rfl
  search _ _ _ := rfl
  dailyNotes _ _ := rfl
  touchedBy _ _ _ := rfl
  createdBy _ _ _ := rfl
  editedBy _ _ _ := rfl
  nil _ _ := rfl
  cons _ _ child children conditions parts first rest := by
    rw [formsEach, List.map_cons, first, rest]

mutual

theorem leaves_undated (query : Query) : query.undated.leaves = query.leaves.map undated := by
  cases query with
  | all children | any children => exact leavesEach_undated children
  | not child => exact leaves_undated child
  | _ => rfl

theorem leavesEach_undated (children : List Query) :
    leavesEach (undatedEach children) = (leavesEach children).map undated := by
  cases children with
  | nil => rfl
  | cons child children =>
      rw [undatedEach, leavesEach, leavesEach, leaves_undated child, leavesEach_undated children,
        List.map_append]

end

theorem countP_leaves_undated {p : Query → Bool} (kept : ∀ leaf, p leaf.undated = p leaf)
    (query : Query) : query.undated.leaves.countP p = query.leaves.countP p := by
  rw [leaves_undated, List.countP_map]
  exact List.countP_congr fun leaf _ => by rw [Function.comp_apply, kept]

theorem refCount_undated (query : Query) : query.undated.refCount = query.refCount := by
  rw [refCount_eq_countP, refCount_eq_countP]
  exact countP_leaves_undated (fun leaf => by cases leaf <;> rfl) query

theorem dateCount_undated (query : Query) : query.undated.dateCount = query.dateCount := by
  rw [dateCount_eq_countP, dateCount_eq_countP]
  rw [countP_leaves_undated (fun leaf => by cases leaf <;> rfl) query]

mutual

/-- The dates of a query do not occur in its forms. -/
theorem formsFrom_undated (query : Query) (refs dates : Nat) :
    query.undated.formsFrom refs dates = query.formsFrom refs dates := by
  cases query with
  | all children | any children =>
      rw [undated, formsFrom, formsEach_undated children, formsFrom]
  | not child => rw [undated, formsFrom, formsFrom_undated child, formsFrom]
  | _ => rfl

/-- The dates of several queries do not occur in their forms. -/
theorem formsEach_undated (children : List Query) (refs dates : Nat) :
    formsEach refs dates (undatedEach children) = formsEach refs dates children := by
  cases children with
  | nil => rfl
  | cons child children =>
      rw [undatedEach, formsEach, formsFrom_undated child, formsEach_undated children,
        refCount_undated, dateCount_undated, formsEach]

end

/-! ## Texts of requests -/

section

variable {clauses others : Clauses} {page other : Option String}

/-- A request says only whether it is restricted to a page. -/
theorem inputSection_congr (inputs : clauses.inputs = others.inputs)
    (restricted : (pageScope page).isSome = (pageScope other).isSome) :
    clauses.inputSection page = others.inputSection other := by
  rw [Clauses.inputSection, Clauses.inputSection, inputs, restricted]

theorem text_request_congr (forms : clauses.forms = others.forms) (header : List String)
    (fixed : List Form) :
    (clauses.request page header fixed).text = (others.request other header fixed).text := by
  rw [Clauses.request, Clauses.request, forms]

theorem text_findRequest_congr (forms : clauses.forms = others.forms)
    (inputs : clauses.inputs = others.inputs)
    (restricted : (pageScope page).isSome = (pageScope other).isSome)
    (options : RequestOptions) (selection : List String) :
    (clauses.findRequest { options with pageUid := page } selection).text =
      (others.findRequest { options with pageUid := other } selection).text := by
  rw [Clauses.findRequest, Clauses.findRequest, inputSection_congr inputs restricted]
  rw [scopeForms, scopeForms, restricted]
  exact text_request_congr forms _ _

theorem text_count_congr (forms : clauses.forms = others.forms)
    (inputs : clauses.inputs = others.inputs)
    (restricted : (pageScope page).isSome = (pageScope other).isSome) :
    (clauses.count page).text = (others.count other).text := by
  rw [Clauses.count, Clauses.count, inputSection_congr inputs restricted, scopeForms, scopeForms,
    restricted]
  exact text_request_congr forms _ _

end

/-! ## Two runs -/

/-- Requests with one text and as many arguments, which differ in some places only. -/
structure SameText (first second : Request) (changed : Nat → Prop) : Prop where
  text : first.text = second.text
  length : first.arguments.length = second.arguments.length
  arguments : ∀ place : Nat, first.arguments[place]? ≠ second.arguments[place]? → changed place

/-- The place of a date that two clocks resolve to different times, or the place of the page
behind all dates. -/
def ChangedInput (clock later : Calendar.Clock) (dates others : List String)
    (page other : String) (place : Nat) : Prop :=
  (∃ date changed, dates[place]? = some date ∧ others[place]? = some changed ∧
      Calendar.resolve clock date ≠ Calendar.resolve later changed) ∨
    place = dates.length ∧ page ≠ other

theorem pageScope_eq_some {page : String} (nonempty : page ≠ "") :
    pageScope (some page) = some page := by
  simp [pageScope, Option.filter, nonempty]

theorem length_dateTexts (windows : List (String × String)) :
    (dateTexts windows).length = 2 * windows.length := by
  induction windows with
  | nil => rfl
  | cons window windows ih =>
      change (window.1 :: window.2 :: dateTexts windows).length = _
      rw [List.length_cons, List.length_cons, ih, List.length_cons, Nat.mul_succ]

section

variable {clock later : Calendar.Clock} {query changed : Query} {conditions others : Conditions}

theorem forms_eq_of_undated (same : query.undated = changed.undated)
    (ok : query.conditions clock = .ok conditions) (also : changed.conditions later = .ok others) :
    conditions.forms = others.forms :=
  calc
    conditions.forms = query.formsFrom 0 0 := (forms_conditions clock).holds query ok
    _ = query.undated.formsFrom 0 0 := (formsFrom_undated query 0 0).symm
    _ = changed.undated.formsFrom 0 0 := by rw [same]
    _ = changed.formsFrom 0 0 := formsFrom_undated changed 0 0
    _ = others.forms := ((forms_conditions later).holds changed also).symm

theorem length_windows_of_undated (same : query.undated = changed.undated) :
    query.windows.length = changed.windows.length := by
  have count : ∀ query : Query, query.undated.leaves.countP isWindow = query.windows.length := by
    intro query
    rw [windows, length_filterMap_window?]
    exact countP_leaves_undated (fun leaf => by cases leaf <;> rfl) query
  rw [← count query, same, count changed]

/-- Two compilations of one shape name their inputs alike. -/
theorem names_eq_of_undated (same : query.undated = changed.undated)
    (ok : query.conditions clock = .ok conditions) (also : changed.conditions later = .ok others) :
    conditions.clauses.inputs = others.clauses.inputs := by
  have dated := (windowInputs_conditions clock).holds query ok
  have datedAlso := (windowInputs_conditions later).holds changed also
  have vars := (dated.two_runs datedAlso (length_windows_of_undated same)).1
  rw [inputs_clauses, inputs_clauses, vars]

/-- Arguments differ only in the places of changed inputs. -/
theorem changedInput_of_arguments (same : query.undated = changed.undated)
    (ok : query.conditions clock = .ok conditions) (also : changed.conditions later = .ok others)
    {page other : String} (nonempty : page ≠ "") (nonemptyOther : other ≠ "") :
    (conditions.clauses.arguments (some page)).length =
        (others.clauses.arguments (some other)).length ∧
      ∀ place : Nat, (conditions.clauses.arguments (some page))[place]? ≠
          (others.clauses.arguments (some other))[place]? →
        ChangedInput clock later (dateTexts query.windows) (dateTexts changed.windows) page other
          place := by
  have dated := (windowInputs_conditions clock).holds query ok
  have datedAlso := (windowInputs_conditions later).holds changed also
  have windows := length_windows_of_undated same
  have values : conditions.clauses.values.length = (dateTexts query.windows).length := by
    rw [Conditions.clauses, List.length_map, dated.length_inputs, length_dateTexts]
  have valuesAlso : others.clauses.values.length = (dateTexts query.windows).length := by
    rw [Conditions.clauses, List.length_map, datedAlso.length_inputs, length_dateTexts, windows]
  rw [Clauses.arguments, Clauses.arguments, pageScope_eq_some nonempty,
    pageScope_eq_some nonemptyOther]
  constructor
  · rw [List.length_append, List.length_append, values, valuesAlso]
    rfl
  · intro place differ
    rcases Nat.lt_or_ge place (dateTexts query.windows).length with isDate | behind
    · left
      apply (dated.two_runs datedAlso windows).2
      intro agree
      apply differ
      rw [List.getElem?_append_left (values ▸ isDate),
        List.getElem?_append_left (valuesAlso ▸ isDate), Conditions.clauses, Conditions.clauses,
        List.getElem?_map, List.getElem?_map, agree]
    · right
      -- behind the dates there is the page and nothing else
      rw [List.getElem?_append_right (values ▸ behind),
        List.getElem?_append_right (valuesAlso ▸ behind), values, valuesAlso] at differ
      cases rest : place - (dateTexts query.windows).length with
      | zero =>
          rw [rest] at differ
          refine ⟨Nat.le_antisymm (Nat.le_of_sub_eq_zero rest) behind, ?_⟩
          rintro rfl
          exact differ rfl
      | succ more =>
          rw [rest] at differ
          exact absurd rfl differ

end

/-- The texts of both requests do not depend on dates, clocks and pages: if two queries
differ in their dates only and two restrictions in the page only, then the texts are the
same, and so are all arguments but those of changed dates and of the page.  A number that is
too long for one find request is too long for the other. -/
theorem request_texts_undated {clock later : Calendar.Clock} {query changed : Query}
    {conditions others : Conditions} (same : query.undated = changed.undated)
    (ok : query.conditions clock = .ok conditions) (also : changed.conditions later = .ok others)
    {page other : String} (nonempty : page ≠ "") (nonemptyOther : other ≠ "")
    (options : RequestOptions) (selection : List String) :
    (options.Writable → ∃ first second,
        conditions.clauses.find { options with pageUid := some page } selection = .ok first ∧
        others.clauses.find { options with pageUid := some other } selection = .ok second ∧
        SameText first second (ChangedInput clock later (dateTexts query.windows)
          (dateTexts changed.windows) page other)) ∧
      (¬ options.Writable →
        conditions.clauses.find { options with pageUid := some page } selection =
            .error .longNumber ∧
          others.clauses.find { options with pageUid := some other } selection =
            .error .longNumber) ∧
      SameText (conditions.clauses.count (some page)) (others.clauses.count (some other))
        (ChangedInput clock later (dateTexts query.windows) (dateTexts changed.windows) page
          other) := by
  have forms : conditions.clauses.forms = others.clauses.forms := by
    rw [Conditions.clauses, Conditions.clauses, forms_eq_of_undated same ok also]
  have inputs := names_eq_of_undated same ok also
  have restricted : (pageScope (some page)).isSome = (pageScope (some other)).isSome := by
    rw [pageScope_eq_some nonempty, pageScope_eq_some nonemptyOther]
    rfl
  rcases changedInput_of_arguments same ok also nonempty nonemptyOther with ⟨length, arguments⟩
  refine ⟨fun writable => ?_, fun unwritable => ?_,
    ⟨text_count_congr forms inputs restricted, length, arguments⟩⟩
  · have stated (uid : Option String) : ({ options with pageUid := uid } : RequestOptions).Writable :=
      ⟨writable.limit, writable.offset⟩
    exact ⟨_, _, Clauses.find_eq_ok_iff.mpr ⟨stated _, rfl⟩,
      Clauses.find_eq_ok_iff.mpr ⟨stated _, rfl⟩,
      text_findRequest_congr forms inputs restricted options selection, length, arguments⟩
  · have stated (uid : Option String) :
        ¬ ({ options with pageUid := uid } : RequestOptions).Writable :=
      fun writable => unwritable ⟨writable.limit, writable.offset⟩
    exact ⟨Clauses.find_eq_error_iff.mpr ⟨stated _, rfl⟩,
      Clauses.find_eq_error_iff.mpr ⟨stated _, rfl⟩⟩

/-- A window below a disjunction moves by a day and the page changes; the texts stay. -/
theorem request_texts_undated_moved :
    ∃ conditions others,
      (any [between "today" "today", tag "a"]).conditions newYear = .ok conditions ∧
      (any [between "yesterday" "today", tag "a"]).conditions newYear = .ok others ∧
      (∃ first second,
        conditions.clauses.find ⟨some 5, 1, none, some "p"⟩ defaultSelection = .ok first ∧
        others.clauses.find ⟨some 5, 1, none, some "q"⟩ defaultSelection = .ok second ∧
        SameText first second
          (ChangedInput newYear newYear ["today", "today"] ["yesterday", "today"] "p" "q")) ∧
      SameText (conditions.clauses.count (some "p")) (others.clauses.count (some "q"))
        (ChangedInput newYear newYear ["today", "today"] ["yesterday", "today"] "p" "q") := by
  have yesterday : Calendar.resolve newYear "yesterday" = .ok 1767139200000 := by
    decide +kernel
  have compiled : ∃ conditions,
      (any [between "today" "today", tag "a"]).conditions newYear = .ok conditions := by
    simp only [conditions, conditionsFrom, conditionsEach, resolve_today_newYear]
    exact ⟨_, rfl⟩
  have compiledAlso : ∃ conditions,
      (any [between "yesterday" "today", tag "a"]).conditions newYear = .ok conditions := by
    simp only [conditions, conditionsFrom, conditionsEach, resolve_today_newYear, yesterday]
    exact ⟨_, rfl⟩
  rcases compiled with ⟨conditions, ok⟩
  rcases compiledAlso with ⟨others, also⟩
  have same : (any [between "today" "today", tag "a"]).undated =
      (any [between "yesterday" "today", tag "a"]).undated := rfl
  have texts := request_texts_undated same ok also (show "p" ≠ "" by decide)
    (show "q" ≠ "" by decide) ⟨some 5, 1, none, none⟩ defaultSelection
  exact ⟨conditions, others, ok, also,
    texts.1 (RequestOptions.writable_of_small (by decide) (by decide) _ _), texts.2.2⟩

end BlockQuery.Query
