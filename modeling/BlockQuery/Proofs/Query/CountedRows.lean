import BlockQuery.Proofs.Datalog.RequestLayout
import BlockQuery.Proofs.Query.DateInputs
import BlockQuery.Proofs.Query.Leaves
import BlockQuery.Proofs.Query.Selection

/-!
# What the count request counts

A query has two requests.  One finds the identifier, the text and the page title of the
matching blocks, a part of them at a time; the other counts the blocks.  They have the
same inputs with the same arguments and the same conditions, but the count request does
not ask for the title of the page.

The title is the value of a variable that no other condition has.  So if every page has a
title, leaving out this condition loses no restriction, and each counted block has one row
among the found ones.  The query may be any one that compiles: nothing is asked of where
its leaves stand.
-/

namespace BlockQuery.Query

open Datalog

/-! ## Variables of the frame -/

/-- Whether a variable belongs to the conditions that a request adds to those of its query. -/
def isFrameVar : Var → Bool
  | .blockUid | .page | .pageTitle | .targetPage => true
  | _ => false

theorem varsEach_disjunction (parts : List Conditions) :
    Form.varsEach (Conditions.disjunction parts).forms =
      .subject :: parts.flatMap fun part => Form.varsEach part.forms := by
  have unfolded : Form.varsEach (Conditions.disjunction parts).forms =
      .subject :: Form.varsEach (parts.map fun part : Conditions => Form.group part.forms) ++ [] :=
    rfl
  rw [unfolded, List.append_nil, Form.varsEach_eq_flatMap, List.flatMap_map]
  simp only [Form.vars_group]

/-- The conditions of a query have no variable of the frame. -/
theorem noFrameVar_conditions (clock : Calendar.Clock) :
    Compiles clock
      (fun _ _ _ conditions => (Form.varsEach conditions.forms).all (!isFrameVar ·))
      (fun _ _ _ parts =>
        (parts.flatMap fun part => Form.varsEach part.forms).all (!isFrameVar ·)) where
  tag _ _ _ := rfl
  blockRef _ _ _ := rfl
  all _ _ _ parts each := by rwa [each_conjunction Form.varsEach_eq_flatMap]
  any _ _ _ parts each := by rwa [varsEach_disjunction, List.all_cons]
  not _ _ _ conditions inner := by
    rwa [each_negation Form.varsEach_eq_flatMap (fun _ => rfl) Form.vars_group]
  between _ _ _ _ _ _ _ _ := rfl
  search _ _ _ := rfl
  dailyNotes _ _ := rfl
  touchedBy _ _ _ := rfl
  createdBy _ _ _ := rfl
  editedBy _ _ _ := rfl
  nil _ _ := rfl
  cons _ _ _ _ _ _ first rest := by
    rw [List.flatMap_cons, List.all_append, first, rest]
    rfl

section

variable {clock : Calendar.Clock} {query : Query} {conditions : Conditions}

theorem not_mem_varsEach (ok : query.conditions clock = .ok conditions) {v : Var}
    (frame : isFrameVar v) : v ∉ Form.varsEach conditions.forms := by
  intro occurs
  have none := List.all_eq_true.mp ((noFrameVar_conditions clock).holds query ok) v occurs
  rw [frame] at none
  cases none

/-- No condition of a query is one that a request adds. -/
theorem render_not_mem_forms (ok : query.conditions clock = .ok conditions) {form : Form} {v : Var}
    (occurs : v ∈ form.vars) (frame : isFrameVar v) :
    form.render ∉ conditions.clauses.forms := by
  intro written
  rcases List.mem_map.mp written with ⟨other, inForms, same⟩
  have read := Form.read?_render other
  rw [same, Form.read?_render] at read
  cases read
  apply not_mem_varsEach ok frame
  rw [Form.varsEach_eq_flatMap]
  exact List.mem_flatMap_of_mem inForms occurs

/-! ## Solutions of both requests -/

/-- The title of the page is the only condition on the variable of the title. -/
theorem introduces_pageTitle (ok : query.conditions clock = .ok conditions)
    (pageUid : Option String) :
    Form.Introduces pageTitleForm .pageTitle
      (baseForms ++ (scopeForms pageUid ++ conditions.forms)) where
  binds := by decide
  known v binds other := by
    have onPage : v = .page := by
      simpa [pageTitleForm, Form.binders, Term.vars, other] using binds
    subst onPage
    rw [Form.bindersEach_append]
    exact List.mem_append_left _ (by decide)
  absent := by
    rw [Form.varsEach_eq_flatMap, List.flatMap_append, List.flatMap_append,
      ← Form.varsEach_eq_flatMap conditions.forms, List.mem_append, List.mem_append]
    rintro (inBase | inScope | inQuery)
    · revert inBase
      decide
    · unfold scopeForms at inScope
      split at inScope
      · revert inScope
        decide
      · cases inScope
    · exact not_mem_varsEach ok rfl inQuery

theorem inputNames_clauses (conditions : Conditions) (pageUid : Option String) :
    conditions.clauses.inputNames pageUid =
      "$" :: (inputVars (conditions.inputs.map Prod.fst) pageUid).map Var.name := by
  rw [Clauses.inputNames, inputVars, List.map_append, inputs_clauses]
  split <;> rfl

section

variable {options : RequestOptions} {selection : List String} {db : Database} {after : Bindings}

/-- A find request is solved by what solves its conditions. -/
theorem solves_findLayout_iff :
    (conditions.clauses.findLayout options selection).Solves
        (conditions.clauses.arguments options.pageUid) db after ↔
      Form.Solve db (givenBindings conditions options.pageUid)
        (baseForms ++ pageTitleForm :: (scopeForms options.pageUid ++ conditions.forms)) after := by
  apply Datalog.Layout.solves_iff (inputNames_clauses conditions options.pageUid)
    (pairInputs_givenPairs conditions options.pageUid)
  simp [Clauses.findLayout, Conditions.clauses]

/-- A count request is solved by what solves its conditions. -/
theorem solves_countLayout_iff {pageUid : Option String} :
    (conditions.clauses.countLayout pageUid).Solves (conditions.clauses.arguments pageUid) db
        after ↔
      Form.Solve db (givenBindings conditions pageUid)
        (baseForms ++ (scopeForms pageUid ++ conditions.forms)) after := by
  apply Datalog.Layout.solves_iff (inputNames_clauses conditions pageUid)
    (pairInputs_givenPairs conditions pageUid)
  simp [Clauses.countLayout, Conditions.clauses]

theorem givenBindings_pageTitle (ok : query.conditions clock = .ok conditions)
    (pageUid : Option String) : givenBindings conditions pageUid .pageTitle = none := by
  rw [Option.eq_none_iff_forall_ne_some]
  intro x bound
  rcases isInput_of_givenBindings ok bound with isDate | isPage
  · cases isDate
  · cases isPage

/-! ## Rows and blocks -/

/-- What a solution says of its block. -/
structure Describes (db : Database) (after : Bindings) (block : Nat) (text uid page : Value) :
    Prop where
  subject : after .subject = some (.entity block)
  textBound : after .blockText = some text
  uidBound : after .blockUid = some uid
  pageBound : after .page = some page
  text : db.Has block .blockString text
  uid : db.Has block .blockUid uid
  page : db.Has block .blockPage page

/-- A solution is about a block with a text, an identifier and a page. -/
theorem exists_describes (hold : Form.HoldEach db after baseForms) :
    ∃ block text uid page, Describes db after block text uid page := by
  rcases hold with ⟨⟨block, text, subject, textBound, hasText⟩, hasUid, onPage, _⟩
  rcases (Form.holds_fact_iff subject).mp hasUid with ⟨uid, uidBound, hasUid⟩
  rcases (Form.holds_fact_iff subject).mp onPage with ⟨page, pageBound, onPage⟩
  exact ⟨block, text, uid, page, subject, textBound, uidBound, pageBound, hasText, hasUid, onPage⟩

/-- Every page has a title, no two entities share an identifier, and what a row shows of a block
has at most one value. -/
structure Regular (db : Database) : Prop where
  titled : ∀ block x, db.Has block .blockPage x →
    ∃ page title, x = .entity page ∧ db.Has page .nodeTitle title
  identified : ∀ first second x, db.Has first .blockUid x → db.Has second .blockUid x →
    first = second
  single : ∀ key ∈ [Attribute.blockString, .blockUid, .blockPage, .nodeTitle],
    ∀ entity x y, db.Has entity key x → db.Has entity key y → x = y

/-- The values are the identifier, the text and the page title of the block. -/
def HasRow (db : Database) (block : Nat) (values : List Value) : Prop :=
  ∃ row : ListedRow, row.Valid db block ∧ values = [row.uid, row.text, row.title]

/-- A block has one row. -/
theorem Regular.row_eq (regular : Regular db) {block : Nat} {values others : List Value}
    (has : HasRow db block values) (hasToo : HasRow db block others) : values = others := by
  rcases has with ⟨row, valid, rfl⟩
  rcases hasToo with ⟨other, validOther, rfl⟩
  have samePage : row.page = other.page :=
    Value.entity.inj (regular.single .blockPage (by decide) block _ _ valid.page validOther.page)
  have sameTitle : row.title = other.title :=
    regular.single .nodeTitle (by decide) row.page _ _ valid.title (samePage ▸ validOther.title)
  rw [sameTitle, regular.single .blockUid (by decide) block _ _ valid.uid validOther.uid,
    regular.single .blockString (by decide) block _ _ valid.text validOther.text]

/-- A row belongs to one block, since it shows the identifier. -/
theorem Regular.block_eq (regular : Regular db) {first second : Nat} {values : List Value}
    (has : HasRow db first values) (hasToo : HasRow db second values) : first = second := by
  rcases has with ⟨row, valid, rfl⟩
  rcases hasToo with ⟨other, validOther, same⟩
  have sameUid : row.uid = other.uid := (List.cons.inj same).1
  exact regular.identified first second row.uid valid.uid (sameUid ▸ validOther.uid)

/-- Every block that a solution is about has a row. -/
theorem Describes.exists_hasRow {block : Nat} {text uid page : Value}
    (describes : Describes db after block text uid page) (regular : Regular db) :
    ∃ values, HasRow db block values := by
  rcases regular.titled block page describes.page with ⟨entity, title, rfl, titled⟩
  exact ⟨_, ⟨text, uid, entity, title⟩,
    ⟨describes.text, describes.uid, describes.page, titled⟩, rfl⟩

/-- The blocks that the count request counts. -/
def counted (conditions : Conditions) (pageUid : Option String) (db : Database) : Set Value :=
  (conditions.clauses.countLayout pageUid).Values (conditions.clauses.count pageUid).arguments db
    .subject

/-- The rows that the find request finds. -/
def found (conditions : Conditions) (options : RequestOptions) (db : Database) :
    Set (List Value) :=
  (conditions.clauses.findLayout options defaultSelection).Rows
    (conditions.clauses.findRequest options defaultSelection).arguments db

/-- A counted block has a text, an identifier and a page. -/
theorem exists_describes_of_mem_counted {pageUid : Option String} {x : Value}
    (isCounted : x ∈ counted conditions pageUid db) :
    ∃ after block text uid page, x = .entity block ∧ Describes db after block text uid page ∧
      Form.Solve db (givenBindings conditions pageUid)
        (baseForms ++ (scopeForms pageUid ++ conditions.forms)) after := by
  rcases isCounted with ⟨after, solves, subject⟩
  have solved := solves_countLayout_iff.mp solves
  rcases exists_describes (Form.holdEach_append.mp solved.2).1 with
    ⟨block, text, uid, page, describes⟩
  cases subject.symm.trans describes.subject
  exact ⟨after, block, text, uid, page, rfl, describes, solved⟩

theorem mapM_defaultSelection :
    defaultSelection.mapM Var.read? = some [.blockUid, .blockText, .pageTitle] :=
  mapM_map_eq_some Var.read?_name _

/-- A found row belongs to a counted block: its title is left out. -/
theorem exists_counted_of_mem_found (ok : query.conditions clock = .ok conditions)
    {row : List Value} (isFound : row ∈ found conditions options db) :
    ∃ block, .entity block ∈ counted conditions options.pageUid db ∧ HasRow db block row := by
  rcases isFound with ⟨vars, after, selected, solves, values⟩
  cases mapM_defaultSelection.symm.trans selected
  have solved := solves_findLayout_iff.mp solves
  have hold := Form.holdEach_append.mp solved.2
  rcases exists_describes hold.1 with ⟨block, text, uid, page, describes⟩
  rcases hold.2.1 with ⟨entity, title, pageBound, titleBound, titled⟩
  cases describes.pageBound.symm.trans pageBound
  have untitled := (introduces_pageTitle ok options.pageUid).solve_erase
    (givenBindings_pageTitle ok options.pageUid) solved
  refine ⟨block, ⟨_, solves_countLayout_iff.mpr untitled, ?_⟩, ⟨text, uid, entity, title⟩,
    ⟨describes.text, describes.uid, describes.page, titled⟩, ?_⟩
  · rw [Bindings.erase_of_ne (by decide)]
    exact describes.subject
  · have titleBound : after .pageTitle = some title := titleBound
    have bound : row.map some = [uid, text, title].map some := by
      rw [← values]
      simp [describes.uidBound, describes.textBound, titleBound]
    exact List.map_injective_iff.mpr (Option.some_injective Value) bound

/-- A counted block has its row among the found ones: its title is added. -/
theorem mem_found_of_counted (ok : query.conditions clock = .ok conditions)
    (regular : Regular db) {block : Nat} {values : List Value}
    (isCounted : .entity block ∈ counted conditions options.pageUid db)
    (has : HasRow db block values) : values ∈ found conditions options db := by
  rcases exists_describes_of_mem_counted isCounted with
    ⟨after, _, text, uid, page, same, describes, solved⟩
  cases same
  rcases has with ⟨row, valid, rfl⟩
  have sameText := regular.single .blockString (by decide) block _ _ describes.text valid.text
  have sameUid := regular.single .blockUid (by decide) block _ _ describes.uid valid.uid
  have samePage := regular.single .blockPage (by decide) block _ _ describes.page valid.page
  have titleBound : after.set .pageTitle row.title .pageTitle = some row.title := if_pos rfl
  have titled : Form.Holds db (after.set .pageTitle row.title) pageTitleForm := by
    refine ⟨row.page, row.title, ?_, titleBound, valid.title⟩
    rw [Bindings.set_of_ne (by decide), describes.pageBound, samePage]
  have added := (introduces_pageTitle ok options.pageUid).solve_set
    (givenBindings_pageTitle ok options.pageUid) solved titled
  refine ⟨_, _, mapM_defaultSelection, solves_findLayout_iff.mpr added, ?_⟩
  rw [List.map_cons, List.map_cons, List.map_singleton, titleBound,
    Bindings.set_of_ne (by decide), Bindings.set_of_ne (by decide), describes.uidBound,
    describes.textBound, sameUid, sameText]
  rfl

/-- There are as many counted blocks as found rows. -/
theorem encard_counted_eq (ok : query.conditions clock = .ok conditions) (regular : Regular db) :
    (counted conditions options.pageUid db).encard = (found conditions options db).encard := by
  have described : ∀ x ∈ counted conditions options.pageUid db, ∃ block values,
      x = .entity block ∧ HasRow db block values := by
    intro x isCounted
    rcases exists_describes_of_mem_counted isCounted with ⟨_, block, _, _, _, same, describes, _⟩
    rcases describes.exists_hasRow regular with ⟨values, has⟩
    exact ⟨block, values, same, has⟩
  choose! block row same has using described
  have injective : Set.InjOn row (counted conditions options.pageUid db) := by
    intro x isCounted y isCountedToo equal
    have hasToo := has y isCountedToo
    rw [← equal] at hasToo
    rw [same x isCounted, same y isCountedToo, regular.block_eq (has x isCounted) hasToo]
  have image : row '' counted conditions options.pageUid db = found conditions options db := by
    apply Set.Subset.antisymm
    · rintro _ ⟨x, isCounted, rfl⟩
      exact mem_found_of_counted ok regular (same x isCounted ▸ isCounted) (has x isCounted)
    · intro values isFound
      rcases exists_counted_of_mem_found ok isFound with ⟨number, isCounted, hasFound⟩
      have own := has _ isCounted
      rw [← Value.entity.inj (same _ isCounted)] at own
      exact ⟨_, isCounted, regular.row_eq own hasFound⟩
  rw [← image, injective.encard_image]

end

/-! ## Both requests -/

theorem render_pageTitleForm : pageTitleForm.render = "[?p :node/title ?page-title]" := by
  decide

theorem render_pageScopeForm : pageScopeForm.render = "[?p :block/uid ?target-page-uid]" := by
  decide

theorem isSome_pageScope_iff {pageUid : Option String} :
    (pageScope pageUid).isSome ↔ ∃ uid ∈ pageUid, uid ≠ "" := by
  cases pageUid with
  | none => simp [pageScope]
  | some uid => simp [pageScope, Option.isSome_filter]

/-- Two requests with the same inputs.  The second one has the conditions of the first in the
same order, without the title of the page.  Both are restricted to a page if there is one. -/
structure SharesParts (find count : Datalog.Layout) (pageUid : Option String) : Prop where
  inputs : count.inputs = find.inputs
  conditions : ∃ before after,
    find.conditions = before ++ "[?p :node/title ?page-title]" :: after ∧
      count.conditions = before ++ after
  untitled : "[?p :node/title ?page-title]" ∉ count.conditions
  findScope : "[?p :block/uid ?target-page-uid]" ∈ find.conditions ↔ ∃ uid ∈ pageUid, uid ≠ ""
  countScope : "[?p :block/uid ?target-page-uid]" ∈ count.conditions ↔ ∃ uid ∈ pageUid, uid ≠ ""

/-- The restriction is among the conditions of a request if the request has a page. -/
theorem pageScopeForm_mem_iff (ok : query.conditions clock = .ok conditions)
    {forms : List Form} (others : pageScopeForm.render ∉ forms.map Form.render)
    (pageUid : Option String) :
    "[?p :block/uid ?target-page-uid]" ∈
        (forms ++ scopeForms pageUid).map Form.render ++ conditions.clauses.forms ↔
      ∃ uid ∈ pageUid, uid ≠ "" := by
  have noneOfQuery : pageScopeForm.render ∉ conditions.clauses.forms :=
    render_not_mem_forms ok (v := .page) (by decide) rfl
  rw [← isSome_pageScope_iff, ← render_pageScopeForm, List.map_append, List.mem_append,
    List.mem_append, or_iff_left noneOfQuery, or_iff_right others, scopeForms]
  split
  · next restricted => simp [restricted]
  · next free => simp [free]

theorem sharesParts_layouts (ok : query.conditions clock = .ok conditions)
    (options : RequestOptions) (selection : List String) :
    SharesParts (conditions.clauses.findLayout options selection)
      (conditions.clauses.countLayout options.pageUid) options.pageUid where
  inputs := rfl
  conditions := by
    refine ⟨baseForms.map Form.render,
      (scopeForms options.pageUid).map Form.render ++ conditions.clauses.forms, ?_, ?_⟩
    · rw [← render_pageTitleForm]
      simp [Clauses.findLayout]
    · simp [Clauses.countLayout]
  untitled := by
    rw [← render_pageTitleForm, Clauses.countLayout, List.map_append, List.mem_append,
      List.mem_append]
    rintro ((inBase | inScope) | inQuery)
    · revert inBase
      decide
    · unfold scopeForms at inScope
      split at inScope
      · revert inScope
        decide
      · cases inScope
    · exact render_not_mem_forms ok (v := .page) (by decide) rfl inQuery
  findScope := by
    have split : baseForms ++ pageTitleForm :: scopeForms options.pageUid =
        baseForms ++ [pageTitleForm] ++ scopeForms options.pageUid := by simp
    rw [Clauses.findLayout, split]
    exact pageScopeForm_mem_iff ok (by decide) options.pageUid
  countScope := pageScopeForm_mem_iff ok (by decide) options.pageUid

/-- Both requests of a query have the same inputs with the same arguments, and the same
conditions up to the title of the page.  In a graph in which every page has a title and a row
tells its block, the count request counts as many blocks as the find request has different rows
when they are neither bounded nor skipped. -/
theorem count_request_counts_found_rows (ok : query.conditions clock = .ok conditions)
    (options : RequestOptions) (selection : List String) :
    (conditions.clauses.MakesRequest options selection fun request =>
        request.text = (conditions.clauses.findLayout options selection).text ∧
        (conditions.clauses.count options.pageUid).arguments = request.arguments) ∧
      (conditions.clauses.count options.pageUid).text =
        (conditions.clauses.countLayout options.pageUid).text ∧
      SharesParts (conditions.clauses.findLayout options selection)
        (conditions.clauses.countLayout options.pageUid) options.pageUid ∧
      ∃ request,
        conditions.clauses.find { options with limit := none, offset := 0 } defaultSelection =
          .ok request ∧
        ∀ db, Regular db → (counted conditions options.pageUid db).encard =
          ((conditions.clauses.findLayout { options with limit := none, offset := 0 }
            defaultSelection).Rows request.arguments db).encard := by
  have unbounded : ({ options with limit := none, offset := 0 } : RequestOptions).Writable :=
    RequestOptions.writable_of_small (by simp) (by decide) _ _
  exact ⟨Clauses.makesRequest_of ⟨Clauses.text_findRequest _ _ _, rfl⟩, Clauses.text_count _ _,
    sharesParts_layouts ok options selection, _, Clauses.find_eq_ok_iff.mpr ⟨unbounded, rfl⟩,
    fun _ regular => encard_counted_eq ok regular⟩

end

theorem regular_of_facts {db : Database} (single : db.SingleValued)
    (titled : ∀ fact ∈ db.facts, fact.key = ":block/page" →
      ∃ title ∈ db.facts, fact.value = .entity title.entity ∧ title.key = ":node/title")
    (identified : ∀ first ∈ db.facts, ∀ second ∈ db.facts, first.key = ":block/uid" →
      second.key = ":block/uid" → first.value = second.value → first.entity = second.entity) :
    Regular db where
  titled block x onPage := by
    rcases titled _ onPage rfl with ⟨title, inFacts, same, key⟩
    refine ⟨title.entity, title.value, same, ?_⟩
    have isTitle : title = ⟨title.entity, ":node/title", title.value⟩ := by rw [← key]
    rw [isTitle] at inFacts
    exact inFacts
  identified first second x hasFirst hasSecond := identified _ hasFirst _ hasSecond rfl rfl rfl
  single key inKeys := single key (by rintro rfl; revert inKeys; decide)

/-- The first note of the daily page, with everything that the count request asks of it. -/
def shoppingNote : List (Var × Value) :=
  [(.subject, .entity 1), (.blockText, .text "buy milk"), (.blockUid, .text "b1"),
   (.page, .entity 3), (.targetPage, .text "01-01-2026"), (.pageRef 0, .entity 4)]

theorem counted_shoppingNote :
    .entity 1 ∈ counted { forms := referenceForms (.pageRef 0) .nodeTitle "shop" }
      (some "01-01-2026") dailyPageNotes := by
  refine ⟨.ofPairs shoppingNote, solves_countLayout_iff.mpr ⟨⟨?_, ?_⟩, ?_⟩, rfl⟩
  · intro v x bound
    have isPage := Bindings.mem_of_ofPairs bound
    cases List.mem_singleton.mp isPage
    rfl
  · intro v
    rw [givenBindings, Bindings.isSome_ofPairs, Bindings.isSome_ofPairs]
    change v ∈ [.subject, .blockText, .blockUid, .page, .targetPage, .pageRef 0] ↔
      v ∈ [.targetPage] ∨ v ∈ [.subject, .blockText, .subject, .blockUid, .subject, .page,
        .page, .targetPage, .pageRef 0, .subject, .pageRef 0]
    simp only [List.mem_cons, List.not_mem_nil, or_false]
    tauto
  · exact ⟨⟨1, _, rfl, rfl, by decide⟩, ⟨1, _, rfl, rfl, by decide⟩, ⟨1, _, rfl, rfl, by decide⟩,
      ⟨3, _, rfl, rfl, by decide⟩, ⟨4, _, rfl, rfl, by decide⟩, ⟨1, _, rfl, rfl, by decide⟩,
      trivial⟩

/-- One of two notes is counted, whatever part of the matches is asked for and in whatever
order. -/
theorem count_request_counts_found_rows_shoppingNote :
    Regular dailyPageNotes ∧ ∃ conditions, (tag "shop").conditions newYear = .ok conditions ∧
      SharesParts
        (conditions.clauses.findLayout ⟨some 1, 2, some "] :in", some "01-01-2026"⟩ ["?b"])
        (conditions.clauses.countLayout (some "01-01-2026")) (some "01-01-2026") ∧
      .entity 1 ∈ counted conditions (some "01-01-2026") dailyPageNotes ∧
      ∃ request,
        conditions.clauses.find ⟨none, 0, some "] :in", some "01-01-2026"⟩ defaultSelection =
          .ok request ∧
        (counted conditions (some "01-01-2026") dailyPageNotes).encard =
          ((conditions.clauses.findLayout ⟨none, 0, some "] :in", some "01-01-2026"⟩
            defaultSelection).Rows request.arguments dailyPageNotes).encard := by
  have regular : Regular dailyPageNotes := regular_of_facts
    (Database.singleValued_of_facts (by decide)) (by decide) (by decide)
  have ok : (tag "shop").conditions newYear =
      .ok { forms := referenceForms (.pageRef 0) .nodeTitle "shop" } := rfl
  have agree := count_request_counts_found_rows ok
    ⟨some 1, 2, some "] :in", some "01-01-2026"⟩ ["?b"]
  obtain ⟨-, -, shares, request, made, counts⟩ := agree
  exact ⟨regular, _, ok, shares, counted_shoppingNote, request, made,
    counts dailyPageNotes regular⟩

end BlockQuery.Query
