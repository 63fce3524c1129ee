import BlockQuery.Proofs.Datalog.RequestText
import BlockQuery.Proofs.Query.Compilation

/-!
# Quoted texts of a query

The texts of a query's leaves enter its conditions as literals and in no other
way.  Whatever characters they hold, every condition stays one bracketed form,
its literals denote the texts of the leaves from left to right, and a request
is read as exactly the conditions that were put into it.
-/

namespace BlockQuery.Query

open Datalog

/-- What a leaf puts between quotes. -/
inductive Quotation
  /-- The text of a leaf. -/
  | text (s : String)
  /-- The regular expression of daily page titles. -/
  | dailyTitle

namespace Quotation

/-- The characters between the quotes. -/
def raw : Quotation → List Char
  | text s => escape s.toList
  | dailyTitle => dailyTitleLiteral

/-- The characters between two quotes denote the text of a leaf, or are the fixed
regular expression. -/
def Denoted : List Char → Quotation → Prop
  | raw, text s => unescape raw = some s.toList
  | raw, dailyTitle => raw = dailyTitleLiteral

theorem denoted_raw (quotation : Quotation) : Denoted quotation.raw quotation := by
  cases quotation with
  | text s => exact unescape_escape s.toList
  | dailyTitle => rfl

end Quotation

mutual

/-- What the leaves of a tree quote, from left to right. Both of the branches
that ask for an author quote the name. -/
def quotations : Query → List Quotation
  | tag text | blockRef text | search text | createdBy text | editedBy text => [.text text]
  | touchedBy user => [.text user, .text user]
  | dailyNotes => [.dailyTitle]
  | between .. => []
  | all children | any children => quotationsEach children
  | not child => quotations child

/-- What the leaves of several trees quote, from left to right. -/
def quotationsEach : List Query → List Quotation
  | [] => []
  | child :: children => quotations child ++ quotationsEach children

end

/-! ## Literals of conditions -/

/-- The literals of several forms, as they are written. -/
def literalsOf (forms : List Form) : List (List Char) :=
  forms.flatMap fun form => form.tree.literals

theorem literals_connectiveTree (connective : String) (items : List Tree) :
    (Form.connectiveTree connective items).literals = items.flatMap Tree.literals := by
  rw [Form.connectiveTree, Tree.literals, Tree.literalsEach, Tree.literals,
    Tree.literalsEach_eq_flatMap, List.nil_append]

theorem literals_and (forms : List Form) : (Form.and forms).tree.literals = literalsOf forms := by
  rw [Form.tree, literals_connectiveTree, Form.treeEach_eq_map, List.flatMap_map]
  rfl

theorem literals_orJoin (branches : List Form) :
    (Form.orJoin branches).tree.literals = literalsOf branches := by
  rw [Form.tree, literals_connectiveTree, List.flatMap_cons, Form.treeEach_eq_map,
    List.flatMap_map]
  rfl

theorem literals_not (form : Form) : (Form.not form).tree.literals = form.tree.literals := by
  rw [Form.tree, literals_connectiveTree, List.flatMap_singleton]

theorem literals_group (forms : List Form) :
    (Form.group forms).tree.literals = literalsOf forms := by
  unfold Form.group
  split
  · exact (List.append_nil _).symm
  · exact literals_and forms

/-- The literals of the conditions of a query are what its leaves quote. -/
theorem literalsOf_conditions (clock : Calendar.Clock) :
    Compiles clock
      (fun _ _ query conditions =>
        literalsOf conditions.forms = query.quotations.map Quotation.raw)
      (fun _ _ children parts =>
        parts.flatMap (fun part => literalsOf part.forms) =
          (quotationsEach children).map Quotation.raw) where
  tag _ _ _ := rfl
  blockRef _ _ _ := rfl
  all _ _ children parts each := by
    rw [quotations, ← each, Conditions.conjunction, literalsOf, List.flatMap_assoc]
    rfl
  any _ _ children parts each := by
    rw [quotations, ← each, Conditions.disjunction, literalsOf, List.flatMap_singleton,
      literals_orJoin, literalsOf, List.flatMap_map]
    simp only [literals_group]
  not _ _ child conditions inner := by
    rw [quotations, ← inner, Conditions.wrap, literalsOf, List.flatMap_singleton, literals_not,
      literals_group]
  between _ _ _ _ _ _ _ _ := rfl
  search _ _ _ := rfl
  dailyNotes _ _ := rfl
  touchedBy _ _ _ := rfl
  createdBy _ _ _ := rfl
  editedBy _ _ _ := rfl
  nil _ _ := rfl
  cons _ _ child children conditions parts first rest := by
    rw [quotationsEach, List.map_append, ← first, ← rest, List.flatMap_cons]

/-! ## Reading conditions back -/

/-- The text is read as one bracketed form. -/
def ReadsAs (text : String) (tree : Tree) : Prop :=
  readTrees text.toList = some [tree] ∧ tree.isGroup

theorem readsAs_render (form : Form) : ReadsAs form.render form.tree :=
  ⟨form.readTrees_render, form.isGroup_tree⟩

theorem readsAs_renderEach (forms : List Form) :
    List.Forall₂ ReadsAs (forms.map Form.render) (forms.map Form.tree) := by
  rw [List.forall₂_map_left_iff, List.forall₂_map_right_iff]
  exact List.forall₂_same.mpr fun form _ => readsAs_render form

/-- The conditions of a find request are the fixed ones and those of the query,
and its inputs are those of the query and the page. -/
theorem readSection_conditions (conditions : Conditions) {options : RequestOptions}
    (readable : options.OrderReadable) :
    readSection ":in" (conditions.clauses.findRequest options defaultSelection).text =
        some (.name ['$'] ::
          (inputVars (conditions.inputs.map Prod.fst) options.pageUid).map Var.tree) ∧
      readSection ":where" (conditions.clauses.findRequest options defaultSelection).text =
        some ((findForms options.pageUid conditions.forms).map Form.tree) := by
  have rendered : conditions.clauses.forms = conditions.forms.map Form.render := rfl
  have named : conditions.clauses.inputs = (conditions.inputs.map Prod.fst).map Var.name := by
    rw [List.map_map]
    rfl
  exact readSection_findRequest rendered named readable

theorem readTrees_defaultOrder :
    readTrees defaultOrder.toList =
      some ([Var.blockUid.name, "asc"].map fun text => .name text.toList) := by
  have names : ∀ text ∈ [Var.blockUid.name, "asc"],
      SpellsOpen text.toList [.name text.toList] := by
    intro text inNames
    simp only [List.mem_cons, List.not_mem_nil, or_false] at inNames
    rcases inNames with rfl | rfl
    · exact Var.blockUid.spells
    · exact spells_name (by decide) (by decide)
  rw [readTrees_eq_some_iff]
  exact spells_names names

theorem orderReadable_default {options : RequestOptions}
    (order : options.order ∈ [none, some "", some defaultOrder]) : options.OrderReadable := by
  intro text given
  simp only [List.mem_cons, List.not_mem_nil, or_false] at order
  rcases order with absent | empty | standard
  · rw [absent] at given
    cases given
  · rw [empty] at given
    cases given
    have read : readTrees "".toList = some [] := by
      rw [readTrees_eq_some_iff]
      exact spells_nil.toOpen
    exact ⟨[], read, by simp⟩
  · rw [standard] at given
    cases given
    exact ⟨_, readTrees_defaultOrder, by decide⟩

/-- No text of a leaf leaves its quotes: every condition is one bracketed form,
the literals of all conditions denote what the leaves quote, and the conditions
of a find request are read as the fixed ones and these, one form each. -/
theorem conditions_read_one_by_one {clock : Calendar.Clock} {query : Query}
    {conditions : Conditions} (ok : query.conditions clock = .ok conditions) :
    (∃ trees, List.Forall₂ ReadsAs conditions.clauses.forms trees ∧
        List.Forall₂ Quotation.Denoted (trees.flatMap Tree.literals) query.quotations) ∧
      ∀ options : RequestOptions, options.order ∈ [none, some "", some defaultOrder] →
        conditions.clauses.MakesRequest options defaultSelection fun request =>
          ∃ trees, readSection ":where" request.text = some trees ∧
            List.Forall₂ ReadsAs
              ((baseForms ++ pageTitleForm :: scopeForms options.pageUid).map Form.render ++
                conditions.clauses.forms) trees := by
  constructor
  · refine ⟨conditions.forms.map Form.tree, readsAs_renderEach conditions.forms, ?_⟩
    have literals := (literalsOf_conditions clock).holds query ok
    rw [List.flatMap_map, ← literalsOf, literals, List.forall₂_map_left_iff]
    exact List.forall₂_same.mpr fun quotation _ => quotation.denoted_raw
  · intro options order
    have read := (readSection_conditions conditions (orderReadable_default order)).2
    refine Clauses.makesRequest_of ⟨_, read, ?_⟩
    have fixed := readsAs_renderEach (findForms options.pageUid conditions.forms)
    rw [findForms, List.map_append] at fixed
    exact fixed

/-- Quotes, backslashes and brackets in the texts of leaves stay between their quotes. -/
theorem conditions_read_one_by_one_hostile :
    ∃ conditions,
      (all [tag "a\"b\\", not (search "]) [("), dailyNotes,
        any [touchedBy "\\\""]]).conditions newYear = .ok conditions ∧
      (∃ trees, List.Forall₂ ReadsAs conditions.clauses.forms trees ∧
        List.Forall₂ Quotation.Denoted (trees.flatMap Tree.literals)
          [.text "a\"b\\", .text "]) [(", .dailyTitle, .text "\\\"", .text "\\\""]) ∧
      ∃ request,
        conditions.clauses.find ⟨some 5, 1, some defaultOrder, some "]\""⟩ defaultSelection =
          .ok request ∧
        ∃ trees, readSection ":where" request.text = some trees ∧
          List.Forall₂ ReadsAs
            ((baseForms ++ [pageTitleForm, pageScopeForm]).map Form.render ++
              conditions.clauses.forms) trees := by
  have compiled : ∃ conditions, (all [tag "a\"b\\", not (search "]) [("), dailyNotes,
      any [touchedBy "\\\""]]).conditions newYear = .ok conditions := ⟨_, rfl⟩
  rcases compiled with ⟨conditions, ok⟩
  have read := conditions_read_one_by_one ok
  have writable : (⟨some 5, 1, some defaultOrder, some "]\""⟩ : RequestOptions).Writable :=
    RequestOptions.writable_of_small (by decide) (by decide) _ _
  exact ⟨conditions, ok, read.1,
    (read.2 ⟨some 5, 1, some defaultOrder, some "]\""⟩ (by decide)).made writable⟩

end BlockQuery.Query
