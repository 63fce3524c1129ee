import BlockQuery.Proofs.Datalog.RequestText
import BlockQuery.Proofs.Datalog.Satisfaction
import BlockQuery.Text.Find

/-!
# The answers of a request

The trees of a request are read as variables and forms, and its inputs take the
given values in order.  A request selects what its subject can be in a solution
of its conditions.  Every variable and every form is read back from its tree, so
a request is read as the conditions that it was written from.
-/

namespace BlockQuery.Datalog

open BlockQuery.Text

/-! ## Reading variables -/

namespace Var

/-- The variables without a number. -/
def fixed : List Var :=
  [subject, blockText, blockUid, page, pageTitle, targetPage, createTime, dailyPage, dailyTitle,
   creator, editor, eitherCreator, eitherEditor]

/-- A fixed beginning with a number behind it. -/
def numbered? (start : String) (make : Nat → Var) (text : List Char) : Option Var :=
  (dropStart? start.toList text).map fun digits => make (Nat.ofDigitChars 10 digits 0)

/-- The variable that a name stands for. -/
def ofName? (text : List Char) : Option Var :=
  (fixed.find? (·.name.toList == text) <|> numbered? "?ref-" pageRef text <|>
    numbered? "?block-ref-" blockRef text <|> numbered? "?start-date-" startDate text <|>
    numbered? "?end-date-" endDate text).filter (·.name.toList == text)

theorem toList_numbered (start : String) (index : Nat) :
    (start ++ toString index).toList = start.toList ++ Nat.toDigits 10 index := by
  rw [String.toList_append, Nat.toString_eq_repr, Nat.toList_repr]

theorem numbered?_append (start : String) (make : Nat → Var) (index : Nat) :
    numbered? start make (start.toList ++ Nat.toDigits 10 index) = some (make index) := by
  have digits : Nat.ofDigitChars 10 (Nat.toDigits 10 index) 0 = index :=
    Nat.ofDigitChars_toDigits (by decide) (by decide)
  rw [numbered?, dropStart?_append, Option.map_some, digits]

theorem find?_fixed_numbered {start : String}
    (other : ∀ v ∈ fixed, dropStart? start.toList v.name.toList = none) (digits : List Char) :
    fixed.find? (·.name.toList == start.toList ++ digits) = none := by
  rw [List.find?_eq_none]
  intro v inFixed same
  rw [beq_iff_eq] at same
  have apart := other v inFixed
  rw [same, dropStart?_append] at apart
  cases apart

theorem ofName?_name (v : Var) : ofName? v.name.toList = some v := by
  cases v with
  | pageRef index =>
      have chars : (pageRef index).name.toList = "?ref-".toList ++ Nat.toDigits 10 index :=
        toList_numbered "?ref-" index
      rw [ofName?, chars, find?_fixed_numbered (by decide), numbered?_append]
      exact if_pos (beq_iff_eq.mpr chars)
  | blockRef index =>
      have chars : (blockRef index).name.toList =
          "?block-ref-".toList ++ Nat.toDigits 10 index := toList_numbered "?block-ref-" index
      rw [ofName?, chars, find?_fixed_numbered (by decide), numbered?_append]
      exact if_pos (beq_iff_eq.mpr chars)
  | startDate index =>
      have chars : (startDate index).name.toList =
          "?start-date-".toList ++ Nat.toDigits 10 index := toList_numbered "?start-date-" index
      rw [ofName?, chars, find?_fixed_numbered (by decide), numbered?_append]
      exact if_pos (beq_iff_eq.mpr chars)
  | endDate index =>
      have chars : (endDate index).name.toList =
          "?end-date-".toList ++ Nat.toDigits 10 index := toList_numbered "?end-date-" index
      rw [ofName?, chars, find?_fixed_numbered (by decide), numbered?_append]
      exact if_pos (beq_iff_eq.mpr chars)
  | _ => decide

end Var

/-! ## Reading forms -/

/-- The variable that a tree stands for. -/
def Var.ofTree? : Tree → Option Var
  | .name text => ofName? text
  | _ => none

/-- The attribute that a tree stands for. -/
def Attribute.ofTree? : Tree → Option Attribute
  | .name text => every.find? (·.name.toList == text)
  | _ => none
where
  /-- All attributes. -/
  every : List Attribute :=
    [blockString, blockUid, blockPage, blockRefs, nodeTitle, createTime, createUser, editUser,
     displayName]

/-- The text that a literal stands for. -/
def textOf? : Tree → Option String
  | .literal raw => (unescape raw).map String.ofList
  | _ => none

/-- The term that a tree stands for. -/
def Term.ofTree? (tree : Tree) : Option Term :=
  (Var.ofTree? tree).map .var <|> (textOf? tree).map .text

theorem Var.ofTree?_tree (v : Var) : Var.ofTree? v.tree = some v :=
  v.ofName?_name

theorem Attribute.ofTree?_tree (key : Attribute) : Attribute.ofTree? key.tree = some key := by
  cases key <;> decide

theorem textOf?_literal (s : String) : textOf? (.literal (escape s.toList)) = some s := by
  rw [textOf?, unescape_escape, Option.map_some, String.ofList_toList]

theorem Term.ofTree?_tree (term : Term) : Term.ofTree? term.tree = some term := by
  cases term with
  | var v =>
      rw [Term.ofTree?, Term.tree, Var.ofTree?_tree]
      rfl
  | text s =>
      rw [Term.ofTree?, Term.tree, textOf?_literal]
      rfl

namespace Form

/-- The data pattern that three trees stand for. -/
def fact? (entity key value : Tree) : Option Form := do
  return fact (← Var.ofTree? entity) (← Attribute.ofTree? key) (← Term.ofTree? value)

/-- The comparison of two variables. -/
def comparison? (make : Var → Var → Form) : List Tree → Option Form
  | [value, bound] => do return make (← Var.ofTree? value) (← Var.ofTree? bound)
  | _ => none

/-- The search for a text in a variable. -/
def includes? : List Tree → Option Form
  | [value, part] => do return includes (← Var.ofTree? value) (← textOf? part)
  | _ => none

/-- The test for the title of a daily page. -/
def isDailyTitle? : List Tree → Option Form
  | [.name ['#'], .literal pattern, value] =>
    if pattern = dailyTitleLiteral then (Var.ofTree? value).map isDailyTitle else none
  | _ => none

/-- The predicate that a function and its operands stand for. -/
def predicate? (function : List Char) (operands : List Tree) : Option Form :=
  if function = ">=".toList then comparison? atLeast operands
  else if function = "<=".toList then comparison? atMost operands
  else if function = "clojure.string/includes?".toList then includes? operands
  else if function = "re-find".toList then isDailyTitle? operands
  else none

mutual

/-- The form that a tree stands for. -/
def ofTree? : Tree → Option Form
  | .group .square [.group .round (.name function :: operands)] => predicate? function operands
  | .group .square [entity, key, value] => fact? entity key value
  | .group .round (.name connective :: operands) =>
    if connective = "and".toList then
      (ofTrees? operands).map and
    else if connective = "or-join".toList then
      (branches? operands).map orJoin
    else if connective = "not".toList then
      (operand? operands).map not
    else
      none
  | _ => none

/-- The branches behind the variables that are carried into them; these must be
the subject alone. -/
def branches? : List Tree → Option (List Form)
  | .group .square [carried] :: branches =>
    if Var.ofTree? carried = some .subject then ofTrees? branches else none
  | _ => none

/-- The form that a single operand stands for. -/
def operand? : List Tree → Option Form
  | [operand] => ofTree? operand
  | _ => none

/-- The forms that several trees stand for. -/
def ofTrees? : List Tree → Option (List Form)
  | [] => some []
  | tree :: trees => do return (← ofTree? tree) :: (← ofTrees? trees)

end

mutual

/-- A form is read back from its tree. -/
theorem ofTree?_tree (form : Form) : ofTree? form.tree = some form := by
  cases form with
  | fact entity key value =>
      change fact? entity.tree key.tree value.tree = _
      rw [fact?, Var.ofTree?_tree, Attribute.ofTree?_tree, Term.ofTree?_tree]
      rfl
  | atLeast value bound =>
      change comparison? atLeast [value.tree, bound.tree] = _
      rw [comparison?, Var.ofTree?_tree, Var.ofTree?_tree]
      rfl
  | atMost value bound =>
      change comparison? atMost [value.tree, bound.tree] = _
      rw [comparison?, Var.ofTree?_tree, Var.ofTree?_tree]
      rfl
  | includes value part =>
      change includes? [value.tree, .literal (escape part.toList)] = _
      rw [includes?, Var.ofTree?_tree, textOf?_literal]
      rfl
  | isDailyTitle value =>
      have called : ofTree? (isDailyTitle value).tree =
          predicate? "re-find".toList [.name ['#'], .literal dailyTitleLiteral, value.tree] := rfl
      rw [called, predicate?, if_neg (by decide), if_neg (by decide), if_neg (by decide),
        if_pos rfl, isDailyTitle?, if_pos rfl, Var.ofTree?_tree, Option.map_some]
  | and forms =>
      rw [tree, connectiveTree, ofTree?, if_pos rfl, ofTrees?_treeEach, Option.map_some]
  | orJoin branches =>
      rw [tree, connectiveTree, ofTree?, if_neg (by decide), if_pos rfl, branches?,
        if_pos (Var.ofTree?_tree .subject), ofTrees?_treeEach, Option.map_some]
  | not form =>
      rw [tree, connectiveTree, ofTree?, if_neg (by decide), if_neg (by decide), if_pos rfl,
        operand?, ofTree?_tree, Option.map_some]

/-- Several forms are read back from their trees. -/
theorem ofTrees?_treeEach (forms : List Form) : ofTrees? (treeEach forms) = some forms := by
  cases forms with
  | nil => rfl
  | cons form forms =>
      rw [treeEach, ofTrees?, ofTree?_tree, ofTrees?_treeEach]
      rfl

end
end Form

/-! ## Inputs and answers -/

/-- The variables that several trees stand for. -/
def Var.ofTrees? : List Tree → Option (List Var)
  | [] => some []
  | tree :: trees => do return (← ofTree? tree) :: (← ofTrees? trees)

theorem Var.ofTrees?_map_tree (vars : List Var) : ofTrees? (vars.map tree) = some vars := by
  induction vars with
  | nil => rfl
  | cons v vars ih =>
      rw [List.map_cons, ofTrees?, ofTree?_tree, ih]
      rfl

/-- The inputs behind the database. -/
def inputVars? : List Tree → Option (List Var)
  | .name ['$'] :: vars => Var.ofTrees? vars
  | _ => none

/-- The value of an argument. -/
def Value.ofJson? : Json → Option Value
  | .int n => some (.number n)
  | .str s => some (.text s)
  | _ => none

/-- The inputs with their arguments, which are as many. -/
def pairInputs : List Var → List Json → Option (List (Var × Value))
  | [], [] => some []
  | v :: vars, value :: values => do return (v, ← Value.ofJson? value) :: (← pairInputs vars values)
  | _, _ => none

/-- Numbers in front of other arguments. -/
theorem pairInputs_numbers (inputs : List (Var × Int)) {vars : List Var} {values : List Json}
    {pairs : List (Var × Value)} (rest : pairInputs vars values = some pairs) :
    pairInputs (inputs.map Prod.fst ++ vars) (inputs.map (fun input => .int input.2) ++ values) =
      some (inputs.map (fun input => (input.1, .number input.2)) ++ pairs) := by
  induction inputs with
  | nil => exact rest
  | cons input inputs ih =>
      simp only [List.map_cons, List.cons_append, pairInputs, Value.ofJson?, ih]
      rfl

/-- The value is one of those that the request is about: its conditions have a
solution that starts from the inputs and gives this value to the subject. -/
def Request.Selects (request : Request) (db : Database) (x : Value) : Prop :=
  ∃ inputs forms vars pairs conditions after,
    readSection ":in" request.text = some inputs ∧
    readSection ":where" request.text = some forms ∧
    inputVars? inputs = some vars ∧
    pairInputs vars request.arguments = some pairs ∧
    Form.ofTrees? forms = some conditions ∧
    Form.Solve db (.ofPairs pairs) conditions after ∧
    after .subject = some x

/-- A request that is read as inputs and conditions selects what solves these. -/
theorem Request.selects_iff {request : Request} {vars : List Var} {forms : List Form}
    {pairs : List (Var × Value)}
    (inputs : readSection ":in" request.text = some (.name ['$'] :: vars.map Var.tree))
    (conditions : readSection ":where" request.text = some (forms.map Form.tree))
    (arguments : pairInputs vars request.arguments = some pairs) (db : Database) (x : Value) :
    request.Selects db x ↔
      ∃ after, Form.Solve db (.ofPairs pairs) forms after ∧ after .subject = some x := by
  have readInputs : inputVars? (.name ['$'] :: vars.map Var.tree) = some vars :=
    Var.ofTrees?_map_tree vars
  have readForms : Form.ofTrees? (forms.map Form.tree) = some forms := by
    rw [← Form.treeEach_eq_map, Form.ofTrees?_treeEach]
  constructor
  · rintro ⟨_, _, _, _, _, after, foundInputs, foundForms, asVars, asPairs, asForms, solved⟩
    cases inputs.symm.trans foundInputs
    cases conditions.symm.trans foundForms
    cases readInputs.symm.trans asVars
    cases arguments.symm.trans asPairs
    cases readForms.symm.trans asForms
    exact ⟨after, solved⟩
  · rintro ⟨after, solved⟩
    exact ⟨_, _, vars, pairs, forms, after, inputs, conditions, readInputs, arguments, readForms,
      solved⟩

end BlockQuery.Datalog
