import BlockQuery.Datalog.Form
import BlockQuery.Proofs.Datalog.TextTree

/-!
# The texts of forms

Every form has a tree, and its text is read as exactly this tree.  The only
characters of a form that are not fixed stand between the quotes of its
literals, and escaping keeps them there: an escaped text never ends its literal
early, and it denotes the text that was escaped.
-/

namespace BlockQuery.Datalog

open BlockQuery.Text

/-! ## Literals -/

/-- An escaped text ends its literal at the quote behind it and nowhere else. -/
theorem literalBody_escape (text rest : List Char) :
    literalBody (escape text ++ '"' :: rest) = some (escape text, rest) := by
  induction text with
  | nil => rfl
  | cons c text ih =>
      by_cases special : c = '\\' ∨ c = '"'
      · simp [escape, special, literalBody, ih]
      · rw [not_or] at special
        simp [escape, special, literalBody, ih]

/-- An escaped text denotes the text itself. -/
theorem unescape_escape (text : List Char) : unescape (escape text) = some text := by
  induction text with
  | nil => rfl
  | cons c text ih =>
      by_cases special : c = '\\' ∨ c = '"'
      · simp [escape, special, unescape, ih]
      · rw [not_or] at special
        simp [escape, special, unescape, ih]

theorem spells_quote (text : String) :
    Spells (quote text).toList [.literal (escape text.toList)] := by
  have spelled := spells_literal (literalBody_escape text.toList)
  simpa [quote, escapeString] using spelled

/-- The regular expression of daily page titles between its quotes. -/
def dailyTitleLiteral : List Char :=
  (dailyTitlePattern.toList.drop 2).dropLast

theorem dailyTitlePattern_toList :
    dailyTitlePattern.toList = ['#'] ++ ('"' :: dailyTitleLiteral ++ ['"']) := by
  decide +kernel

theorem spells_dailyTitlePattern :
    SpellsOpen dailyTitlePattern.toList [.name ['#'], .literal dailyTitleLiteral] := by
  have ends : literalBody (dailyTitleLiteral ++ ['"']) = some (dailyTitleLiteral, []) := by
    decide +kernel
  have hash : SpellsOpen ['#'] [.name ['#']] := spells_name (by decide) (by decide)
  have literal : Spells ('"' :: dailyTitleLiteral ++ ['"']) [.literal dailyTitleLiteral] := by
    apply spells_literal
    intro rest
    have goesOn := literalBody_append ends rest
    rwa [List.append_assoc, List.singleton_append] at goesOn
  rw [dailyTitlePattern_toList]
  exact (hash.close literal fun rest => boundary_cons.mpr rfl).toOpen

/-! ## Names -/

theorem isNameChar_of_isDigit {c : Char} (digit : c.isDigit) : isNameChar c := by
  have range : 48 ≤ c.toNat ∧ c.toNat ≤ 57 := by
    simpa [Char.isDigit, UInt32.le_iff_toNat_le] using digit
  have notBlank : isBlank c = false := by
    simp [isBlank]
    omega
  have notBracket : Token.bracket? c = none := by
    unfold Token.bracket?
    split <;> first | rfl | (exfalso; revert range; decide)
  have notQuote : c ≠ '"' := by
    rintro rfl
    revert range
    decide
  simp [isNameChar, notBlank, notBracket, notQuote]

/-- A fixed beginning with a number behind it is one name. -/
theorem spells_numbered {start : String} (nonempty : start.toList ≠ [])
    (named : start.toList.all isNameChar) (index : Nat) :
    SpellsOpen (start ++ toString index).toList [.name (start ++ toString index).toList] := by
  apply spells_name
  · simp [nonempty]
  · rw [String.toList_append, List.all_append, named, Bool.true_and, List.all_eq_true]
    intro c inDigits
    rw [Nat.toString_eq_repr, Nat.toList_repr] at inDigits
    exact isNameChar_of_isDigit (Nat.isDigit_of_mem_toDigits (by decide) (by decide) inDigits)

theorem Var.spells (v : Var) : SpellsOpen v.name.toList [.name v.name.toList] := by
  cases v with
  | pageRef index | blockRef index | startDate index | endDate index =>
      exact spells_numbered (by decide) (by decide) index
  | _ => exact spells_name (by decide) (by decide)

theorem Attribute.spells (key : Attribute) :
    SpellsOpen key.name.toList [.name key.name.toList] := by
  cases key <;> exact spells_name (by decide) (by decide)

/-- A name and the blank behind it. -/
theorem SpellsOpen.blank {chars : List Char} {written : List Token}
    (spells : SpellsOpen chars written) : Spells (chars ++ [' ']) written := by
  have closed := spells.close (spells_blank (c := ' ') rfl) fun _ => boundary_of_blank rfl
  simpa using closed

/-- A name and the bracket behind it. -/
theorem SpellsOpen.bracket {chars : List Char} {written : List Token} {c : Char} {token : Token}
    (spells : SpellsOpen chars written) (isBracket : Token.bracket? c = some token) :
    Spells (chars ++ [c]) (written ++ [token]) :=
  spells.close (spells_bracket isBracket) fun _ => boundary_of_bracket isBracket

/-! ## Trees of forms -/

/-- The tree of a variable. -/
def Var.tree (v : Var) : Tree :=
  .name v.name.toList

/-- The tree of an attribute. -/
def Attribute.tree (key : Attribute) : Tree :=
  .name key.name.toList

/-- The tree of a term. -/
def Term.tree : Term → Tree
  | var v => v.tree
  | text s => .literal (escape s.toList)

theorem Term.spells (term : Term) : SpellsOpen term.render.toList term.tree.tokens := by
  cases term with
  | var v => exact v.spells
  | text s => exact (spells_quote s).toOpen

namespace Form

/-- The tree of a predicate. -/
def callTree (function : String) (operands : List Tree) : Tree :=
  .group .square [.group .round (.name function.toList :: operands)]

/-- The tree of a connective. -/
def connectiveTree (connective : String) (operands : List Tree) : Tree :=
  .group .round (.name connective.toList :: operands)

mutual

/-- The tree of a form. -/
def tree : Form → Tree
  | fact entity key value => .group .square [entity.tree, key.tree, value.tree]
  | atLeast value bound => callTree ">=" [value.tree, bound.tree]
  | atMost value bound => callTree "<=" [value.tree, bound.tree]
  | includes value part =>
    callTree "clojure.string/includes?" [value.tree, .literal (escape part.toList)]
  | isDailyTitle value =>
    callTree "re-find" [.name ['#'], .literal dailyTitleLiteral, value.tree]
  | and forms => connectiveTree "and" (treeEach forms)
  | orJoin branches =>
    connectiveTree "or-join" (.group .square [Var.subject.tree] :: treeEach branches)
  | not form => connectiveTree "not" [tree form]

/-- The trees of several forms. -/
def treeEach : List Form → List Tree
  | [] => []
  | form :: forms => tree form :: treeEach forms

end

theorem treeEach_eq_map (forms : List Form) : treeEach forms = forms.map tree := by
  induction forms with
  | nil => rfl
  | cons form forms ih => rw [treeEach, ih, List.map_cons]

theorem isGroup_tree (form : Form) : form.tree.isGroup := by
  cases form <;> rfl

/-! ## Texts of forms -/

/-- The texts of several forms with one blank between neighbours. -/
def joined (forms : List Form) : List Char :=
  [' '].intercalate (forms.map fun form => form.render.toList)

/-- The text of a predicate with two operands. -/
def callText (function first second : String) : List Char :=
  ['['] ++ ['('] ++ (function.toList ++ [' ']) ++ (first.toList ++ [' ']) ++
    (second.toList ++ [')']) ++ [']']

/-- The text of a connective with its operands. -/
def connectiveText (connective : String) (operands : List Char) : List Char :=
  ['('] ++ (connective.toList ++ [' ']) ++ (operands ++ [')'])

theorem toList_render_fact (entity : Var) (key : Attribute) (value : Term) :
    (fact entity key value).render.toList =
      ['['] ++ (entity.name.toList ++ [' ']) ++ (key.name.toList ++ [' ']) ++
        (value.render.toList ++ [']']) := by
  change ("[" ++ entity.name ++ " " ++ key.name ++ " " ++ value.render ++ "]").toList = _
  simp

theorem toList_render_atLeast (value bound : Var) :
    (atLeast value bound).render.toList = callText ">=" value.name bound.name := by
  change ("[(>= " ++ value.name ++ " " ++ bound.name ++ ")]").toList = _
  simp [callText]

theorem toList_render_atMost (value bound : Var) :
    (atMost value bound).render.toList = callText "<=" value.name bound.name := by
  change ("[(<= " ++ value.name ++ " " ++ bound.name ++ ")]").toList = _
  simp [callText]

theorem toList_render_includes (value : Var) (part : String) :
    (includes value part).render.toList =
      callText "clojure.string/includes?" value.name (quote part) := by
  change ("[(clojure.string/includes? " ++ value.name ++ " " ++ quote part ++ ")]").toList = _
  simp [callText]

theorem toList_render_isDailyTitle (value : Var) :
    (isDailyTitle value).render.toList = callText "re-find" dailyTitlePattern value.name := by
  change ("[(re-find " ++ dailyTitlePattern ++ " " ++ value.name ++ ")]").toList = _
  simp [callText]

theorem toList_render_and (forms : List Form) :
    (and forms).render.toList = connectiveText "and" (joined forms) := by
  change ("(and " ++ " ".intercalate (renderEach forms) ++ ")").toList = _
  simp [connectiveText, joined, renderEach_eq_map, Function.comp_def]

theorem toList_render_orJoin (branches : List Form) :
    (orJoin branches).render.toList =
      connectiveText "or-join"
        (['['] ++ (Var.subject.name.toList ++ [']']) ++ [' '] ++ joined branches) := by
  change ("(or-join [" ++ Var.subject.name ++ "] " ++
    " ".intercalate (renderEach branches) ++ ")").toList = _
  simp [connectiveText, joined, renderEach_eq_map, Function.comp_def]

theorem toList_render_not (form : Form) :
    (not form).render.toList = connectiveText "not" form.render.toList := by
  change ("(not " ++ form.render ++ ")").toList = _
  simp [connectiveText]

theorem spells_callText {function first second : String} {before after : List Token}
    (named : SpellsOpen function.toList [.name function.toList])
    (left : SpellsOpen first.toList before) (right : SpellsOpen second.toList after) :
    Spells (callText function first second)
      (.opening .square :: .opening .round :: .name function.toList :: before ++ after ++
        [.closing .round, .closing .square]) := by
  have inner := ((spells_bracket (c := '[') rfl).append (spells_bracket (c := '(') rfl)).append
    named.blank
  have operands := (inner.append left.blank).append (right.bracket (c := ')') rfl)
  have closed := operands.append (spells_bracket (c := ']') rfl)
  simpa [callText] using closed

theorem spells_connectiveText {connective : String} {operands : List Char}
    {items : List Tree} (named : SpellsOpen connective.toList [.name connective.toList])
    (spelled : SpellsOpen operands (Tree.tokensEach items)) :
    Spells (connectiveText connective operands) (connectiveTree connective items).tokens := by
  have opened := (spells_bracket (c := '(') rfl).append named.blank
  have closed := opened.append (spelled.bracket (c := ')') rfl)
  simpa [connectiveText, connectiveTree, Tree.tokens, Tree.tokensEach] using closed

/-- Texts of forms with blanks between them are read as the trees of the forms. -/
theorem spells_joined {forms : List Form}
    (each : List.Forall₂ SpellsOpen (forms.map fun form => form.render.toList)
      (forms.map fun form => form.tree.tokens)) :
    SpellsOpen (joined forms) (Tree.tokensEach (treeEach forms)) := by
  have blank : [' '].all isBlank := rfl
  have spelled := spells_intercalate blank each
  rw [Tree.tokensEach_eq_flatMap, treeEach_eq_map, List.flatMap_map]
  exact spelled

mutual

/-- The text of a form is read as its tree. -/
theorem spells_render (form : Form) : Spells form.render.toList form.tree.tokens := by
  cases form with
  | fact entity key value =>
      have opened := (spells_bracket (c := '[') rfl).append entity.spells.blank
      have closed := (opened.append key.spells.blank).append
        (value.spells.bracket (c := ']') rfl)
      rw [toList_render_fact]
      simpa [tree, Tree.tokens, Tree.tokensEach, Var.tree, Attribute.tree] using closed
  | atLeast value bound =>
      rw [toList_render_atLeast]
      exact spells_callText (spells_name (by decide) (by decide)) value.spells bound.spells
  | atMost value bound =>
      rw [toList_render_atMost]
      exact spells_callText (spells_name (by decide) (by decide)) value.spells bound.spells
  | includes value part =>
      rw [toList_render_includes]
      exact spells_callText (spells_name (by decide) (by decide)) value.spells
        (spells_quote part).toOpen
  | isDailyTitle value =>
      rw [toList_render_isDailyTitle]
      exact spells_callText (spells_name (by decide) (by decide)) spells_dailyTitlePattern
        value.spells
  | and forms =>
      rw [toList_render_and]
      exact spells_connectiveText (spells_name (by decide) (by decide))
        (spells_joined (spells_renderEach forms))
  | orJoin branches =>
      have carried := ((spells_bracket (c := '[') rfl).append
        (Var.subject.spells.bracket (c := ']') rfl)).append (spells_blank (c := ' ') rfl)
      rw [toList_render_orJoin]
      exact spells_connectiveText (spells_name (by decide) (by decide))
        (carried.append_open (spells_joined (spells_renderEach branches)))
  | not form =>
      have spelled := (spells_render form).toOpen
      rw [toList_render_not]
      apply spells_connectiveText (spells_name (by decide) (by decide))
      rw [Tree.tokensEach, Tree.tokensEach, List.append_nil]
      exact spelled

/-- The text of each of several forms is read as its tree. -/
theorem spells_renderEach (forms : List Form) :
    List.Forall₂ SpellsOpen (forms.map fun form => form.render.toList)
      (forms.map fun form => form.tree.tokens) := by
  cases forms with
  | nil => exact .nil
  | cons form forms => exact .cons (spells_render form).toOpen (spells_renderEach forms)

end

/-- The text of a form is one bracketed tree. -/
theorem readTrees_render (form : Form) : readTrees form.render.toList = some [form.tree] := by
  rw [readTrees_eq_some_iff, Tree.tokensEach, Tree.tokensEach, List.append_nil]
  exact (spells_render form).toOpen

end Form

end BlockQuery.Datalog
