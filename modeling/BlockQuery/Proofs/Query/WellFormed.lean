import BlockQuery.Proofs.Query.Reading

/-!
# The queries that can be written

The texts in a query that was read are not arbitrary.  A page title keeps its
brackets balanced, an identifier holds no closing pair, and a backslash at the
end of a text is only possible where the text needs no quotes.  These conditions
hold of every query that the grammar derives.
-/

namespace BlockQuery.Query

open BlockQuery.Text

/-! ## Texts in a query -/

/-- Some text without blanks around it. -/
def Stripped (s : List Char) : Prop :=
  s ≠ [] ∧ trim s = s

instance (s : List Char) : Decidable (Stripped s) :=
  inferInstanceAs (Decidable (_ ∧ _))

/-- A title that can stand in a page reference. -/
def ValidTitle (title : String) : Prop :=
  Stripped title.toList ∧ depthAfter? 1 (marks title.toList) = some 1

instance (title : String) : Decidable (ValidTitle title) :=
  inferInstanceAs (Decidable (_ ∧ _))

/-- An identifier that can stand in a block reference. -/
def ValidUid (uid : String) : Prop :=
  Stripped uid.toList ∧ ¬ [')', ')'] <:+: uid.toList

/-- A text that can stand between quotes. -/
def Quotable (text : String) : Prop :=
  text.toList.getLast? ≠ some '\\'

instance (text : String) : Decidable (Quotable text) :=
  inferInstanceAs (Decidable (_ ≠ _))

/-- A text that can be searched for. -/
def ValidSearch (text : String) : Prop :=
  Quotable text ∨ trim text.toList = text.toList ∧ '}' ∉ text.toList ∧ ¬ ['"'] <+: text.toList

/-- A user that can be asked for. -/
def ValidUser (user : String) : Prop :=
  ValidTitle user ∨ Stripped user.toList ∧ '}' ∉ user.toList ∧ ¬ ['[', '['] <+: user.toList

mutual

/-- Every text in the query can stand where it stands, and no conjunction or
disjunction is empty. -/
def WellFormed : Query → Prop
  | .tag title => ValidTitle title
  | .blockRef uid => ValidUid uid
  | .all children => children ≠ [] ∧ WellFormedEach children
  | .any children => children ≠ [] ∧ WellFormedEach children
  | .not child => WellFormed child
  | .between start finish => ValidTitle start ∧ ValidTitle finish
  | .search text => ValidSearch text
  | .dailyNotes => True
  | .touchedBy user => ValidUser user
  | .createdBy user => ValidUser user
  | .editedBy user => ValidUser user

/-- All of the queries are well formed. -/
def WellFormedEach : List Query → Prop
  | [] => True
  | child :: children => WellFormed child ∧ WellFormedEach children

end

end BlockQuery.Query

/-- The query is well formed, and its name can stand between quotes. -/
def BlockQuery.NamedQuery.WellFormed (named : BlockQuery.NamedQuery) : Prop :=
  named.query.WellFormed ∧ ∀ name ∈ named.name, BlockQuery.Query.Quotable name

namespace BlockQuery.Query

open BlockQuery.Text

/-! ## Brackets in a title -/

/-- A character that is no bracket separates the tokens around it. -/
theorem marks_append_cons {c : Char} (notClosing : c ≠ ']') (notOpening : c ≠ '[')
    (s rest : List Char) : marks (s ++ c :: rest) = marks s ++ .other c :: marks rest := by
  fun_induction marks s with
  | case1 =>
      apply marks_other
      · intro same
        exact absurd same notClosing
      · intro same
        exact absurd same notOpening
  | case2 s ih => rw [List.cons_append, List.cons_append, marks, ih, List.cons_append]
  | case3 s ih => rw [List.cons_append, List.cons_append, marks, ih, List.cons_append]
  | case4 d s notPair notOpen ih =>
      rw [List.cons_append, marks_other, ih, List.cons_append]
      · intro isBracket first
        rcases head?_append_cons_eq_some first with ⟨_, same⟩ | ⟨others, rfl⟩
        · exact notClosing same
        · exact notPair others isBracket rfl
      · intro isBracket first
        rcases head?_append_cons_eq_some first with ⟨_, same⟩ | ⟨others, rfl⟩
        · exact notOpening same
        · exact notOpen others isBracket rfl

theorem depthAfter?_append (depth : Nat) (first second : List Mark) :
    depthAfter? depth (first ++ second) =
      (depthAfter? depth first).bind fun reached => depthAfter? reached second := by
  fun_induction depthAfter? depth first with
  | case1 =>
      rw [depthAfter?]
      rfl
  | case2 => rfl
  | case3 depth rest ih => rw [List.cons_append, depthAfter?, ih]
  | case4 depth rest ih => rw [List.cons_append, depthAfter?, ih]
  | case5 depth c rest ih => rw [List.cons_append, depthAfter?, ih]

/-- Blanks in front of a title do not change the depth. -/
theorem depthAfter?_blanks_append {blanks : List Char} (blank : Blanks blanks) (depth : Nat)
    (s : List Char) : depthAfter? depth (marks (blanks ++ s)) = depthAfter? depth (marks s) := by
  induction blanks with
  | nil => rfl
  | cons c blanks ih =>
      rcases blanks_cons.mp blank with ⟨cBlank, restBlank⟩
      have noBracket : marks (c :: (blanks ++ s)) = .other c :: marks (blanks ++ s) := by
        apply marks_other
        · rintro rfl
          cases cBlank
        · rintro rfl
          cases cBlank
      rw [List.cons_append, noBracket, ← ih restBlank]
      cases depth with
      | zero => rw [depthAfter?, depthAfter?]
      | succ depth => rw [depthAfter?]

/-- Blanks behind a title do not change the depth. -/
theorem depthAfter?_append_blanks {blanks : List Char} (blank : Blanks blanks) (depth : Nat)
    (s : List Char) : depthAfter? depth (marks (s ++ blanks)) = depthAfter? depth (marks s) := by
  have separate : marks (s ++ blanks) = marks s ++ marks (blanks ++ []) := by
    cases blanks with
    | nil => simp [marks]
    | cons c blanks =>
        have cBlank := (blanks_cons.mp blank).1
        have notClosing : c ≠ ']' := by
          rintro rfl
          cases cBlank
        have notOpening : c ≠ '[' := by
          rintro rfl
          cases cBlank
        rw [List.append_nil, marks_append_cons notClosing notOpening]
        exact congrArg _ (marks_append_cons notClosing notOpening [] blanks).symm
  calc
    depthAfter? depth (marks (s ++ blanks))
        = (depthAfter? depth (marks s)).bind
            fun reached => depthAfter? reached (marks (blanks ++ [])) := by
          rw [separate, depthAfter?_append]
    _ = (depthAfter? depth (marks s)).bind fun reached => depthAfter? reached [] := by
          simp only [depthAfter?_blanks_append blank, marks]
    _ = depthAfter? depth (marks s) := by
          rw [← depthAfter?_append, List.append_nil]

/-- A title whose closing brackets are a token of their own. -/
theorem marks_of_closed {s : List Char} {tokens : List Mark}
    (closed : marks (s ++ [']', ']']) = tokens ++ [.closing]) : marks s = tokens := by
  fun_induction marks s generalizing tokens with
  | case1 => exact (List.append_cancel_right closed)
  | case2 s ih =>
      rcases tokens_eq_cons (by simp) closed with ⟨others, rfl, restClosed⟩
      rw [ih restClosed]
  | case3 s ih =>
      rcases tokens_eq_cons (by simp) closed with ⟨others, rfl, restClosed⟩
      rw [ih restClosed]
  | case4 c s notClosing notOpening ih =>
      rcases apart_of_closed notClosing notOpening closed with ⟨apart, noPair⟩
      rw [List.cons_append, marks_other apart noPair] at closed
      rcases tokens_eq_cons (by simp) closed with ⟨others, rfl, restClosed⟩
      rw [ih restClosed]

/-! ## The texts that leaves are read from -/

theorem stripped_trim {s : List Char} (solid : trim s ≠ []) : Stripped (trim s) :=
  ⟨solid, trim_trim s⟩

/-- Trimming cuts a piece out of a text. -/
theorem trim_isInfix (s : List Char) : trim s <:+: s := by
  rcases exists_trim s with ⟨before, after, _, _, cut⟩
  exact ⟨before, after, by rw [List.append_assoc]; exact cut.symm⟩

theorem TagText.validTitle {text : List Char} {title : String} (tag : TagText text title) :
    ValidTitle title := by
  rcases tag with @⟨inside, tokens, closed, balanced, solid⟩
  rcases exists_trim inside with ⟨before, after, beforeBlank, afterBlank, cut⟩
  have depth : depthAfter? 1 (marks (trim inside)) = some 1 := by
    rw [← depthAfter?_append_blanks afterBlank, ← depthAfter?_blanks_append beforeBlank, ← cut,
      marks_of_closed closed, balanced]
  rw [ValidTitle, String.toList_ofList]
  exact ⟨stripped_trim solid, depth⟩

theorem BlockRefText.validUid {text : List Char} {uid : String}
    (blockRef : BlockRefText text uid) : ValidUid uid := by
  rcases blockRef with @⟨inside, first, solid⟩
  rw [ValidUid, String.toList_ofList]
  refine ⟨stripped_trim solid, ?_⟩
  intro early
  exact first (early.trans ((trim_isInfix inside).trans (List.prefix_append _ _).isInfix))

/-- A backslash in front of the closing quote would have taken the quote. -/
theorem QuotedRest.getLast?_ne {text value : List Char} (quoted : QuotedRest text value) :
    value.getLast? ≠ some '\\' := by
  induction quoted with
  | close => simp
  | @quote rest value inner ih =>
      cases value with
      | nil => simp
      | cons c value => rwa [List.getLast?_cons_cons]
  | @char c rest value notQuote notEscape inner ih =>
      cases value with
      | nil =>
          cases inner
          rintro ⟨⟩
          exact notEscape rfl rfl
      | cons d value => rwa [List.getLast?_cons_cons]

theorem QuotedText.quotable {text : List Char} {value : String} (quoted : QuotedText text value) :
    Quotable value := by
  rcases quoted with ⟨inner⟩
  rw [Quotable, String.toList_ofList]
  exact inner.getLast?_ne

theorem SearchText.validSearch {text : List Char} {value : String}
    (searched : SearchText text value) : ValidSearch value := by
  rcases searched with quoted | ⟨noBrace, noQuote⟩
  · exact .inl quoted.quotable
  · rw [ValidSearch, String.toList_ofList]
    refine .inr ⟨trim_trim text, ?_, noQuote⟩
    intro inTrimmed
    exact noBrace ((trim_isInfix text).subset inTrimmed)

theorem UserText.validUser {text : List Char} {user : String} (named : UserText text user) :
    ValidUser user := by
  rcases named with tag | ⟨noBrace, solid, noTag⟩
  · exact .inl tag.validTitle
  · rw [ValidUser, String.toList_ofList]
    refine .inr ⟨stripped_trim solid, ?_, noTag⟩
    intro inTrimmed
    exact noBrace ((trim_isInfix text).subset inTrimmed)

/-! ## Derived queries -/

mutual

/-- A derived expression is well formed, by the constructors of its derivation. -/
theorem Expression.wellFormed {text : List Char} {query : Query} :
    Expression text query → query.WellFormed
  | .tag page => page.validTitle
  | .blockRef block => block.validUid
  | .operator _ _ _ _ inner _ => inner.wellFormed

theorem Body.wellFormed {operator : Operator} {text : List Char} {query : Query} :
    Body operator text query → query.WellFormed
  | .all inner => ⟨inner.ne_nil, inner.wellFormedEach⟩
  | .any inner => ⟨inner.ne_nil, inner.wellFormedEach⟩
  | .not inner => inner.wellFormed
  | .between startTag _ finishTag => ⟨startTag.validTitle, finishTag.validTitle⟩
  | .search searched => searched.validSearch
  | .dailyNotes => trivial
  | .touchedBy named => named.validUser
  | .createdBy named => named.validUser
  | .editedBy named => named.validUser

theorem Children.wellFormedEach {text : List Char} {children : List Query} :
    Children text children → WellFormedEach children
  | .one first => ⟨first.wellFormed, trivial⟩
  | .more first _ rest => ⟨first.wellFormed, rest.wellFormedEach⟩

end

/-- Everything that the grammar derives is well formed. -/
theorem NamedText.wellFormed {text : List Char} {named : NamedQuery}
    (derived : NamedText text named) : named.WellFormed := by
  cases derived with
  | unnamed _ inner => exact ⟨inner.wellFormed, by rintro _ ⟨⟩⟩
  | named _ quotedName _ inner =>
      refine ⟨inner.wellFormed, ?_⟩
      rintro _ ⟨⟩
      exact quotedName.quotable

end BlockQuery.Query
