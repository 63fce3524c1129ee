import BlockQuery.Proofs.Query.OperatorName
import BlockQuery.Query.Reader

/-!
# The reader accepts the grammar

A query is read from a text exactly if the grammar derives the text for it.  The
reader of an expression and the reader of a list of operands call each other, so
their two statements are proved together, by induction on the length of the input:
an operand is always shorter than the expression it stands in.

Lists of operands are the one place where the reader goes further than the grammar.
It also accepts no operands, and the end of the input instead of a closing brace.
The first is refused behind the list, and the second by the reader of the brace.
-/

namespace BlockQuery.Query

open BlockQuery.Text

/-! ## Operands -/

theorem yields_readClosing {bound : Nat} {query result : Query} {s rest : List Char}
    {le : s.length ≤ bound} :
    Yields (readClosing query s le) result rest ↔ query = result ∧ trimLeft s = '}' :: rest := by
  rw [readClosing]
  constructor
  · intro yields
    rcases yields_bind.mp yields with ⟨_, after, _, closed, yields⟩
    rcases yields_ok.mp yields with ⟨same, rfl⟩
    exact ⟨same, yields_expect.mp closed⟩
  · rintro ⟨rfl, closed⟩
    apply (yields_expect.mpr closed).bind
    intro _
    exact yields_ok.mpr ⟨rfl, rfl⟩

theorem yields_readWindow {s rest : List Char} {query : Query} :
    Yields (readWindow s) query rest ↔ ∃ text, s = text ++ rest ∧ Body .between text query := by
  rw [readWindow]
  constructor
  · intro yields
    rcases yields_bind.mp yields with ⟨start, middle, _, startYields, yields⟩
    rcases yields_bind.mp yields with ⟨finish, after, _, finishYields, yields⟩
    rcases yields_ok.mp yields with ⟨rfl, rfl⟩
    rcases yields_readTag.mp startYields with ⟨first, rfl, startTag⟩
    rcases yields_readTag.mp finishYields with ⟨second, found, finishTag⟩
    rcases exists_blanks_trimLeft middle with ⟨blanks, blank, cut⟩
    refine ⟨first ++ (blanks ++ second), ?_, .between startTag blank finishTag⟩
    rw [List.append_assoc, List.append_assoc, ← found, ← cut]
  · rintro ⟨_, rfl, body⟩
    cases body with
    | @between first blanks second start finish startTag blank finishTag =>
        have startYields : Yields (readTag ((first ++ (blanks ++ second)) ++ rest)) start
            (blanks ++ (second ++ rest)) := by
          rw [yields_readTag]
          exact ⟨first, by simp, startTag⟩
        apply startYields.bind
        intro _
        have finishYields :
            Yields (readTag (trimLeft (blanks ++ (second ++ rest)))) finish rest := by
          rw [yields_readTag]
          exact ⟨second, trimLeft_append_solid blank (finishTag.solid.append rest), finishTag⟩
        apply finishYields.bind
        intro _
        exact yields_ok.mpr ⟨rfl, rfl⟩

/-- How the reader goes on behind an operator. -/
def ReadsOperand (s : List Char) (result : Query) (rest : List Char) : Operator → Prop
  | .all => ∃ children after, Yields (readChildren s) children after ∧
      (children ≠ [] ∧ .all children = result) ∧ trimLeft after = '}' :: rest
  | .any => ∃ children after, Yields (readChildren s) children after ∧
      (children ≠ [] ∧ .any children = result) ∧ trimLeft after = '}' :: rest
  | .not => ∃ child after, Yields (readExpression s) child after ∧ .not child = result ∧
      trimLeft after = '}' :: rest
  | .between => ∃ window after, Yields (readWindow s) window after ∧ window = result ∧
      trimLeft after = '}' :: rest
  | .search => ∃ text after, Yields (readSearchText s) text after ∧ .search text = result ∧
      trimLeft after = '}' :: rest
  | .dailyNotes => .dailyNotes = result ∧ trimLeft s = '}' :: rest
  | .touchedBy => ∃ user after, Yields (readUser s) user after ∧ .touchedBy user = result ∧
      trimLeft after = '}' :: rest
  | .createdBy => ∃ user after, Yields (readUser s) user after ∧ .createdBy user = result ∧
      trimLeft after = '}' :: rest
  | .editedBy => ∃ user after, Yields (readUser s) user after ∧ .editedBy user = result ∧
      trimLeft after = '}' :: rest

/-- The operands of a conjunction or disjunction, of which there has to be one. -/
theorem yields_children {bound wider left : Nat} {build : List Query → Query} {cause : ParseCause}
    {scanned : Scanned (List Query) bound} {le : scanned.rest.length ≤ wider} {result : Query}
    {rest : List Char} :
    Yields (if scanned.value.isEmpty = true then .error ⟨cause, left⟩
        else readClosing (build scanned.value) scanned.rest le) result rest ↔
      (scanned.value ≠ [] ∧ build scanned.value = result) ∧
        trimLeft scanned.rest = '}' :: rest := by
  rw [and_assoc, Ne, ← List.isEmpty_iff]
  by_cases none : scanned.value.isEmpty = true
  · simp [none, not_yields_error]
  · rw [if_neg none, yields_readClosing]
    simp [none]

/-! ## One step of the readers -/

theorem yields_readExpression_brace {s body rest : List Char} {result : Query}
    (start : trimLeft s = '{' :: body) :
    Yields (readExpression s) result rest ↔
      ∃ operator operand, Yields (readOperator body) operator operand ∧
        ReadsOperand operand result rest operator := by
  rw [readExpression]
  split
  · next inside same =>
      cases start.symm.trans same
      apply yields_bind_iff
      intro operator operand shorter
      cases operator with
      | all => exact yields_bind_iff fun _ _ _ => yields_children
      | any => exact yields_bind_iff fun _ _ _ => yields_children
      | not => exact yields_bind_iff fun _ _ _ => yields_readClosing
      | between => exact yields_bind_iff fun _ _ _ => yields_readClosing
      | search => exact yields_bind_iff fun _ _ _ => yields_readClosing
      | dailyNotes => exact yields_readClosing
      | touchedBy => exact yields_bind_iff fun _ _ _ => yields_readClosing
      | createdBy => exact yields_bind_iff fun _ _ _ => yields_readClosing
      | editedBy => exact yields_bind_iff fun _ _ _ => yields_readClosing
  · next notBrace => exact absurd start (notBrace body)

theorem yields_readExpression_leaf {s rest : List Char} {result : Query}
    (noBrace : ∀ body, trimLeft s ≠ '{' :: body) :
    Yields (readExpression s) result rest ↔
      ∃ text, trimLeft s = text ++ rest ∧ Expression text result := by
  rw [readExpression]
  split
  · next body start => exact absurd start (noBrace body)
  · dsimp only
    constructor
    · intro yields
      split at yields
      · rcases yields_bind.mp yields with ⟨title, after, _, read, yields⟩
        rcases yields_ok.mp yields with ⟨rfl, rfl⟩
        rcases yields_readTag.mp read with ⟨text, cut, tag⟩
        exact ⟨text, cut, .tag tag⟩
      · split at yields
        · rcases yields_bind.mp yields with ⟨uid, after, _, read, yields⟩
          rcases yields_ok.mp yields with ⟨rfl, rfl⟩
          rcases yields_readBlockRef.mp read with ⟨text, cut, blockRef⟩
          exact ⟨text, cut, .blockRef blockRef⟩
        · exact absurd yields not_yields_error
    · rintro ⟨text, cut, derived⟩
      cases derived with
      | tag tag =>
          have starts : ['[', '['].isPrefixOf (trimLeft s) = true := by
            rw [cut]
            cases tag
            rfl
          rw [if_pos starts]
          apply (yields_readTag.mpr ⟨text, cut, tag⟩).bind
          intro _
          exact yields_ok.mpr ⟨rfl, rfl⟩
      | blockRef blockRef =>
          have noTag : ¬ ['[', '['].isPrefixOf (trimLeft s) = true := by
            rw [cut]
            cases blockRef
            exact Bool.false_ne_true
          have starts : ['(', '('].isPrefixOf (trimLeft s) = true := by
            rw [cut]
            cases blockRef
            rfl
          rw [if_neg noTag, if_pos starts]
          apply (yields_readBlockRef.mpr ⟨text, cut, blockRef⟩).bind
          intro _
          exact yields_ok.mpr ⟨rfl, rfl⟩
      | operator => exact absurd cut (noBrace _)

theorem yields_readChildren_cons {s rest : List Char} {child : Query} {others : List Query} :
    Yields (readChildren s) (child :: others) rest ↔
      ∃ c t, trimLeft s = c :: t ∧ c ≠ '}' ∧ ∃ middle,
        Yields (readExpression (c :: t)) child middle ∧
          Yields (readChildren middle) others rest := by
  rw [readChildren]
  split
  · next start => simp [yields_ok, start]
  · next c t start =>
      dsimp only
      split
      · next isBrace => simp [yields_ok, start, isBrace]
      · next notBrace =>
          constructor
          · intro yields
            rcases yields_bind.mp yields with ⟨first, middle, _, read, yields⟩
            rcases yields_bind.mp yields with ⟨more, after, _, readMore, yields⟩
            rcases yields_ok.mp yields with ⟨same, rfl⟩
            cases same
            exact ⟨c, t, start, notBrace, middle, read, readMore⟩
          · rintro ⟨d, u, same, _, middle, read, readMore⟩
            cases start.symm.trans same
            apply read.bind
            intro _
            apply readMore.bind
            intro _
            exact yields_ok.mpr ⟨rfl, rfl⟩

/-- No operands are read in front of a closing brace only. -/
theorem yields_readChildren_nil {s rest : List Char} :
    (∃ after, Yields (readChildren s) [] after ∧ trimLeft after = '}' :: rest) ↔
      trimLeft s = '}' :: rest := by
  rw [readChildren]
  split
  · next start =>
      simp only [yields_ok, start]
      constructor
      · rintro ⟨_, ⟨_, rfl⟩, closed⟩
        cases closed
      · intro closed
        cases closed
  · next c t start =>
      dsimp only
      have solid : trimLeft (c :: t) = c :: t := by
        rw [← start, trimLeft_trimLeft]
      split
      · constructor
        · rintro ⟨_, yields, closed⟩
          rcases yields_ok.mp yields with ⟨_, rfl⟩
          rw [start, ← solid]
          exact closed
        · intro closed
          refine ⟨c :: t, yields_ok.mpr ⟨rfl, rfl⟩, ?_⟩
          rw [solid, ← start, closed]
      · next notBrace =>
          constructor
          · rintro ⟨after, yields, _⟩
            rcases yields_bind.mp yields with ⟨_, _, _, _, yields⟩
            rcases yields_bind.mp yields with ⟨_, _, _, _, yields⟩
            cases (yields_ok.mp yields).1
          · intro closed
            cases start.symm.trans closed
            exact absurd rfl notBrace

/-! ## Texts of expressions -/

theorem Expression.solid {text : List Char} {query : Query} (derived : Expression text query) :
    Solid text := by
  cases derived with
  | tag tag => exact tag.solid
  | blockRef blockRef => exact blockRef.solid
  | operator => exact .intro rfl

/-- No expression starts with a closing brace or a quote. -/
theorem Expression.start {text : List Char} {query : Query} (derived : Expression text query) :
    ∃ c rest, text = c :: rest ∧ c ≠ '}' ∧ c ≠ '"' := by
  cases derived with
  | tag tag =>
      cases tag
      exact ⟨'[', _, rfl, by decide⟩
  | blockRef blockRef =>
      cases blockRef
      exact ⟨'(', _, rfl, by decide⟩
  | operator => exact ⟨'{', _, rfl, by decide⟩

theorem Expression.head?_ne_quote {text : List Char} {query : Query}
    (derived : Expression text query) (behind : List Char) :
    (text ++ behind).head? ≠ some '"' := by
  rcases derived.start with ⟨c, rest, rfl, _, notQuote⟩
  intro first
  injection first with first
  exact notQuote first

theorem Solid.append_solid {s : List Char} (solid : Solid s) (rest : List Char) :
    Solid (s ++ rest) := by
  rcases solid with ⟨notBlank⟩
  exact .intro notBlank

theorem Children.solid {text : List Char} {children : List Query}
    (derived : Children text children) : Solid text := by
  cases derived with
  | one first => exact first.solid
  | more first => exact first.solid.append_solid _

/-! ## Expressions of any depth -/

/-- The reader of an expression accepts the grammar on this input. -/
def ReadsExpression (s : List Char) : Prop :=
  ∀ result rest, Yields (readExpression s) result rest ↔
    ∃ text, trimLeft s = text ++ rest ∧ Expression text result

/-- The reader of the operands of a conjunction accepts the grammar on this input. -/
def ReadsChildren (s : List Char) : Prop :=
  ∀ children rest, children ≠ [] →
    ((∃ after, Yields (readChildren s) children after ∧ trimLeft after = '}' :: rest) ↔
      ∃ text after, trimLeft s = text ++ after ∧ Children text children ∧
        trimLeft after = '}' :: rest)

/-- An operand is read as the grammar says, if what it is made of is. -/
theorem reads_iff_closed {α : Type} {bound : Nat} {read : Except Stop (Scanned α bound)}
    {good : α → Prop} {piece : α → List Char → Prop} {operator : Operator} {u rest : List Char}
    {result : Query}
    (reads : ∀ value, good value → ((∃ after, Yields read value after ∧
      trimLeft after = '}' :: rest) ↔ Closed (piece value) u rest))
    (build : ∀ value text, good value → piece value text → Body operator text result)
    (invert : ∀ text, Body operator text result → ∃ value, good value ∧ piece value text) :
    (∃ value after, Yields read value after ∧ good value ∧ trimLeft after = '}' :: rest) ↔
      Closed (Body operator · result) u rest := by
  constructor
  · rintro ⟨value, after, yields, isGood, closed⟩
    have inner := (reads value isGood).mp ⟨after, yields, closed⟩
    exact inner.mono fun text holds => build value text isGood holds
  · rintro ⟨startBlank, inner, finishBlank⟩
    rcases invert _ inner with ⟨value, isGood, holds⟩
    rcases (reads value isGood).mpr (.intro startBlank holds finishBlank) with
      ⟨after, yields, closed⟩
    exact ⟨value, after, yields, isGood, closed⟩

theorem Children.ne_nil {text : List Char} {children : List Query}
    (derived : Children text children) : children ≠ [] := by
  cases derived <;> exact List.cons_ne_nil _ _

/-- A solid piece that a reader takes from the start of its input. -/
theorem yields_closed_iff {α : Type} {bound : Nat} {read : Except Stop (Scanned α bound)}
    {piece : List Char → Prop} {value : α} {u rest : List Char}
    (solid : ∀ text, piece text → Solid text)
    (yields : ∀ after, Yields read value after ↔
      ∃ text, trimLeft u = text ++ after ∧ piece text) :
    (∃ after, Yields read value after ∧ trimLeft after = '}' :: rest) ↔ Closed piece u rest := by
  rw [closed_iff_of_solid solid]
  constructor
  · rintro ⟨after, read, closed⟩
    rcases (yields after).mp read with ⟨text, cut, inner⟩
    exact ⟨text, after, cut, inner, closed⟩
  · rintro ⟨text, after, cut, inner, closed⟩
    exact ⟨after, (yields after).mpr ⟨text, cut, inner⟩, closed⟩

theorem Body.between_solid {text : List Char} {query : Query} (body : Body .between text query) :
    Solid text := by
  cases body with
  | between startTag => exact startTag.solid.append_solid _

theorem readsOperand_iff {u rest : List Char} {result : Query} {operator : Operator}
    (expression : ReadsExpression (trimLeft u)) (children : ReadsChildren (trimLeft u)) :
    ReadsOperand (trimLeft u) result rest operator ↔ Closed (Body operator · result) u rest := by
  have closedChildren : ∀ queries, queries ≠ [] → ((∃ after,
      Yields (readChildren (trimLeft u)) queries after ∧ trimLeft after = '}' :: rest) ↔
        Closed (Children · queries) u rest) := by
    intro queries nonempty
    rw [children queries rest nonempty, trimLeft_trimLeft,
      closed_iff_of_solid fun _ derived => derived.solid]
  have closedChild : ∀ child, (∃ after,
      Yields (readExpression (trimLeft u)) child after ∧ trimLeft after = '}' :: rest) ↔
        Closed (Expression · child) u rest := by
    intro child
    apply yields_closed_iff fun _ derived => derived.solid
    intro after
    rw [expression child after, trimLeft_trimLeft]
  cases operator with
  | all =>
      apply reads_iff_closed fun queries good => closedChildren queries good.1
      · rintro _ _ ⟨_, rfl⟩ inner
        exact .all inner
      · intro _ body
        cases body with
        | all inner => exact ⟨_, ⟨inner.ne_nil, rfl⟩, inner⟩
  | any =>
      apply reads_iff_closed fun queries good => closedChildren queries good.1
      · rintro _ _ ⟨_, rfl⟩ inner
        exact .any inner
      · intro _ body
        cases body with
        | any inner => exact ⟨_, ⟨inner.ne_nil, rfl⟩, inner⟩
  | not =>
      apply reads_iff_closed fun child _ => closedChild child
      · rintro _ _ rfl inner
        exact .not inner
      · intro _ body
        cases body with
        | not inner => exact ⟨_, rfl, inner⟩
  | between =>
      have closedWindow : ∀ window, (∃ after,
          Yields (readWindow (trimLeft u)) window after ∧ trimLeft after = '}' :: rest) ↔
            Closed (Body .between · window) u rest := by
        intro window
        exact yields_closed_iff (fun _ body => body.between_solid) fun _ => yields_readWindow
      apply reads_iff_closed fun window _ => closedWindow window
      · rintro _ _ rfl body
        exact body
      · intro _ body
        exact ⟨_, rfl, body⟩
  | search =>
      apply reads_iff_closed fun _ _ => yields_readSearchText
      · rintro _ _ rfl searched
        exact .search searched
      · intro _ body
        cases body with
        | search searched => exact ⟨_, rfl, searched⟩
  | dailyNotes =>
      rw [ReadsOperand, trimLeft_trimLeft]
      constructor
      · rintro ⟨rfl, closed⟩
        rcases exists_blanks_trimLeft u with ⟨start, startBlank, cut⟩
        rw [cut, closed]
        change Closed _ (start ++ ([] ++ ([] ++ '}' :: rest))) rest
        exact .intro startBlank Body.dailyNotes blanks_nil
      · rintro ⟨startBlank, body, finishBlank⟩
        cases body
        rw [trimLeft_append startBlank, List.nil_append, trimLeft_brace finishBlank]
        exact ⟨rfl, rfl⟩
  | touchedBy =>
      apply reads_iff_closed fun _ _ => yields_readUser
      · rintro _ _ rfl named
        exact .touchedBy named
      · intro _ body
        cases body with
        | touchedBy named => exact ⟨_, rfl, named⟩
  | createdBy =>
      apply reads_iff_closed fun _ _ => yields_readUser
      · rintro _ _ rfl named
        exact .createdBy named
      · intro _ body
        cases body with
        | createdBy named => exact ⟨_, rfl, named⟩
  | editedBy =>
      apply reads_iff_closed fun _ _ => yields_readUser
      · rintro _ _ rfl named
        exact .editedBy named
      · intro _ body
        cases body with
        | editedBy named => exact ⟨_, rfl, named⟩

/-- An expression is read as the grammar says, if every shorter input is. -/
theorem readsExpression_of_shorter {s : List Char}
    (expression : ∀ t : List Char, t.length < s.length → ReadsExpression t)
    (children : ∀ t : List Char, t.length < s.length → ReadsChildren t) : ReadsExpression s := by
  intro result rest
  by_cases brace : ∃ body, trimLeft s = '{' :: body
  · rcases brace with ⟨body, start⟩
    rw [yields_readExpression_brace start, start]
    have operand : ∀ {operator operand}, Yields (readOperator body) operator operand →
        operand.length < s.length := by
      rintro operator operand ⟨shorter, _⟩
      exact Nat.lt_trans shorter (length_le_of_trimLeft_eq start)
    constructor
    · rintro ⟨operator, _, read, reads⟩
      have shorter := operand read
      rcases yields_readOperator.mp read with
        ⟨before, name, behind, after, rfl, beforeBlank, spelled, behindBlank, rfl⟩
      rw [readsOperand_iff (expression _ shorter) (children _ shorter)] at reads
      rcases reads with ⟨startBlank, inner, finishBlank⟩
      refine ⟨_, ?_, .operator beforeBlank spelled behindBlank startBlank inner finishBlank⟩
      simp
    · rintro ⟨text, cut, derived⟩
      cases derived with
      | tag tag => cases tag; cases cut
      | blockRef blockRef => cases blockRef; cases cut
      | @operator operator before name behind blanks inside finish _ beforeBlank spelled
          behindBlank startBlank inner finishBlank =>
          have read : Yields (readOperator body) operator
              (trimLeft (blanks ++ (inside ++ (finish ++ '}' :: rest)))) := by
            rw [yields_readOperator]
            refine ⟨before, name, behind, _, ?_, beforeBlank, spelled, behindBlank, rfl⟩
            simpa using cut
          have shorter := operand read
          refine ⟨operator, _, read, ?_⟩
          rw [readsOperand_iff (expression _ shorter) (children _ shorter)]
          exact .intro startBlank inner finishBlank
  · apply yields_readExpression_leaf
    intro body start
    exact brace ⟨body, start⟩

/-- Operands are read as the grammar says, if the first one and every shorter input
are. -/
theorem readsChildren_of_shorter {s : List Char} (expression : ReadsExpression (trimLeft s))
    (others : ∀ t : List Char, t.length < s.length → ReadsChildren t) : ReadsChildren s := by
  have shorter : ∀ {child middle}, Yields (readExpression (trimLeft s)) child middle →
      middle.length < s.length := by
    rintro child middle ⟨shorter, _⟩
    exact Nat.lt_of_lt_of_le shorter (length_trimLeft_le s)
  intro children rest nonempty
  constructor
  · rintro ⟨after, yields, closed⟩
    cases children with
    | nil => exact absurd rfl nonempty
    | cons child more =>
        rcases yields_readChildren_cons.mp yields with ⟨c, t, start, _, middle, read, readMore⟩
        rw [← start] at read
        rcases (expression child middle).mp read with ⟨text, cut, derived⟩
        rw [trimLeft_trimLeft] at cut
        cases more with
        | nil =>
            have ends := yields_readChildren_nil.mp ⟨after, readMore, closed⟩
            exact ⟨text, middle, cut, .one derived, ends⟩
        | cons second more =>
            have moreNonempty := List.cons_ne_nil second more
            rcases (others middle (shorter read) _ rest moreNonempty).mp ⟨after, readMore, closed⟩
              with ⟨moreText, behind, moreCut, moreDerived, ends⟩
            rcases exists_blanks_trimLeft middle with ⟨blanks, blank, middleCut⟩
            refine ⟨text ++ (blanks ++ moreText), behind, ?_, .more derived blank moreDerived, ends⟩
            rw [cut, middleCut, moreCut, List.append_assoc, List.append_assoc]
  · rintro ⟨text, after, cut, derived, closed⟩
    cases derived with
    | @one _ child derived =>
        rcases derived.start with ⟨c, t, rfl, notBrace, _⟩
        have read := (expression child after).mpr ⟨_, (trimLeft_trimLeft s).trans cut, derived⟩
        rcases yields_readChildren_nil.mpr closed with ⟨behind, readNone, ends⟩
        refine ⟨behind, ?_, ends⟩
        rw [yields_readChildren_cons]
        rw [cut] at read
        exact ⟨c, t ++ after, cut, notBrace, after, read, readNone⟩
    | @more text blanks moreText child more derived blank moreDerived =>
        rw [List.append_assoc, List.append_assoc] at cut
        have found : trimLeft (blanks ++ (moreText ++ after)) = moreText ++ after :=
          trimLeft_append_solid blank (moreDerived.solid.append after)
        rcases derived.start with ⟨c, t, rfl, notBrace, _⟩
        have read := (expression child _).mpr ⟨_, (trimLeft_trimLeft s).trans cut, derived⟩
        rcases (others _ (shorter read) more rest moreDerived.ne_nil).mpr
          ⟨moreText, after, found, moreDerived, closed⟩ with ⟨behind, readMore, ends⟩
        refine ⟨behind, ?_, ends⟩
        rw [yields_readChildren_cons]
        rw [cut] at read
        exact ⟨c, _, cut, notBrace, _, read, readMore⟩

theorem readsExpression_and_readsChildren (s : List Char) :
    ReadsExpression s ∧ ReadsChildren s := by
  induction length : s.length using Nat.strong_induction_on generalizing s with
  | _ n ih =>
      have expression : ∀ t : List Char, t.length ≤ s.length → ReadsExpression t := by
        intro t le
        apply readsExpression_of_shorter
        · intro u lt
          exact (ih u.length (by omega) u rfl).1
        · intro u lt
          exact (ih u.length (by omega) u rfl).2
      refine ⟨expression s le_rfl, ?_⟩
      apply readsChildren_of_shorter (expression _ (length_trimLeft_le s))
      intro t lt
      exact (ih t.length (by omega) t rfl).2

/-- The reader of an expression takes the first expression behind the blanks. -/
theorem yields_readExpression {s rest : List Char} {result : Query} :
    Yields (readExpression s) result rest ↔
      ∃ text, trimLeft s = text ++ rest ∧ Expression text result :=
  (readsExpression_and_readsChildren s).1 result rest

/-! ## Whole queries -/

theorem readName_eq_ok_iff {s after : List Char} {name : Option String} :
    readName s = .ok (name, after) ↔
      (s.head? ≠ some '"' ∧ name = none ∧ after = s) ∨
        ∃ value rest, Yields (readQuoted s) value rest ∧ name = some value ∧
          after = trimLeft rest := by
  rw [readName]
  split
  · next quote =>
      rw [map_eq_ok_iff]
      constructor
      · rintro ⟨scanned, ok, same⟩
        cases same
        exact .inr ⟨scanned.value, scanned.rest, ⟨scanned.shorter, ok⟩, rfl, rfl⟩
      · rintro (⟨noQuote, _⟩ | ⟨value, rest, ⟨shorter, ok⟩, rfl, rfl⟩)
        · exact absurd quote noQuote
        · exact ⟨_, ok, rfl⟩
  · next noQuote =>
      constructor
      · intro same
        cases same
        exact .inl ⟨noQuote, rfl, rfl⟩
      · rintro (⟨_, rfl, rfl⟩ | ⟨value, rest, read, _⟩)
        · rfl
        · rcases yields_readQuoted.mp read with ⟨text, rfl, quoted⟩
          cases quoted
          exact absurd rfl noQuote

theorem readNamed_eq_ok_iff {s : List Char} {query : Query} {name : Option String} :
    readNamed s = .ok ⟨query, name⟩ ↔
      ∃ after rest, readName (trimLeft s) = .ok (name, after) ∧
        Yields (readExpression after) query rest ∧ Blanks rest := by
  rw [readNamed]
  constructor
  · intro read
    rcases bind_eq_ok_iff.mp read with ⟨⟨found, after⟩, nameRead, read⟩
    rcases bind_eq_ok_iff.mp read with ⟨scanned, queryRead, read⟩
    dsimp only at read
    split at read
    · next ends =>
        cases read
        refine ⟨after, scanned.rest, nameRead, ⟨scanned.shorter, queryRead⟩, ?_⟩
        rw [← trimLeft_eq_nil_iff]
        exact List.isEmpty_iff.mp ends
    · cases read
  · rintro ⟨after, rest, nameRead, ⟨shorter, queryRead⟩, blank⟩
    rw [bind_eq_ok_iff]
    refine ⟨_, nameRead, ?_⟩
    rw [bind_eq_ok_iff]
    refine ⟨_, queryRead, ?_⟩
    rw [if_pos]
    rw [List.isEmpty_iff, trimLeft_eq_nil_iff]
    exact blank

theorem readNamed_eq_ok_iff_namedText {s : List Char} {named : NamedQuery} :
    readNamed s = .ok named ↔ NamedText s named := by
  rcases exists_blanks_trimLeft s with ⟨before, beforeBlank, cut⟩
  rcases named with ⟨query, name⟩
  rw [readNamed_eq_ok_iff]
  constructor
  · rintro ⟨after, rest, nameRead, read, restBlank⟩
    rcases yields_readExpression.mp read with ⟨text, found, derived⟩
    rcases readName_eq_ok_iff.mp nameRead with
      ⟨_, rfl, rfl⟩ | ⟨value, behind, quotedRead, rfl, rfl⟩
    · rw [trimLeft_trimLeft] at found
      rw [cut, found]
      exact .unnamed beforeBlank derived restBlank
    · rcases yields_readQuoted.mp quotedRead with ⟨quoted, nameCut, quotedName⟩
      rcases exists_blanks_trimLeft behind with ⟨between, betweenBlank, behindCut⟩
      rw [trimLeft_trimLeft] at found
      rw [cut, nameCut, behindCut, found]
      exact .named beforeBlank quotedName betweenBlank derived restBlank
  · intro derivation
    cases derivation with
    | @unnamed blanks text behind _ blank derived behindBlank =>
        have found := trimLeft_append_solid blank (derived.solid.append behind)
        refine ⟨text ++ behind, behind, ?_, ?_, behindBlank⟩
        · rw [found, readName_eq_ok_iff]
          exact .inl ⟨derived.head?_ne_quote behind, rfl, rfl⟩
        · rw [yields_readExpression]
          exact ⟨text, (derived.solid.append behind).trimLeft_eq, derived⟩
    | @named blanks quoted between text behind value _ blank quotedName betweenBlank derived
        behindBlank =>
        have found := trimLeft_append_solid blank
          (quotedName.solid.append (between ++ (text ++ behind)))
        have foundQuery := trimLeft_append_solid betweenBlank (derived.solid.append behind)
        refine ⟨text ++ behind, behind, ?_, ?_, behindBlank⟩
        · rw [found, readName_eq_ok_iff]
          refine .inr ⟨value, _, ?_, rfl, foundQuery.symm⟩
          rw [yields_readQuoted]
          exact ⟨quoted, rfl, quotedName⟩
        · rw [yields_readExpression]
          exact ⟨text, (derived.solid.append behind).trimLeft_eq, derived⟩

theorem parse_eq_ok_iff_readNamed {text : String} {named : NamedQuery} :
    parse text = .ok named ↔ readNamed (expressionText text.toList) = .ok named := by
  rw [parse, mapError_eq_ok_iff]

/-- Parsing succeeds exactly on the texts that the grammar derives, with the query
that it derives them for. -/
theorem parse_eq_ok_iff_namedText (text : String) (named : NamedQuery) :
    parse text = .ok named ↔ NamedText (expressionText text.toList) named := by
  rw [parse_eq_ok_iff_readNamed, readNamed_eq_ok_iff_namedText]

end BlockQuery.Query
