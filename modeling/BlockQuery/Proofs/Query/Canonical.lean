import BlockQuery.Proofs.Query.WellFormed

/-!
# Writing queries

Every well-formed query has a canonical text.  The text is read as the query it
was written for, so that exactly the well-formed queries can be read.

The blanks inside the brackets are needed: behind a title that ends with a single
bracket, the closing brackets would be taken apart.  A user has two spellings,
because a user that is no title, such as one with unbalanced brackets, can only be
written without brackets around it, and a text that ends with a backslash only
without quotes.
-/

namespace BlockQuery.Query

open BlockQuery.Text

/-! ## Canonical texts -/

/-- A page reference with a blank on both sides of its title. -/
def writtenTag (title : String) : List Char :=
  '[' :: '[' :: ((' ' :: (title.toList ++ [' '])) ++ [']', ']'])

/-- A block reference with a blank on both sides of its identifier. -/
def writtenBlockRef (uid : String) : List Char :=
  '(' :: '(' :: ((' ' :: (uid.toList ++ [' '])) ++ [')', ')'])

/-- A text with a backslash in front of every quote. -/
def escapeQuotes (text : List Char) : List Char :=
  text.flatMap fun c => if c = '"' then ['\\', '"'] else [c]

/-- A text between quotes. -/
def writtenQuoted (text : String) : List Char :=
  '"' :: (escapeQuotes text.toList ++ ['"'])

/-- A text to search for: between quotes, unless it ends with a backslash. -/
def writtenSearch (text : String) : List Char :=
  if Quotable text then writtenQuoted text else text.toList

/-- A user: as a page reference, unless the user is no title. -/
def writtenUser (user : String) : List Char :=
  if ValidTitle user then writtenTag user else user.toList

/-- An operator with what it needs, between braces. -/
def writtenOperator (operator : Operator) (body : List Char) : List Char :=
  '{' :: (operator.name.toList ++ (':' :: ' ' :: (body ++ ['}'])))

mutual

/-- The canonical text of a query. -/
def written : Query → List Char
  | .tag title => writtenTag title
  | .blockRef uid => writtenBlockRef uid
  | .all children => writtenOperator .all (writtenEach children)
  | .any children => writtenOperator .any (writtenEach children)
  | .not child => writtenOperator .not (written child)
  | .between start finish =>
    writtenOperator .between (writtenTag start ++ ' ' :: writtenTag finish)
  | .search text => writtenOperator .search (writtenSearch text)
  | .dailyNotes => writtenOperator .dailyNotes []
  | .touchedBy user => writtenOperator .touchedBy (writtenUser user)
  | .createdBy user => writtenOperator .createdBy (writtenUser user)
  | .editedBy user => writtenOperator .editedBy (writtenUser user)

/-- The canonical texts of some queries, with a blank between them. -/
def writtenEach : List Query → List Char
  | [] => []
  | [child] => written child
  | child :: second :: children => written child ++ ' ' :: writtenEach (second :: children)

end

/-- The canonical text of a query with its name in front of it. -/
def writtenNamed (named : NamedQuery) : List Char :=
  match named.name with
  | none => written named.query
  | some name => writtenQuoted name ++ ' ' :: written named.query

/-- The canonical text in the frame of a query block. -/
def framed (text : List Char) : List Char :=
  frameStart ++ (text ++ frameEnd)

/-! ## Leaves -/

/-- A text without blanks around it comes back from one blank on both sides. -/
theorem trim_padded {s : List Char} (stripped : trim s = s) : trim (' ' :: (s ++ [' '])) = s := by
  change trim ([' '] ++ (s ++ [' '])) = s
  exact trim_pad blanks_space blanks_space stripped

theorem ValidTitle.tagText {title : String} (valid : ValidTitle title) :
    TagText (writtenTag title) title := by
  rcases valid with ⟨⟨nonempty, stripped⟩, balanced⟩
  have trimmed := trim_padded stripped
  -- The last blank keeps a bracket at the end of the title from the closing brackets.
  have closed : marks ((' ' :: (title.toList ++ [' '])) ++ [']', ']']) =
      marks (' ' :: (title.toList ++ [' '])) ++ [.closing] := by
    have separate := marks_append_cons (c := ' ') (by decide) (by decide) (' ' :: title.toList)
    calc
      marks ((' ' :: (title.toList ++ [' '])) ++ [']', ']'])
          = marks ((' ' :: title.toList) ++ ' ' :: [']', ']']) := by simp
      _ = marks (' ' :: title.toList) ++ [.other ' ', .closing] := separate [']', ']']
      _ = marks ((' ' :: title.toList) ++ [' ']) ++ [.closing] := by
            rw [separate [], marks, List.append_assoc]
            rfl
  have depth : depthAfter? 1 (marks (' ' :: (title.toList ++ [' ']))) = some 1 := by
    change depthAfter? 1 (marks ([' '] ++ (title.toList ++ [' ']))) = some 1
    rw [depthAfter?_blanks_append blanks_space, depthAfter?_append_blanks blanks_space, balanced]
  have derived := TagText.intro closed depth (by rwa [trimmed])
  rwa [trimmed, String.ofList_toList] at derived

/-- Where a pattern can be found in a text around a character that it does not hold. -/
theorem infix_append_cons {pattern s rest : List Char} {c : Char} (other : c ∉ pattern)
    (found : pattern <:+: s ++ c :: rest) : pattern <:+: s ∨ pattern <:+: rest := by
  induction s with
  | nil =>
      rw [List.nil_append, List.infix_cons_iff] at found
      rcases found with starts | later
      · exact .inl (prefix_of_prefix_append_cons starts other).isInfix
      · exact .inr later
  | cons d s ih =>
      rw [List.cons_append, List.infix_cons_iff] at found
      rcases found with starts | later
      · exact .inl (prefix_of_prefix_append_cons starts other).isInfix
      · rcases ih later with inFront | behind
        · exact .inl (List.infix_cons inFront)
        · exact .inr behind

theorem ValidUid.blockRefText {uid : String} (valid : ValidUid uid) :
    BlockRefText (writtenBlockRef uid) uid := by
  rcases valid with ⟨⟨nonempty, stripped⟩, noClosing⟩
  have trimmed := trim_padded stripped
  have first : ¬ [')', ')'] <:+: (' ' :: (uid.toList ++ [' '])) ++ [')'] := by
    intro early
    rw [List.cons_append, List.append_assoc] at early
    rcases infix_append_cons (s := []) (by decide) early with inNone | early
    · cases List.eq_nil_of_infix_nil inNone
    · rcases infix_append_cons (by decide) early with inUid | inLast
      · exact noClosing inUid
      · exact absurd inLast.length_le (by decide)
  have derived := BlockRefText.intro first (by rwa [trimmed])
  rwa [trimmed, String.ofList_toList] at derived

theorem quotedRest_escapeQuotes {value : List Char} (quotable : value.getLast? ≠ some '\\') :
    QuotedRest (escapeQuotes value ++ ['"']) value := by
  induction value with
  | nil => exact .close
  | cons c value ih =>
      have restQuotable : value.getLast? ≠ some '\\' := by
        cases value with
        | nil => simp
        | cons d value => rwa [List.getLast?_cons_cons] at quotable
      by_cases isQuote : c = '"'
      · rw [isQuote]
        exact .quote (ih restQuotable)
      · rw [escapeQuotes, List.flatMap_cons, if_neg isQuote]
        refine .char isQuote ?_ (ih restQuotable)
        rintro rfl first
        cases value with
        | nil => exact quotable rfl
        | cons d value =>
            by_cases isQuote : d = '"'
            · simp [isQuote] at first
            · simp [isQuote] at first

theorem Quotable.quotedText {text : String} (quotable : Quotable text) :
    QuotedText (writtenQuoted text) text := by
  have derived := QuotedText.intro (quotedRest_escapeQuotes quotable)
  rwa [String.ofList_toList] at derived

theorem ValidSearch.searchText {text : String} (valid : ValidSearch text) :
    SearchText (writtenSearch text) text := by
  rw [writtenSearch]
  split
  · next quotable => exact .quoted quotable.quotedText
  · next notQuotable =>
      rcases valid with quotable | ⟨stripped, noBrace, noQuote⟩
      · exact absurd quotable notQuotable
      · have derived := SearchText.plain noBrace (by rwa [stripped])
        rwa [stripped, String.ofList_toList] at derived

theorem ValidUser.userText {user : String} (valid : ValidUser user) :
    UserText (writtenUser user) user := by
  rw [writtenUser]
  split
  · next title => exact .tag title.tagText
  · next noTitle =>
      rcases valid with title | ⟨⟨nonempty, stripped⟩, noBrace, noTag⟩
      · exact absurd title noTitle
      · have derived := UserText.plain noBrace (by rwa [stripped]) (by rwa [stripped])
        rwa [stripped, String.ofList_toList] at derived

/-! ## Expressions -/

/-- The canonical text of an operator is derived from what the operator needs. -/
theorem expression_writtenOperator {operator : Operator} {body : List Char} {query : Query}
    (inner : Body operator body query) : Expression (writtenOperator operator body) query := by
  have spelled : SpellsOperator operator operator.name.toList := by
    cases operator <;> rfl
  exact .operator blanks_nil spelled blanks_nil blanks_space inner blanks_nil

mutual

/-- The grammar derives the canonical text of a well-formed query for this query. -/
theorem expression_written : ∀ query : Query, query.WellFormed → Expression (written query) query
  | .tag _, valid => .tag valid.tagText
  | .blockRef _, valid => .blockRef valid.blockRefText
  | .all children, ⟨nonempty, valid⟩ =>
    expression_writtenOperator (.all (children_writtenEach children nonempty valid))
  | .any children, ⟨nonempty, valid⟩ =>
    expression_writtenOperator (.any (children_writtenEach children nonempty valid))
  | .not child, valid => expression_writtenOperator (.not (expression_written child valid))
  | .between _ _, ⟨startValid, finishValid⟩ =>
    expression_writtenOperator (.between startValid.tagText blanks_space finishValid.tagText)
  | .search _, valid => expression_writtenOperator (.search valid.searchText)
  | .dailyNotes, _ => expression_writtenOperator .dailyNotes
  | .touchedBy _, valid => expression_writtenOperator (.touchedBy valid.userText)
  | .createdBy _, valid => expression_writtenOperator (.createdBy valid.userText)
  | .editedBy _, valid => expression_writtenOperator (.editedBy valid.userText)

/-- The grammar derives the canonical texts of well-formed operands. -/
theorem children_writtenEach : ∀ children : List Query, children ≠ [] →
    WellFormedEach children → Children (writtenEach children) children
  | [], nonempty, _ => absurd rfl nonempty
  | [child], _, ⟨valid, _⟩ => .one (expression_written child valid)
  | child :: second :: children, _, ⟨valid, othersValid⟩ =>
    .more (expression_written child valid) blanks_space
      (children_writtenEach (second :: children) (List.cons_ne_nil _ _) othersValid)

end

/-! ## Whole queries -/

theorem namedText_writtenNamed {named : NamedQuery} (valid : named.WellFormed) :
    NamedText (writtenNamed named) named := by
  rcases named with ⟨query, name⟩
  rcases valid with ⟨queryValid, nameValid⟩
  have inner := expression_written query queryValid
  cases name with
  | none =>
      have derived := NamedText.unnamed blanks_nil inner blanks_nil
      rwa [List.append_nil] at derived
  | some name =>
      have quoted := (nameValid name rfl).quotedText
      have derived := NamedText.named blanks_nil quoted blanks_space inner blanks_nil
      rwa [List.append_nil] at derived

/-- The canonical text of a query starts with a bracket or a brace. -/
theorem solid_written (query : Query) : Solid (written query) := by
  cases query <;> exact .intro rfl

/-- The canonical text of a query ends with a bracket or a brace. -/
theorem solid_reverse_written (query : Query) : Solid (written query).reverse := by
  cases query <;>
    simp only [written, writtenTag, writtenBlockRef, writtenOperator, List.reverse_cons,
      List.reverse_append, List.reverse_nil, List.nil_append, List.cons_append] <;>
    exact .intro rfl

theorem trim_writtenNamed (named : NamedQuery) :
    trim (writtenNamed named) = writtenNamed named := by
  rcases named with ⟨query, _ | name⟩
  · have start := (solid_written query).append []
    have ending := (solid_reverse_written query).append []
    rw [List.append_nil] at start ending
    exact trim_eq_self start ending
  · apply trim_eq_self
    · rintro c ⟨⟩
      rfl
    · rw [writtenNamed, List.reverse_append, List.reverse_cons, List.append_assoc]
      exact (solid_reverse_written query).append _

theorem writtenNamed_ne_nil (named : NamedQuery) : writtenNamed named ≠ [] := by
  rcases named with ⟨query, _ | name⟩
  · exact (solid_written query).ne_nil
  · exact List.cons_ne_nil _ _

theorem unframe?_writtenNamed (named : NamedQuery) : unframe? (writtenNamed named) = none := by
  rcases named with ⟨query, _ | name⟩
  · cases query <;> rfl
  · rfl

/-- The canonical text stands for itself. -/
theorem expressionText_writtenNamed (named : NamedQuery) :
    expressionText (writtenNamed named) = writtenNamed named := by
  rw [expressionText, trim_writtenNamed, unframe?_writtenNamed]

theorem trim_framed (text : List Char) : trim (framed text) = framed text := by
  apply trim_eq_self
  · rintro c ⟨⟩
    rfl
  · rw [framed, frameEnd, List.reverse_append, List.reverse_append]
    rintro c ⟨⟩
    rfl

theorem unframe?_framed {text : List Char} (nonempty : text ≠ []) :
    unframe? (framed text) = some text := by
  have closes : frameEnd.isSuffixOf (text ++ frameEnd) = true ∧
      frameEnd.length < (text ++ frameEnd).length := by
    rw [List.isSuffixOf_iff_suffix, List.length_append]
    exact ⟨List.suffix_append _ _, Nat.lt_add_of_pos_left (List.length_pos_iff.mpr nonempty)⟩
  rw [unframe?, framed, dropStart?_append]
  dsimp only
  rw [if_pos closes, List.length_append, Nat.add_sub_cancel, List.take_left]

/-- A frame stands for what it holds. -/
theorem expressionText_framed {text : List Char} (nonempty : text ≠ []) :
    expressionText (framed text) = trim text := by
  rw [expressionText, trim_framed, unframe?_framed nonempty]

/-- The canonical text of a query with its name. -/
def canonicalText (named : NamedQuery) : String :=
  String.ofList (writtenNamed named)

/-- The canonical text of a query with its name as a query block. -/
def canonicalBlock (named : NamedQuery) : String :=
  String.ofList (framed (writtenNamed named))

theorem parse_canonicalBlock {named : NamedQuery} (valid : named.WellFormed) :
    parse (canonicalBlock named) = .ok named := by
  rw [parse_eq_ok_iff_readNamed, readNamed_eq_ok_iff_namedText, canonicalBlock,
    String.toList_ofList, expressionText_framed (writtenNamed_ne_nil named), trim_writtenNamed]
  exact namedText_writtenNamed valid

/-- What parsing gives is well formed, and what is well formed is given by parsing
its canonical text, on its own or in a frame. -/
theorem parse_inverts_canonicalText (named : NamedQuery) :
    (∀ text, parse text = .ok named → named.WellFormed) ∧
      (named.WellFormed →
        parse (canonicalText named) = .ok named ∧ parse (canonicalBlock named) = .ok named) := by
  constructor
  · intro text parsed
    rw [parse_eq_ok_iff_readNamed, readNamed_eq_ok_iff_namedText] at parsed
    exact parsed.wellFormed
  · intro valid
    have derived := namedText_writtenNamed valid
    constructor
    · rw [parse_eq_ok_iff_readNamed, readNamed_eq_ok_iff_namedText, canonicalText,
        String.toList_ofList, expressionText_writtenNamed]
      exact derived
    · rw [parse_eq_ok_iff_readNamed, readNamed_eq_ok_iff_namedText, canonicalBlock,
        String.toList_ofList, expressionText_framed (writtenNamed_ne_nil named), trim_writtenNamed]
      exact derived

/-- A query whose texts end with a bracket, a backslash and a parenthesis. -/
def awkward : NamedQuery :=
  ⟨.all [.tag "a]", .search "C:\\", .any [.touchedBy "a]]b", .not (.blockRef "u)")]],
    some "say \"hi\""⟩

theorem awkward_wellFormed : awkward.WellFormed := by
  refine ⟨⟨by simp, ?_, ?_, ⟨by simp, ?_, ?_, trivial⟩, trivial⟩, ?_⟩
  · exact ⟨⟨by decide, by decide⟩, by decide⟩
  · exact .inr ⟨by decide, by decide, by decide⟩
  · exact .inr ⟨⟨by decide, by decide⟩, by decide, by decide⟩
  · exact ⟨⟨by decide, by decide⟩, by decide⟩
  · rintro _ ⟨⟩
    decide

theorem parse_inverts_canonicalText_awkward :
    awkward.WellFormed ∧ parse (canonicalText awkward) = .ok awkward :=
  ⟨awkward_wellFormed, ((parse_inverts_canonicalText awkward).2 awkward_wellFormed).1⟩

example : canonicalText awkward =
    "\"say \\\"hi\\\"\" \x7band: [[ a] ]] \x7bsearch: C:\\\x7d " ++
      "\x7bor: \x7bby: a]]b\x7d \x7bnot: (( u) ))\x7d\x7d\x7d" := by
  decide +kernel

end BlockQuery.Query
