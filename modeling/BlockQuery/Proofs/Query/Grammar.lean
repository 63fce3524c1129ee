import BlockQuery.Query
import BlockQuery.Query.ParseError
import BlockQuery.Proofs.Text.Blank

/-!
# The grammar of queries

Which texts are queries, and which query each of them is.  Nothing here says how
a text is read: a derivation cuts a text into pieces, and the pieces hold on
their own.
-/

namespace BlockQuery.Query

open BlockQuery.Text

/-! ## Leaves -/

/-- The tokens of a text between double square brackets. -/
inductive Mark
  | closing
  | opening
  | other (c : Char)
deriving DecidableEq, Repr

/-- The tokens of a text from left to right. A `]]` is looked for before a `[[`. -/
def marks : List Char → List Mark
  | [] => []
  | ']' :: ']' :: rest => .closing :: marks rest
  | '[' :: '[' :: rest => .opening :: marks rest
  | c :: rest => .other c :: marks rest

/-- The depth behind some tokens, if it is not zero before. -/
def depthAfter? : Nat → List Mark → Option Nat
  | 0, _ => none
  | depth + 1, [] => some (depth + 1)
  | depth + 1, .closing :: rest => depthAfter? depth rest
  | depth + 1, .opening :: rest => depthAfter? (depth + 2) rest
  | depth + 1, .other _ :: rest => depthAfter? (depth + 1) rest

/-- A page reference: `[[`, a title that is not blank, and the `]]` behind which
the depth is zero for the first time. -/
inductive TagText : List Char → String → Prop
  | intro {inside : List Char} {tokens : List Mark}
      (closed : marks (inside ++ [']', ']']) = tokens ++ [.closing])
      (balanced : depthAfter? 1 tokens = some 1) (solid : trim inside ≠ []) :
      TagText ('[' :: '[' :: (inside ++ [']', ']'])) (String.ofList (trim inside))

/-- A block reference: `((`, an identifier that is not blank, and the first `))`. -/
inductive BlockRefText : List Char → String → Prop
  | intro {inside : List Char} (first : ¬ [')', ')'] <:+: inside ++ [')'])
      (solid : trim inside ≠ []) :
      BlockRefText ('(' :: '(' :: (inside ++ [')', ')'])) (String.ofList (trim inside))

/-- What stands behind an opening quote, with the quote that closes it. A `\"` is a
quote, and any other backslash is itself. -/
inductive QuotedRest : List Char → List Char → Prop
  | close : QuotedRest ['"'] []
  | quote {rest value : List Char} (inner : QuotedRest rest value) :
      QuotedRest ('\\' :: '"' :: rest) ('"' :: value)
  | char {c : Char} {rest value : List Char} (notQuote : c ≠ '"')
      (notEscape : c = '\\' → rest.head? ≠ some '"') (inner : QuotedRest rest value) :
      QuotedRest (c :: rest) (c :: value)

/-- A text between quotes. -/
inductive QuotedText : List Char → String → Prop
  | intro {rest value : List Char} (inner : QuotedRest rest value) :
      QuotedText ('"' :: rest) (String.ofList value)

/-- What to search for: a quoted text, or anything else without a closing brace. -/
inductive SearchText : List Char → String → Prop
  | quoted {text : List Char} {value : String} (quoted : QuotedText text value) :
      SearchText text value
  | plain {text : List Char} (noBrace : '}' ∉ text) (noQuote : ¬ ['"'] <+: trim text) :
      SearchText text (String.ofList (trim text))

/-- A user: a page reference, or anything else that is not blank and without a
closing brace. -/
inductive UserText : List Char → String → Prop
  | tag {text : List Char} {user : String} (tag : TagText text user) : UserText text user
  | plain {text : List Char} (noBrace : '}' ∉ text) (solid : trim text ≠ [])
      (noTag : ¬ ['[', '['] <+: trim text) : UserText text (String.ofList (trim text))

/-! ## Expressions -/

/-- The text is the name of the operator, in small or capital letters. -/
def SpellsOperator (operator : Operator) (text : List Char) : Prop :=
  text.map Char.toLower = operator.name.toList

mutual

/-- The text is an expression for the query. -/
inductive Expression : List Char → Query → Prop
  | tag {text : List Char} {title : String} (tag : TagText text title) :
      Expression text (.tag title)
  | blockRef {text : List Char} {uid : String} (blockRef : BlockRefText text uid) :
      Expression text (.blockRef uid)
  | operator {operator : Operator} {before name behind start body finish : List Char}
      {query : Query} (beforeBlank : Blanks before) (spelled : SpellsOperator operator name)
      (behindBlank : Blanks behind) (startBlank : Blanks start) (inner : Body operator body query)
      (finishBlank : Blanks finish) :
      Expression
        ('{' :: (before ++ (name ++ (behind ++ ':' :: (start ++ (body ++ (finish ++ ['}'])))))))
        query

/-- The text is what the operator needs for the query. -/
inductive Body : Operator → List Char → Query → Prop
  | all {text : List Char} {children : List Query} (inner : Children text children) :
      Body .all text (.all children)
  | any {text : List Char} {children : List Query} (inner : Children text children) :
      Body .any text (.any children)
  | not {text : List Char} {child : Query} (inner : Expression text child) :
      Body .not text (.not child)
  | between {first blanks second : List Char} {start finish : String}
      (startTag : TagText first start) (blank : Blanks blanks) (finishTag : TagText second finish) :
      Body .between (first ++ (blanks ++ second)) (.between start finish)
  | search {text : List Char} {value : String} (searched : SearchText text value) :
      Body .search text (.search value)
  | dailyNotes : Body .dailyNotes [] .dailyNotes
  | touchedBy {text : List Char} {user : String} (named : UserText text user) :
      Body .touchedBy text (.touchedBy user)
  | createdBy {text : List Char} {user : String} (named : UserText text user) :
      Body .createdBy text (.createdBy user)
  | editedBy {text : List Char} {user : String} (named : UserText text user) :
      Body .editedBy text (.editedBy user)

/-- The text is one or more expressions with blanks between them. -/
inductive Children : List Char → List Query → Prop
  | one {text : List Char} {child : Query} (first : Expression text child) :
      Children text [child]
  | more {text blanks others : List Char} {child : Query} {children : List Query}
      (first : Expression text child) (blank : Blanks blanks) (rest : Children others children) :
      Children (text ++ (blanks ++ others)) (child :: children)

end

/-- The text is a whole query, with or without a name in front of it. -/
inductive NamedText : List Char → NamedQuery → Prop
  | unnamed {before text behind : List Char} {query : Query} (beforeBlank : Blanks before)
      (inner : Expression text query) (behindBlank : Blanks behind) :
      NamedText (before ++ (text ++ behind)) ⟨query, none⟩
  | named {before quoted between text behind : List Char} {name : String} {query : Query}
      (beforeBlank : Blanks before) (quotedName : QuotedText quoted name)
      (betweenBlank : Blanks between) (inner : Expression text query)
      (behindBlank : Blanks behind) :
      NamedText (before ++ (quoted ++ (between ++ (text ++ behind)))) ⟨query, some name⟩

end BlockQuery.Query
