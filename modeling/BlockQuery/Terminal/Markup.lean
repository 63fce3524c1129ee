import BlockQuery.Terminal.Literal
import BlockQuery.Terminal.Style
import BlockQuery.Text.Word

/-!
# Markup

Text for the terminal may carry style tags in square brackets: `[info]text[/info]`.
A backslash in front of a tag makes it plain text. `escape` protects a text from
being read as markup, and `render` gives the characters that reach the screen.
-/

namespace BlockQuery.Terminal

/-- A stretch of marked-up text. -/
inductive Token
  | plain (c : Char)
  /-- A tag behind a number of backslashes. -/
  | tag (backslashes : Nat) (body : List Char)
deriving DecidableEq, Repr

/-- Whether a character may start the body of a tag. -/
def startsTag (c : Char) : Bool :=
  ('a' ≤ c && c ≤ 'z') || c == '#' || c == '/' || c == '@'

/-- The body of the tag at the front of a text, and what follows the tag. -/
def tagAt? (text : List Char) : Option (List Char × List Char) :=
  match text with
  | '[' :: c :: rest =>
    let inside (d : Char) : Bool := d != '[' && d != ']'
    if startsTag c then
      match rest.dropWhile inside with
      | ']' :: after => some (c :: rest.takeWhile inside, after)
      | _ => none
    else
      none
  | _ => none

/-- What follows a tag is shorter than the text. -/
theorem length_tagAt? {text body after : List Char} (h : tagAt? text = some (body, after)) :
    after.length < text.length := by
  unfold tagAt? at h
  split at h
  · next c rest =>
    dsimp only at h
    split at h
    · split at h
      · next tail hdrop =>
        simp only [Option.some.injEq, Prod.mk.injEq] at h
        have hle := (rest.dropWhile_sublist fun d => d != '[' && d != ']').length_le
        rw [hdrop] at hle
        simp only [List.length_cons] at hle ⊢
        rw [← h.2]
        omega
      · contradiction
    · contradiction
  · contradiction

/-- What follows a tag behind some characters is shorter than the text. -/
theorem length_tagAt?_drop {text body after : List Char} {count : Nat}
    (h : tagAt? (text.drop count) = some (body, after)) : after.length < text.length := by
  have := length_tagAt? h
  rw [List.length_drop] at this
  omega

/-- The tags of a text and the characters between them. -/
def tokens (text : List Char) : List Token :=
  match text with
  | [] => []
  | c :: rest =>
    let backslashes := ((c :: rest).takeWhile (· == '\\')).length
    match h : tagAt? ((c :: rest).drop backslashes) with
    | some (body, after) =>
      have : after.length < (c :: rest).length := length_tagAt?_drop h
      .tag backslashes body :: tokens after
    | none => .plain c :: tokens rest
termination_by text.length
decreasing_by
  · exact this
  · exact Nat.lt_succ_self _

/-- A tag as written. -/
def writtenTag (body : List Char) : List Char :=
  '[' :: body ++ [']']

/-- The text with a backslash more in front of every tag. -/
def escapeTags (text : List Char) : List Char :=
  (tokens text).flatMap fun
    | .plain c => [c]
    | .tag backslashes body =>
      List.replicate (2 * backslashes + 1) '\\' ++ writtenTag body

/-- The text as markup that shows it. A single backslash at the end is doubled, so that it does
not protect a tag that follows. -/
def escape (text : String) : String :=
  let escaped := escapeTags text.toList
  let ending := (escaped.reverse.takeWhile (· == '\\')).length
  String.ofList (if ending = 1 then escaped ++ ['\\'] else escaped)

/-- A text in a style. -/
def styled (style text : String) : String :=
  "[" ++ style ++ "]" ++ escape text ++ "[/" ++ style ++ "]"

/-- Why a text is not markup. -/
inductive MarkupError
  /-- A closing tag has nothing to close. -/
  | unmatchedTag (body : List Char)
  /-- What a handler is given is not a literal. -/
  | badHandler (parameters : List Char)
  /-- A part of a colour is not a number. -/
  | badColor (style : List Char)
deriving DecidableEq, Repr

/-! ### Tags -/

/-- A tag that is not closed yet. -/
structure OpenTag where
  name : String
  /-- What follows an equals sign. -/
  parameters : Option (List Char)
  /-- The number of characters in front of the tag. -/
  start : Nat
deriving DecidableEq, Repr

/-- The characters of a shown text from a position up to another, and what they look like. -/
structure Span where
  start : Nat
  stop : Nat
  style : List Char
deriving DecidableEq, Repr

/-- The name of a tag in its normal form. -/
def tagName (name : List Char) : Except MarkupError String :=
  (normalStyle name).mapError fun _ => .badColor name

/-- The arguments of a handler that is written as a name or a call; of any other text, the text
itself. -/
def handlerArguments (parameters : List Char) : List Char :=
  let text := Text.trim parameters
  match text.dropWhile fun c => Text.isWordCharacter c || c == '.' with
  | [] => ['(', ')']
  | '(' :: rest =>
    if rest.getLast? = some ')' ∧ !rest.contains '\n' then '(' :: rest else text
  | _ => text

namespace OpenTag

/-- The characters that an open tag covers up to a position. -/
def span (tag : OpenTag) (stop : Nat) : Span :=
  let style := match tag.parameters with
    | some parameters => tag.name.toList ++ ' ' :: parameters
    | none => tag.name.toList
  ⟨tag.start, stop, style⟩

/-- Closes a tag at a position. A tag whose name starts with an at sign has a handler, which has to
be given a literal; any other one gives its characters a style. -/
def close (tag : OpenTag) (stop : Nat) : Except MarkupError (List Span) :=
  if tag.name.startsWith "@" then
    let parameters := tag.parameters.getD []
    if parameters.isEmpty || isLiteral (handlerArguments parameters) then
      .ok []
    else
      .error (.badHandler parameters)
  else
    .ok [tag.span stop]

end OpenTag

/-- The innermost open tag, of the given name if there is one, and the tags without it. -/
def findTag? (name : Option String) : List OpenTag → Option (OpenTag × List OpenTag)
  | [] => none
  | tag :: outer =>
    if name.all (· == tag.name) then
      some (tag, outer)
    else
      (findTag? name outer).map fun (found, others) => (found, tag :: others)

/-- The spans that end at a tag, and the open tags behind it, innermost first. -/
def applyTag (position : Nat) (opened : List OpenTag) (body : List Char) :
    Except MarkupError (List Span × List OpenTag) :=
  match body.takeWhile (· != '=') with
  | '/' :: name => do
    let name ← if (Text.trim name).isEmpty then pure none else some <$> tagName name
    match findTag? name opened with
    | some (tag, others) => return (← tag.close position, others)
    | none => throw (.unmatchedTag body)
  | name => do
    let parameters := (body.dropWhile (· != '=')).tail?
    return ([], ⟨← tagName name, parameters, position⟩ :: opened)

/-! ### Shown text -/

/-- Whether a character is dropped on its way to the screen. -/
def isScreenControl (c : Char) : Bool :=
  c.toNat == 7 || c.toNat == 8 || c.toNat == 11 || c.toNat == 12 || c.toNat == 13

/-- A text without the characters that are dropped on the way to the screen. -/
def onScreen (text : List Char) : List Char :=
  text.filter (!isScreenControl ·)

/-- Text that is not markup as it reaches the screen. -/
def screenText (text : String) : String :=
  String.ofList (onScreen text.toList)

/-- A stretch of markup either shows characters or is a tag in effect. -/
inductive Piece
  | text (shown : List Char)
  | tag (body : List Char)
deriving DecidableEq, Repr

/-- What stretches show. Of two backslashes in front of a tag, one is shown; a single one makes the
tag plain text. A backslash in front of a bracket that starts no tag is dropped. -/
def pieces : List Token → List Piece
  | [] => []
  | .plain '\\' :: .plain '[' :: rest => .text ['['] :: pieces rest
  | .plain c :: rest => .text (onScreen [c]) :: pieces rest
  | .tag backslashes body :: rest =>
    let shown := List.replicate (backslashes / 2) '\\'
    if backslashes % 2 = 1 then
      .text (onScreen (shown ++ writtenTag body)) :: pieces rest
    else
      .text shown :: .tag body :: pieces rest

/-- The text that markup shows, and its styles. -/
structure Rendered where
  text : List Char
  spans : List Span
deriving DecidableEq, Repr

/-- The text that pieces show from a position on, and the spans that end there. Tags that are still
open at the end go up to it. -/
def renderPieces (position : Nat) (opened : List OpenTag) : List Piece → Except MarkupError Rendered
  | [] => .ok ⟨[], opened.map (·.span position)⟩
  | .text shown :: rest => do
    let after ← renderPieces (position + shown.length) opened rest
    return { after with text := shown ++ after.text }
  | .tag body :: rest => do
    let (spans, opened) ← applyTag position opened body
    let after ← renderPieces position opened rest
    return { after with spans := spans ++ after.spans }

namespace Rendered

/-- Reads markup. -/
def read (markup : String) : Except MarkupError Rendered :=
  renderPieces 0 [] (pieces (tokens markup.toList))

/-- Whether a span has an effect. In a text of several lines, it has to cover a character other
than their ends. -/
def uses (rendered : Rendered) (span : Span) : Bool :=
  let covered := (rendered.text.take span.stop).drop span.start
  !rendered.text.contains '\n' || covered.any (· != '\n')

/-- Checks the styles of a text. A style that no terminal knows has no effect, but the parts of a
colour have to be numbers. -/
def check (rendered : Rendered) : Except MarkupError Unit :=
  let isBad (span : Span) : Bool :=
    rendered.uses span && (normalStyle span.style).toOption.isNone
  match rendered.spans.find? isBad with
  | some span => .error (.badColor span.style)
  | none => .ok ()

end Rendered

/-- The characters that marked-up text shows. -/
def render (markup : String) : Except MarkupError String :=
  (Rendered.read markup).map fun rendered => String.ofList rendered.text

end BlockQuery.Terminal
