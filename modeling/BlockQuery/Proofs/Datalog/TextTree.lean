import BlockQuery.Datalog.Literal
import BlockQuery.Text.Blank
import Mathlib.Data.List.Forall2
import Mathlib.Data.List.TakeWhile

/-!
# Query texts as trees

A query text is a sequence of names, literals and bracketed groups with blanks
between them.  A literal ends at the first quote that no backslash takes with
it, so brackets and quotes inside a literal do not count.

Reading a text has two stages: its tokens, and the trees that the tokens
enclose.  A tree writes its own tokens, and reading them gives the tree back in
every surrounding.
-/

namespace BlockQuery.Datalog

open BlockQuery.Text

/-- The two kinds of brackets of a query text. -/
inductive Bracket
  | round
  | square
deriving DecidableEq, Repr

/-- The smallest pieces of a query text. -/
inductive Token
  | opening (bracket : Bracket)
  | closing (bracket : Bracket)
  | name (text : List Char)
  /-- The characters between two quotes, as they are written. -/
  | literal (raw : List Char)
deriving DecidableEq, Repr

/-- The token of a bracket. -/
def Token.bracket? (c : Char) : Option Token :=
  match c with
  | '(' => some (.opening .round)
  | ')' => some (.closing .round)
  | '[' => some (.opening .square)
  | ']' => some (.closing .square)
  | _ => none

/-- Whether a character can stand in a name. -/
def isNameChar (c : Char) : Bool :=
  !isBlank c && c != '"' && (Token.bracket? c).isNone

/-- The characters up to the quote that ends a literal, and what follows it. A
backslash takes the next character with it. -/
def literalBody : List Char → Option (List Char × List Char)
  | [] => none
  | '"' :: rest => some ([], rest)
  | '\\' :: c :: rest => (literalBody rest).map fun (raw, after) => ('\\' :: c :: raw, after)
  | c :: rest => (literalBody rest).map fun (raw, after) => (c :: raw, after)

theorem literalBody_length {s raw after : List Char}
    (found : literalBody s = some (raw, after)) : after.length < s.length := by
  fun_induction literalBody s generalizing raw after with
  | case1 => simp at found
  | case2 =>
      simp only [Option.some.injEq, Prod.mk.injEq] at found
      simp only [← found.2, List.length_cons]
      omega
  | case3 _ _ ih | case4 _ _ _ _ ih =>
      obtain ⟨⟨inner, rest⟩, innerFound, pairEq⟩ := Option.map_eq_some_iff.1 found
      cases pairEq
      have := ih innerFound
      simp only [List.length_cons]
      omega

/-- The tokens of a text; a literal must end. -/
def tokens (text : List Char) : Option (List Token) :=
  match text with
  | [] => some []
  | c :: rest =>
    if isBlank c then
      tokens rest
    else if c = '"' then
      match found : literalBody rest with
      | none => none
      | some (raw, after) =>
        have : after.length < rest.length := literalBody_length found
        (tokens after).map (.literal raw :: ·)
    else
      match Token.bracket? c with
      | some bracket => (tokens rest).map (bracket :: ·)
      | none =>
        (tokens (rest.dropWhile isNameChar)).map (.name (c :: rest.takeWhile isNameChar) :: ·)
termination_by text.length
decreasing_by
  · exact Nat.lt_succ_self _
  · exact Nat.lt_succ_of_lt this
  · exact Nat.lt_succ_self _
  · exact Nat.lt_succ_of_le (List.dropWhile_sublist _).length_le

/-- A query text as nested groups. -/
inductive Tree
  | name (text : List Char)
  | literal (raw : List Char)
  | group (bracket : Bracket) (items : List Tree)
deriving Repr

namespace Tree

/-- The trees that tokens enclose. The stack holds the groups that are still
open, innermost first, each with the items in front of the group inside it. -/
def build : List (Bracket × List Tree) → List Tree → List Token → Option (List Tree)
  | [], items, [] => some items
  | _ :: _, _, [] => none
  | stack, items, .opening bracket :: rest => build ((bracket, items) :: stack) [] rest
  | [], _, .closing _ :: _ => none
  | (bracket, outer) :: stack, items, .closing closed :: rest =>
    if bracket = closed then build stack (outer ++ [.group bracket items]) rest else none
  | stack, items, .name text :: rest => build stack (items ++ [.name text]) rest
  | stack, items, .literal raw :: rest => build stack (items ++ [.literal raw]) rest

mutual

/-- The tokens that a tree is written with. -/
def tokens : Tree → List Token
  | name text => [.name text]
  | literal raw => [.literal raw]
  | group bracket items => .opening bracket :: tokensEach items ++ [.closing bracket]

/-- The tokens that several trees are written with. -/
def tokensEach : List Tree → List Token
  | [] => []
  | item :: items => tokens item ++ tokensEach items

end

mutual

/-- The literals of a tree from left to right, as they are written. -/
def literals : Tree → List (List Char)
  | name _ => []
  | literal raw => [raw]
  | group _ items => literalsEach items

/-- The literals of several trees from left to right. -/
def literalsEach : List Tree → List (List Char)
  | [] => []
  | item :: items => literals item ++ literalsEach items

end

/-- Whether a tree is a bracketed form. -/
def isGroup : Tree → Bool
  | group .. => true
  | _ => false

theorem literalsEach_eq_flatMap (items : List Tree) :
    literalsEach items = items.flatMap literals := by
  induction items with
  | nil => rfl
  | cons item items ih => rw [literalsEach, ih, List.flatMap_cons]

theorem tokensEach_eq_flatMap (items : List Tree) :
    tokensEach items = items.flatMap tokens := by
  induction items with
  | nil => rfl
  | cons item items ih => rw [tokensEach, ih, List.flatMap_cons]

mutual

/-- The tokens of a tree give the tree back, whatever is open around it. -/
theorem build_tokens_append (stack : List (Bracket × List Tree)) (before : List Tree)
    (tree : Tree) (rest : List Token) :
    build stack before (tree.tokens ++ rest) = build stack (before ++ [tree]) rest := by
  cases tree with
  | name text => simp only [tokens, List.cons_append, List.nil_append, build]
  | literal raw => simp only [tokens, List.cons_append, List.nil_append, build]
  | group bracket items =>
      simp only [tokens, List.cons_append, List.append_assoc, List.nil_append, build]
      rw [build_tokensEach_append]
      simp only [build, if_true, List.nil_append]

/-- The tokens of several trees give the trees back. -/
theorem build_tokensEach_append (stack : List (Bracket × List Tree)) (before : List Tree)
    (items : List Tree) (rest : List Token) :
    build stack before (tokensEach items ++ rest) = build stack (before ++ items) rest := by
  cases items with
  | nil => simp only [tokensEach, List.nil_append, List.append_nil]
  | cons item items =>
      rw [tokensEach, List.append_assoc, build_tokens_append, build_tokensEach_append]
      rw [List.append_assoc, List.singleton_append]

end

theorem tokensEach_append (first second : List Tree) :
    tokensEach (first ++ second) = tokensEach first ++ tokensEach second := by
  simp only [tokensEach_eq_flatMap, List.flatMap_append]

/-- The tokens read so far of groups that are still open. -/
def tokensOpen : List (Bracket × List Tree) → List Token
  | [] => []
  | (bracket, outer) :: stack => tokensOpen stack ++ tokensEach outer ++ [.opening bracket]

private theorem build_reconstruct {stack : List (Bracket × List Tree)} {before items : List Tree}
    {written : List Token} (built : build stack before written = some items) :
    tokensOpen stack ++ tokensEach before ++ written = tokensEach items := by
  fun_induction build stack before written with
  | case1 before =>
      cases built
      simp [tokensOpen]
  | case2 => cases built
  | case3 stack before bracket rest ih =>
      rw [← ih built]
      simp [tokensOpen, tokensEach]
  | case4 => cases built
  | case5 outer stack before closed rest ih =>
      rw [← ih built]
      simp [tokensOpen, tokensEach_append, tokensEach, tokens]
  | case6 => cases built
  | case7 stack before text rest ih | case8 stack before text rest ih =>
      rw [← ih built]
      simp [tokensEach_append, tokensEach, tokens]

/-- Tokens enclose trees exactly when they are the tokens of these trees. -/
theorem build_eq_some_iff {written : List Token} {items : List Tree} :
    build [] [] written = some items ↔ written = tokensEach items := by
  constructor
  · intro built
    exact build_reconstruct built
  · rintro rfl
    have read := build_tokensEach_append [] [] items []
    rw [List.append_nil, List.nil_append] at read
    rw [read, build]

end Tree

/-- The trees of a text. Every bracket must be closed by one of its own kind. -/
def readTrees (text : List Char) : Option (List Tree) :=
  (tokens text).bind (Tree.build [] [])

/-! ## Texts that spell tokens -/

/-- A text that does not continue a name in front of it. -/
def Boundary (text : List Char) : Prop :=
  ∀ c ∈ text.head?, isNameChar c = false

theorem boundary_nil : Boundary [] := by
  intro c inHead
  cases inHead

theorem boundary_cons {c : Char} {rest : List Char} :
    Boundary (c :: rest) ↔ isNameChar c = false := by
  simp [Boundary]

theorem boundary_of_blank {c : Char} {rest : List Char} (blank : isBlank c) :
    Boundary (c :: rest) := by
  rw [boundary_cons]
  simp [isNameChar, blank]

theorem boundary_of_bracket {c : Char} {rest : List Char} {token : Token}
    (isBracket : Token.bracket? c = some token) : Boundary (c :: rest) := by
  rw [boundary_cons]
  simp [isNameChar, isBracket]

theorem Boundary.takeWhile_append {rest : List Char} (boundary : Boundary rest)
    (text : List Char) :
    (text ++ rest).takeWhile isNameChar = text.takeWhile isNameChar := by
  induction text with
  | nil =>
      cases rest with
      | nil => rfl
      | cons c rest => simp [boundary_cons.mp boundary]
  | cons c text ih => simp [List.takeWhile_cons, ih]

theorem Boundary.dropWhile_append {rest : List Char} (boundary : Boundary rest)
    (text : List Char) :
    (text ++ rest).dropWhile isNameChar = text.dropWhile isNameChar ++ rest := by
  induction text with
  | nil =>
      cases rest with
      | nil => rfl
      | cons c rest => simp [boundary_cons.mp boundary]
  | cons c text ih =>
      by_cases named : isNameChar c <;> simp [named, ih]

/-- The characters are read as exactly these tokens in front of every text. -/
def Spells (chars : List Char) (written : List Token) : Prop :=
  ∀ rest, tokens (chars ++ rest) = (tokens rest).map (written ++ ·)

/-- The characters are read as exactly these tokens wherever no name goes on
behind them. -/
def SpellsOpen (chars : List Char) (written : List Token) : Prop :=
  ∀ rest, Boundary rest → tokens (chars ++ rest) = (tokens rest).map (written ++ ·)

theorem Spells.toOpen {chars : List Char} {written : List Token}
    (spells : Spells chars written) : SpellsOpen chars written :=
  fun rest _ => spells rest

theorem Spells.append {first second : List Char} {before after : List Token}
    (left : Spells first before) (right : Spells second after) :
    Spells (first ++ second) (before ++ after) := by
  intro rest
  rw [List.append_assoc, left, right]
  simp [Function.comp_def]

theorem Spells.append_open {first second : List Char} {before after : List Token}
    (left : Spells first before) (right : SpellsOpen second after) :
    SpellsOpen (first ++ second) (before ++ after) := by
  intro rest behind
  rw [List.append_assoc, left, right rest behind]
  simp [Function.comp_def]

/-- A blank or a bracket behind a name ends it. -/
theorem SpellsOpen.close {first second : List Char} {before after : List Token} {c : Char}
    (left : SpellsOpen first before) (right : Spells (c :: second) after)
    (boundary : ∀ rest, Boundary (c :: rest)) :
    Spells (first ++ c :: second) (before ++ after) := by
  intro rest
  rw [List.append_assoc, left (c :: second ++ rest) (boundary _), right]
  simp [Function.comp_def]

theorem spells_nil : Spells [] [] := by
  intro rest
  simp

theorem spells_blank {c : Char} (blank : isBlank c) : Spells [c] [] := by
  intro rest
  rw [List.singleton_append, tokens, if_pos blank]
  simp

theorem spells_blanks {blanks : List Char} (blank : blanks.all isBlank) : Spells blanks [] := by
  induction blanks with
  | nil => exact spells_nil
  | cons c blanks ih =>
      rw [List.all_cons, Bool.and_eq_true] at blank
      exact (spells_blank blank.1).append (ih blank.2)

theorem spells_bracket {c : Char} {token : Token}
    (isBracket : Token.bracket? c = some token) : Spells [c] [token] := by
  intro rest
  have notBlank : isBlank c = false := by
    unfold Token.bracket? at isBracket
    split at isBracket <;> first | decide | contradiction
  have notQuote : c ≠ '"' := by
    rintro rfl
    simp [Token.bracket?] at isBracket
  rw [List.singleton_append, tokens, if_neg (by simp [notBlank]), if_neg notQuote, isBracket]
  simp

theorem spells_literal {raw : List Char}
    (ends : ∀ rest, literalBody (raw ++ '"' :: rest) = some (raw, rest)) :
    Spells ('"' :: raw ++ ['"']) [.literal raw] := by
  intro rest
  have notBlank : ¬ isBlank '"' := by decide
  have found := ends rest
  simp only [List.cons_append, List.append_assoc, List.nil_append]
  rw [tokens, if_neg notBlank, if_pos rfl]
  split
  · next missing =>
      rw [found] at missing
      contradiction
  · next body after same =>
      rw [found] at same
      cases same
      rfl

theorem spells_name {text : List Char} (nonempty : text ≠ [])
    (named : text.all isNameChar) : SpellsOpen text [.name text] := by
  intro rest behind
  cases text with
  | nil => contradiction
  | cons c text =>
      rw [List.all_cons, Bool.and_eq_true, List.all_eq_true] at named
      rcases named with ⟨first, others⟩
      simp only [isNameChar, Bool.and_eq_true, Bool.not_eq_true', bne_iff_ne, ne_eq,
        Option.isNone_iff_eq_none] at first
      rw [List.cons_append, tokens, if_neg (by simp [first.1.1]), if_neg first.1.2, first.2]
      simp only
      rw [behind.takeWhile_append, behind.dropWhile_append,
        List.takeWhile_eq_self_iff.mpr others, List.dropWhile_eq_nil_iff.mpr others]
      rfl

/-- Texts with blanks between them spell the tokens of each. -/
theorem spells_intercalate {c : Char} {separator : List Char}
    (blank : (c :: separator).all isBlank) {texts : List (List Char)}
    {written : List (List Token)} (each : List.Forall₂ SpellsOpen texts written) :
    SpellsOpen ((c :: separator).intercalate texts) written.flatten := by
  have firstBlank : isBlank c := List.all_eq_true.mp blank c List.mem_cons_self
  induction each with
  | nil => exact spells_nil.toOpen
  | @cons text first texts written spelled others ih =>
      cases others with
      | nil => simpa using spelled
      | cons next others =>
          have separated := spelled.close (spells_blanks blank)
            fun _ => boundary_of_blank firstBlank
          rw [List.append_nil] at separated
          rw [List.intercalate_cons_cons, List.flatten_cons]
          exact separated.append_open ih

theorem literalBody_append {s raw after : List Char}
    (found : literalBody s = some (raw, after)) (rest : List Char) :
    literalBody (s ++ rest) = some (raw, after ++ rest) := by
  fun_induction literalBody s generalizing raw after with
  | case1 => simp at found
  | case2 =>
      cases found
      rfl
  | case3 c s ih =>
      obtain ⟨⟨inner, behind⟩, innerFound, pairEq⟩ := Option.map_eq_some_iff.1 found
      cases pairEq
      simp [literalBody, ih innerFound]
  | case4 c s notQuote notEscape ih =>
      obtain ⟨⟨inner, behind⟩, innerFound, pairEq⟩ := Option.map_eq_some_iff.1 found
      cases pairEq
      cases s with
      | nil => simp [literalBody] at innerFound
      | cons d s =>
          have notBackslash : c ≠ '\\' := by
            rintro rfl
            exact notEscape d s rfl rfl
          rw [List.cons_append, literalBody.eq_4 c _ notQuote
            (fun _ _ same => absurd same notBackslash), ih innerFound]
          rfl

/-- What a whole text is read as does not change in front of another text,
unless a name goes on there. -/
theorem spellsOpen_of_tokens {chars : List Char} {written : List Token}
    (read : tokens chars = some written) : SpellsOpen chars written := by
  intro rest behind
  fun_induction tokens chars generalizing written with
  | case1 =>
      cases read
      simp
  | case2 c text blank ih =>
      rw [List.cons_append, tokens, if_pos blank, ih read]
  | case3 => cases read
  | case4 text raw after found _ notBlank ih =>
      obtain ⟨others, othersRead, rfl⟩ := Option.map_eq_some_iff.mp read
      have goesOn := literalBody_append found rest
      rw [List.cons_append, tokens, if_neg notBlank, if_pos rfl]
      split
      · next missing =>
          rw [goesOn] at missing
          contradiction
      · next raw' after' same =>
          rw [goesOn] at same
          cases same
          rw [ih othersRead]
          simp [Function.comp_def]
  | case5 c text notBlank notQuote bracket isBracket ih =>
      obtain ⟨others, othersRead, rfl⟩ := Option.map_eq_some_iff.mp read
      rw [List.cons_append, tokens, if_neg notBlank, if_neg notQuote, isBracket]
      simp only
      rw [ih othersRead]
      simp [Function.comp_def]
  | case6 c text notBlank notQuote notBracket ih =>
      obtain ⟨others, othersRead, rfl⟩ := Option.map_eq_some_iff.mp read
      rw [List.cons_append, tokens, if_neg notBlank, if_neg notQuote, notBracket]
      simp only
      rw [behind.takeWhile_append, behind.dropWhile_append, ih othersRead]
      simp [Function.comp_def]

/-- A text is read as trees exactly when it spells their tokens. -/
theorem readTrees_eq_some_iff {chars : List Char} {items : List Tree} :
    readTrees chars = some items ↔ SpellsOpen chars (Tree.tokensEach items) := by
  rw [readTrees, Option.bind_eq_some_iff]
  constructor
  · rintro ⟨written, read, built⟩
    rw [Tree.build_eq_some_iff] at built
    subst built
    exact spellsOpen_of_tokens read
  · intro spells
    have read := spells [] boundary_nil
    rw [List.append_nil, tokens] at read
    exact ⟨Tree.tokensEach items, by simpa using read, Tree.build_eq_some_iff.mpr rfl⟩

end BlockQuery.Datalog
