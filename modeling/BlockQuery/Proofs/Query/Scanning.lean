import BlockQuery.Proofs.Outcome
import BlockQuery.Proofs.Query.Grammar
import BlockQuery.Query.Scan

/-!
# Scanners read what the grammar describes

A scanner of a leaf succeeds exactly if the input starts with a text of that
leaf, and it leaves what follows this text.  So there is at most one such text.
-/

namespace BlockQuery.Query

open BlockQuery.Text

/-! ## Texts between double square brackets -/

/-- A character that starts no pair of brackets is a token of its own. -/
theorem marks_other {c : Char} {s : List Char} (notClosing : c = ']' → s.head? ≠ some ']')
    (notOpening : c = '[' → s.head? ≠ some '[') : marks (c :: s) = .other c :: marks s := by
  apply marks.eq_4
  · rintro rest isBracket rfl
    exact notClosing isBracket rfl
  · rintro rest isBracket rfl
    exact notOpening isBracket rfl

theorem tagBody_other {c : Char} {s : List Char} (notClosing : c = ']' → s.head? ≠ some ']')
    (notOpening : c = '[' → s.head? ≠ some '[') (depth : Nat) :
    tagBody depth (c :: s) = (tagBody depth s).map fun (body, after) => (c :: body, after) := by
  apply tagBody.eq_5
  · rintro rest isBracket rfl
    exact notOpening isBracket rfl
  · rintro rest _ isBracket rfl
    exact notClosing isBracket rfl
  · rintro _ rest _ isBracket rfl
    exact notClosing isBracket rfl

theorem marks_ne_nil {s : List Char} (nonempty : s ≠ []) : marks s ≠ [] := by
  fun_cases marks s <;> simp_all

/-- The first token of a text that ends with a closing token. -/
theorem tokens_eq_cons {mark : Mark} {s : List Char} {tokens : List Mark} (nonempty : s ≠ [])
    (closed : mark :: marks s = tokens ++ [.closing]) :
    ∃ rest, tokens = mark :: rest ∧ marks s = rest ++ [.closing] := by
  cases tokens with
  | nil =>
      injection closed with _ empty
      exact absurd empty (marks_ne_nil nonempty)
  | cons first rest =>
      injection closed with same closed
      exact ⟨rest, by rw [same], closed⟩

/-- The head of a text does not depend on what follows its closing brackets. -/
theorem head?_append_brackets (body rest : List Char) :
    (body ++ ']' :: ']' :: rest).head? = (body ++ [']', ']']).head? := by
  cases body <;> rfl

/-- What stands first in a text with something behind it. -/
theorem head?_append_cons_eq_some {s rest : List Char} {c d : Char}
    (first : (s ++ c :: rest).head? = some d) : s = [] ∧ c = d ∨ ∃ others, s = d :: others := by
  cases s with
  | nil =>
      injection first with first
      exact .inl ⟨rfl, first⟩
  | cons e s =>
      injection first with first
      exact .inr ⟨s, by rw [first]⟩

/-- A character that starts no pair of brackets starts none with the closing brackets
either: a single bracket at the end would take one of them. -/
theorem apart_of_closed {c : Char} {s : List Char} {tokens : List Mark}
    (notClosing : ∀ rest, c = ']' → s = ']' :: rest → False)
    (notOpening : ∀ rest, c = '[' → s = '[' :: rest → False)
    (closed : marks (c :: s ++ [']', ']']) = tokens ++ [.closing]) :
    (c = ']' → (s ++ [']', ']']).head? ≠ some ']') ∧
      (c = '[' → (s ++ [']', ']']).head? ≠ some '[') := by
  constructor
  · intro isBracket first
    rcases head?_append_cons_eq_some first with ⟨rfl, _⟩ | ⟨others, rfl⟩
    · have last := congrArg List.getLast? closed
      simp [marks, isBracket] at last
    · exact notClosing others isBracket rfl
  · intro isBracket first
    rcases head?_append_cons_eq_some first with ⟨rfl, differ⟩ | ⟨others, rfl⟩
    · cases differ
    · exact notOpening others isBracket rfl

theorem tagBody_sound {depth : Nat} {s body rest : List Char}
    (found : tagBody depth s = some (body, rest)) :
    s = body ++ ']' :: ']' :: rest ∧ ∃ tokens,
      marks (body ++ [']', ']']) = tokens ++ [.closing] ∧
        depthAfter? (depth + 1) tokens = some 1 := by
  fun_induction tagBody depth s generalizing body rest with
  | case1 => cases found
  | case2 s =>
      cases found
      exact ⟨rfl, [], rfl, rfl⟩
  | case3 depth s ih =>
      rcases Option.map_eq_some_iff.mp found with ⟨⟨inner, after⟩, innerFound, same⟩
      cases same
      rcases ih innerFound with ⟨rfl, tokens, closed, balanced⟩
      refine ⟨rfl, .closing :: tokens, ?_, balanced⟩
      rw [List.cons_append, List.cons_append, marks, closed, List.cons_append]
  | case4 depth s ih =>
      rcases Option.map_eq_some_iff.mp found with ⟨⟨inner, after⟩, innerFound, same⟩
      cases same
      rcases ih innerFound with ⟨rfl, tokens, closed, balanced⟩
      refine ⟨rfl, .opening :: tokens, ?_, balanced⟩
      rw [List.cons_append, List.cons_append, marks, closed, List.cons_append]
  | case5 depth c s notLast notClosing notOpening ih =>
      rcases Option.map_eq_some_iff.mp found with ⟨⟨inner, after⟩, innerFound, same⟩
      cases same
      rcases ih innerFound with ⟨rfl, tokens, closed, balanced⟩
      refine ⟨rfl, .other c :: tokens, ?_, balanced⟩
      rw [List.cons_append, marks_other, closed, List.cons_append]
      · intro isBracket first
        rw [← head?_append_brackets _ rest, List.head?_eq_some_iff] at first
        rcases first with ⟨others, split⟩
        cases depth with
        | zero => exact notLast others rfl isBracket split
        | succ depth => exact notClosing depth others rfl isBracket split
      · intro isBracket first
        rw [← head?_append_brackets _ rest, List.head?_eq_some_iff] at first
        rcases first with ⟨others, split⟩
        exact notOpening others isBracket split

theorem tagBody_complete {depth : Nat} {body : List Char} {tokens : List Mark}
    (closed : marks (body ++ [']', ']']) = tokens ++ [.closing])
    (balanced : depthAfter? (depth + 1) tokens = some 1) (rest : List Char) :
    tagBody depth (body ++ ']' :: ']' :: rest) = some (body, rest) := by
  fun_induction marks body generalizing depth tokens with
  | case1 =>
      have noTokens : tokens = [] := by
        cases tokens with
        | nil => rfl
        | cons first others => simp [marks] at closed
      rw [noTokens, depthAfter?] at balanced
      cases balanced
      rfl
  | case2 s ih =>
      rcases tokens_eq_cons (by simp) closed with ⟨others, rfl, restClosed⟩
      cases depth with
      | zero => simp [depthAfter?] at balanced
      | succ depth =>
          rw [List.cons_append, List.cons_append, tagBody, ih restClosed balanced]
          rfl
  | case3 s ih =>
      rcases tokens_eq_cons (by simp) closed with ⟨others, rfl, restClosed⟩
      rw [List.cons_append, List.cons_append, tagBody, ih restClosed balanced]
      rfl
  | case4 c s notClosing notOpening ih =>
      rcases apart_of_closed notClosing notOpening closed with ⟨apart, noPair⟩
      rw [List.cons_append, marks_other apart noPair] at closed
      rcases tokens_eq_cons (by simp) closed with ⟨others, rfl, restClosed⟩
      rw [← head?_append_brackets s rest] at apart noPair
      rw [List.cons_append, tagBody_other apart noPair, ih restClosed balanced]
      rfl

/-! ## Identifiers and quoted texts -/

theorem uidBody_sound {s body rest : List Char} (found : uidBody s = some (body, rest)) :
    s = body ++ ')' :: ')' :: rest ∧ ¬ [')', ')'] <:+: body ++ [')'] := by
  fun_induction uidBody s generalizing body with
  | case1 => cases found
  | case2 s =>
      cases found
      refine ⟨rfl, ?_⟩
      intro early
      have tooLong := early.length_le
      simp at tooLong
  | case3 c s notClosing ih =>
      rcases Option.map_eq_some_iff.mp found with ⟨⟨inner, after⟩, innerFound, same⟩
      cases same
      rcases ih innerFound with ⟨rfl, notEarly⟩
      refine ⟨rfl, ?_⟩
      rw [List.cons_append, List.infix_cons_iff]
      rintro (starts | early)
      · rw [List.cons_prefix_cons] at starts
        rcases starts with ⟨rfl, starts⟩
        cases inner with
        | nil => exact notClosing _ rfl rfl
        | cons d inner =>
            rw [List.cons_append, List.cons_prefix_cons] at starts
            rcases starts with ⟨rfl, _⟩
            exact notClosing _ rfl rfl
      · exact notEarly early

theorem uidBody_complete {body : List Char} (notEarly : ¬ [')', ')'] <:+: body ++ [')'])
    (rest : List Char) : uidBody (body ++ ')' :: ')' :: rest) = some (body, rest) := by
  induction body with
  | nil => rfl
  | cons c body ih =>
      rw [List.cons_append, List.infix_cons_iff, not_or] at notEarly
      rw [List.cons_append, uidBody.eq_3, ih notEarly.2]
      · rfl
      · rintro others rfl split
        apply notEarly.1
        rw [List.cons_prefix_cons]
        refine ⟨rfl, ?_⟩
        cases body with
        | nil => exact List.prefix_refl _
        | cons d body =>
            injection split with first
            exact ⟨body ++ [')'], by rw [first]; rfl⟩

theorem quotedBody_sound {s value rest : List Char}
    (found : quotedBody s = some (value, rest)) :
    ∃ text, s = text ++ rest ∧ QuotedRest text value := by
  fun_induction quotedBody s generalizing value with
  | case1 => cases found
  | case2 s =>
      cases found
      exact ⟨['"'], rfl, .close⟩
  | case3 s ih =>
      rcases Option.map_eq_some_iff.mp found with ⟨⟨inner, after⟩, innerFound, same⟩
      cases same
      rcases ih innerFound with ⟨text, rfl, quoted⟩
      exact ⟨'\\' :: '"' :: text, rfl, .quote quoted⟩
  | case4 c s notQuote notEscape ih =>
      rcases Option.map_eq_some_iff.mp found with ⟨⟨inner, after⟩, innerFound, same⟩
      cases same
      rcases ih innerFound with ⟨text, rfl, quoted⟩
      refine ⟨c :: text, rfl, .char notQuote ?_ quoted⟩
      intro isBackslash first
      rcases List.head?_eq_some_iff.mp first with ⟨others, rfl⟩
      exact notEscape _ isBackslash rfl

theorem quotedBody_complete {text value : List Char} (quoted : QuotedRest text value)
    (rest : List Char) : quotedBody (text ++ rest) = some (value, rest) := by
  induction quoted with
  | close => rfl
  | quote inner ih =>
      rw [List.cons_append, List.cons_append, quotedBody, ih]
      rfl
  | @char c text value notQuote notEscape inner ih =>
      rw [List.cons_append, quotedBody.eq_4 _ _ notQuote, ih]
      · rfl
      · intro others isBackslash split
        apply notEscape isBackslash
        cases text with
        | nil => cases inner
        | cons d text =>
            injection split with first
            rw [first]
            rfl

/-! ## Scanners of leaves -/

/-- The scan succeeds with the value and leaves the rest. -/
def Yields {α : Type} {bound : Nat} (result : Except Stop (Scanned α bound)) (value : α)
    (rest : List Char) : Prop :=
  ∃ shorter, result = .ok ⟨value, rest, shorter⟩

theorem yields_ok {α : Type} {bound : Nat} {scanned : Scanned α bound} {value : α}
    {rest : List Char} :
    Yields (.ok scanned) value rest ↔ scanned.value = value ∧ scanned.rest = rest := by
  constructor
  · rintro ⟨shorter, same⟩
    cases same
    exact ⟨rfl, rfl⟩
  · rintro ⟨rfl, rfl⟩
    exact ⟨scanned.shorter, rfl⟩

theorem not_yields_error {α : Type} {bound : Nat} {stop : Stop} {value : α} {rest : List Char} :
    ¬ Yields (.error stop : Except Stop (Scanned α bound)) value rest := by
  rintro ⟨_, same⟩
  cases same

/-- A scan that goes on from another scan. -/
theorem yields_bind {α β : Type} {bound wider : Nat} {result : Except Stop (Scanned α bound)}
    {next : Scanned α bound → Except Stop (Scanned β wider)} {value : β} {rest : List Char} :
    Yields (result >>= next) value rest ↔
      ∃ first after shorter, Yields result first after ∧
        Yields (next ⟨first, after, shorter⟩) value rest := by
  constructor
  · rintro ⟨shorter, same⟩
    rcases bind_eq_ok_iff.mp same with ⟨scanned, ok, same⟩
    exact ⟨scanned.value, scanned.rest, scanned.shorter, ⟨scanned.shorter, ok⟩, shorter, same⟩
  · rintro ⟨first, after, _, ⟨_, rfl⟩, yields⟩
    exact yields

theorem Yields.bind {α β : Type} {bound wider : Nat} {result : Except Stop (Scanned α bound)}
    {next : Scanned α bound → Except Stop (Scanned β wider)} {first : α} {after : List Char}
    {value : β} {rest : List Char} (yields : Yields result first after)
    (goesOn : ∀ shorter, Yields (next ⟨first, after, shorter⟩) value rest) :
    Yields (result >>= next) value rest := by
  rcases yields with ⟨shorter, rfl⟩
  exact goesOn shorter

/-- A scan that goes on as specified for what the first scan yields. -/
theorem yields_bind_iff {α β : Type} {bound wider : Nat} {read : Except Stop (Scanned α bound)}
    {next : Scanned α bound → Except Stop (Scanned β wider)} {value : β} {rest : List Char}
    {spec : α → List Char → Prop}
    (goesOn : ∀ first after shorter,
      Yields (next ⟨first, after, shorter⟩) value rest ↔ spec first after) :
    Yields (read >>= next) value rest ↔
      ∃ first after, Yields read first after ∧ spec first after := by
  rw [yields_bind]
  constructor
  · rintro ⟨first, after, shorter, yields, next⟩
    exact ⟨first, after, yields, (goesOn first after shorter).mp next⟩
  · rintro ⟨first, after, ⟨shorter, ok⟩, holds⟩
    exact ⟨first, after, shorter, ⟨shorter, ok⟩, (goesOn first after shorter).mpr holds⟩

theorem yields_expect {wanted : Char} {s rest : List Char} :
    Yields (expect wanted s) () rest ↔ s = wanted :: rest := by
  cases s with
  | nil => simp [expect, not_yields_error]
  | cons c s =>
      rw [expect]
      split
      · next same => simp [yields_ok, same]
      · next differ => simp [not_yields_error, differ]

/-- A reader of what stands behind two brackets, where `search` finds the closing
brackets. -/
theorem yields_bracketed {bracket : Char} {s rest : List Char} {value : String}
    (search : List Char → Option (List Char × List Char))
    (shorter : ∀ {t body after : List Char}, search t = some (body, after) →
      after.length < t.length) {unclosed empty : Stop} :
    Yields (do
        let first ← expect bracket s
        let second ← expect bracket first.rest
        match found : search second.rest with
        | none => .error unclosed
        | some (body, rest) =>
          if (trim body).isEmpty then
            .error empty
          else
            .ok ⟨String.ofList (trim body), rest,
              Nat.lt_trans (shorter found) (Nat.lt_trans second.shorter first.shorter)⟩)
        value rest ↔
      ∃ inside body, s = bracket :: bracket :: inside ∧ search inside = some (body, rest) ∧
        trim body ≠ [] ∧ String.ofList (trim body) = value := by
  constructor
  · intro yields
    rcases yields_bind.mp yields with ⟨_, _, _, opened, yields⟩
    cases yields_expect.mp opened
    rcases yields_bind.mp yields with ⟨_, inside, _, opened, yields⟩
    cases yields_expect.mp opened
    split at yields
    · exact absurd yields not_yields_error
    · next body after found =>
        split at yields
        · exact absurd yields not_yields_error
        · next solid =>
            rcases yields_ok.mp yields with ⟨same, rfl⟩
            exact ⟨inside, body, rfl, found, by simpa using solid, same⟩
  · rintro ⟨inside, body, rfl, found, solid, same⟩
    apply Yields.bind (yields_expect.mpr rfl)
    intro _
    apply Yields.bind (yields_expect.mpr rfl)
    intro _
    split
    · next missing => cases found.symm.trans missing
    · next other after again =>
        cases found.symm.trans again
        rw [if_neg (by simpa using solid), yields_ok]
        exact ⟨same, rfl⟩

theorem yields_readTag {s : List Char} {title : String} {rest : List Char} :
    Yields (readTag s) title rest ↔ ∃ text, s = text ++ rest ∧ TagText text title := by
  apply (yields_bracketed (tagBody 0) tagBody_length).trans
  constructor
  · rintro ⟨inside, body, rfl, found, solid, rfl⟩
    rcases tagBody_sound found with ⟨rfl, tokens, closed, balanced⟩
    exact ⟨_, by simp, .intro closed balanced solid⟩
  · rintro ⟨_, rfl, @⟨inside, tokens, closed, balanced, solid⟩⟩
    exact ⟨_, inside, by simp, tagBody_complete closed balanced rest, solid, rfl⟩

theorem yields_readBlockRef {s : List Char} {uid : String} {rest : List Char} :
    Yields (readBlockRef s) uid rest ↔ ∃ text, s = text ++ rest ∧ BlockRefText text uid := by
  apply (yields_bracketed uidBody uidBody_length).trans
  constructor
  · rintro ⟨inside, body, rfl, found, solid, rfl⟩
    rcases uidBody_sound found with ⟨rfl, notEarly⟩
    exact ⟨_, by simp, .intro notEarly solid⟩
  · rintro ⟨_, rfl, @⟨inside, notEarly, solid⟩⟩
    exact ⟨_, inside, by simp, uidBody_complete notEarly rest, solid, rfl⟩

theorem yields_readQuoted {s : List Char} {value : String} {rest : List Char} :
    Yields (readQuoted s) value rest ↔ ∃ text, s = text ++ rest ∧ QuotedText text value := by
  constructor
  · intro yields
    rw [readQuoted] at yields
    rcases yields_bind.mp yields with ⟨_, inside, _, opened, yields⟩
    cases yields_expect.mp opened
    split at yields
    · exact absurd yields not_yields_error
    · next body after found =>
        rcases yields_ok.mp yields with ⟨rfl, rfl⟩
        rcases quotedBody_sound found with ⟨text, cut, quoted⟩
        exact ⟨'"' :: text, by simpa using cut, .intro quoted⟩
  · rintro ⟨_, rfl, @⟨inside, value, quoted⟩⟩
    have found := quotedBody_complete quoted rest
    rw [List.cons_append, readQuoted]
    apply Yields.bind (yields_expect.mpr rfl)
    intro _
    split
    · next missing => cases found.symm.trans missing
    · next body after same =>
        cases found.symm.trans same
        rw [yields_ok]
        exact ⟨rfl, rfl⟩

/-! ## Texts up to a closing brace -/

theorem takeWhile_noBrace {run : List Char} (noBrace : '}' ∉ run) (rest : List Char) :
    (run ++ '}' :: rest).takeWhile (· != '}') = run ∧
      (run ++ '}' :: rest).dropWhile (· != '}') = '}' :: rest := by
  have others : ∀ c ∈ run, (c != '}') = true := by
    intro c inRun
    rw [bne_iff_ne]
    rintro rfl
    exact noBrace inRun
  constructor
  · rw [List.takeWhile_append_of_pos others]
    simp
  · rw [List.dropWhile_append_of_pos others]
    simp

theorem plainText_append {run : List Char} (noBrace : '}' ∉ run) (rest : List Char) :
    plainText (run ++ '}' :: rest) = (String.ofList (trim run), '}' :: rest) := by
  rcases takeWhile_noBrace noBrace rest with ⟨taken, dropped⟩
  rw [plainText, taken, dropped]

/-- A plain text that is followed by a closing brace. -/
theorem plainText_closed {s rest : List Char} (closed : trimLeft (plainText s).2 = '}' :: rest) :
    ∃ run, '}' ∉ run ∧ s = run ++ '}' :: rest ∧
      plainText s = (String.ofList (trim run), '}' :: rest) := by
  have run_noBrace : '}' ∉ s.takeWhile (· != '}') := by
    intro inRun
    have differs := List.all_eq_true.mp List.all_takeWhile _ inRun
    simp at differs
  have cut : s = s.takeWhile (· != '}') ++ (plainText s).2 :=
    List.takeWhile_append_dropWhile.symm
  have brace : (plainText s).2 = '}' :: rest := by
    have stops := List.head?_dropWhile_not (· != '}') s
    cases after : (plainText s).2 with
    | nil =>
        rw [after] at closed
        cases closed
    | cons c others =>
        have first : (s.dropWhile (· != '}')).head? = some c := by
          change (plainText s).2.head? = some c
          rw [after]
          rfl
        rw [first] at stops
        have isBrace : c = '}' := by simpa using stops
        have solid : SolidStart (c :: others) := by
          rw [isBrace]
          rintro d ⟨⟩
          rfl
        rw [after, solid.trimLeft_eq] at closed
        exact closed
  rw [brace] at cut
  refine ⟨_, run_noBrace, cut, ?_⟩
  rw [← brace]
  rfl

/-! ## Operands -/

/-- The text starts with a character that is not blank. -/
inductive Solid : List Char → Prop
  | intro {c : Char} {rest : List Char} (notBlank : isBlank c = false) : Solid (c :: rest)

theorem Solid.append {s : List Char} (solid : Solid s) (rest : List Char) :
    SolidStart (s ++ rest) := by
  rcases solid with ⟨notBlank⟩
  rintro c ⟨⟩
  exact notBlank

theorem Solid.ne_nil {s : List Char} (solid : Solid s) : s ≠ [] := by
  rcases solid with ⟨_⟩
  exact List.cons_ne_nil _ _

theorem TagText.solid {text : List Char} {title : String} (tag : TagText text title) :
    Solid text := by
  cases tag
  exact .intro rfl

theorem BlockRefText.solid {text : List Char} {uid : String} (blockRef : BlockRefText text uid) :
    Solid text := by
  cases blockRef
  exact .intro rfl

theorem QuotedText.solid {text : List Char} {value : String} (quoted : QuotedText text value) :
    Solid text := by
  cases quoted
  exact .intro rfl

/-- A piece of text with blanks around it, a closing brace and the rest. -/
inductive Closed (piece : List Char → Prop) : List Char → List Char → Prop
  | intro {start body finish rest : List Char} (startBlank : Blanks start) (inner : piece body)
      (finishBlank : Blanks finish) :
      Closed piece (start ++ (body ++ (finish ++ '}' :: rest))) rest

theorem Closed.mono {piece other : List Char → Prop} {u rest : List Char}
    (closed : Closed piece u rest) (also : ∀ text, piece text → other text) :
    Closed other u rest := by
  rcases closed with ⟨startBlank, inner, finishBlank⟩
  exact .intro startBlank (also _ inner) finishBlank

theorem closed_or_iff {piece first second : List Char → Prop} {u rest : List Char}
    (either : ∀ text, piece text ↔ first text ∨ second text) :
    Closed piece u rest ↔ Closed first u rest ∨ Closed second u rest := by
  constructor
  · rintro ⟨startBlank, inner, finishBlank⟩
    rcases (either _).mp inner with inner | inner
    · exact .inl (.intro startBlank inner finishBlank)
    · exact .inr (.intro startBlank inner finishBlank)
  · rintro (closed | closed)
    · exact closed.mono fun text inner => (either text).mpr (.inl inner)
    · exact closed.mono fun text inner => (either text).mpr (.inr inner)

theorem trimLeft_brace {blanks : List Char} (blank : Blanks blanks) (rest : List Char) :
    trimLeft (blanks ++ '}' :: rest) = '}' :: rest := by
  apply trimLeft_append_solid blank
  rintro c ⟨⟩
  rfl

/-- A solid piece is found behind the first blanks. -/
theorem closed_iff_of_solid {piece : List Char → Prop} (solid : ∀ text, piece text → Solid text)
    {u rest : List Char} :
    Closed piece u rest ↔
      ∃ text after, trimLeft u = text ++ after ∧ piece text ∧ trimLeft after = '}' :: rest := by
  constructor
  · rintro @⟨start, body, finish, rest, startBlank, inner, finishBlank⟩
    refine ⟨body, _, ?_, inner, trimLeft_brace finishBlank rest⟩
    exact trimLeft_append_solid startBlank ((solid body inner).append _)
  · rintro ⟨text, after, found, inner, closed⟩
    rcases exists_blanks_trimLeft u with ⟨start, startBlank, cut⟩
    rcases exists_blanks_trimLeft after with ⟨finish, finishBlank, afterCut⟩
    rw [cut, found, afterCut, closed]
    exact .intro startBlank inner finishBlank

/-- A text without a closing brace is found up to the first one. -/
theorem closed_plain_iff (property : List Char → Prop) {u rest : List Char} :
    Closed (fun run => '}' ∉ run ∧ property (trim run)) u rest ↔
      ∃ run, '}' ∉ run ∧ property (trim run) ∧ trimLeft u = run ++ '}' :: rest := by
  constructor
  · rintro @⟨start, body, finish, rest, startBlank, ⟨noBrace, holds⟩, finishBlank⟩
    refine ⟨trimLeft (body ++ finish), ?_, ?_, ?_⟩
    · intro inRun
      rcases List.mem_append.mp ((List.dropWhile_sublist _).subset inRun) with inBody | inFinish
      · exact noBrace inBody
      · have isBlankBrace := List.all_eq_true.mp finishBlank _ inFinish
        cases isBlankBrace
    · rw [trim_trimLeft, trim_append_blanks body finishBlank]
      exact holds
    · rw [trimLeft_append startBlank, ← List.append_assoc, trimLeft_append_cons rfl]
  · rintro ⟨run, noBrace, holds, found⟩
    rcases exists_blanks_trimLeft u with ⟨start, startBlank, cut⟩
    rw [cut, found]
    exact .intro startBlank ⟨noBrace, holds⟩ blanks_nil

theorem prefix_of_prefix_append_cons {marker s rest : List Char} {c : Char}
    (starts : marker <+: s ++ c :: rest) (other : c ∉ marker) : marker <+: s := by
  induction s generalizing marker with
  | nil =>
      cases marker with
      | nil => exact List.nil_prefix
      | cons d marker =>
          rw [List.nil_append, List.cons_prefix_cons] at starts
          exact absurd (by rw [starts.1]; exact List.mem_cons_self) other
  | cons d s ih =>
      cases marker with
      | nil => exact List.nil_prefix
      | cons e marker =>
          rw [List.cons_append, List.cons_prefix_cons] at starts
          rw [List.mem_cons, not_or] at other
          exact List.cons_prefix_cons.mpr ⟨starts.1, ih starts.2 other.2⟩

/-- Whether an operand starts with a marker can be seen in its trimmed text. -/
theorem prefix_iff_prefix_trim {marker u run rest : List Char} (noBrace : '}' ∉ marker)
    (noBlank : ∀ c ∈ marker, isBlank c = false) (operand : trimLeft u = run ++ '}' :: rest) :
    marker <+: trimLeft u ↔ marker <+: trim run := by
  have solid := solidStart_trimLeft u
  rw [operand] at solid ⊢
  have trimmed : trim run = trimRight run := by
    rw [trim, (solidStart_of_append solid).trimLeft_eq]
  rcases exists_trimRight_blanks run with ⟨blanks, blank, cut⟩
  rw [← trimmed] at cut
  constructor
  · intro starts
    rw [cut, List.append_assoc] at starts
    cases blanks with
    | nil => exact prefix_of_prefix_append_cons starts noBrace
    | cons c blanks =>
        apply prefix_of_prefix_append_cons starts
        intro inMarker
        have isBlankChar := List.all_eq_true.mp blank c List.mem_cons_self
        rw [noBlank c inMarker] at isBlankChar
        cases isBlankChar
  · intro starts
    rw [cut, List.append_assoc]
    exact starts.trans (List.prefix_append _ _)

theorem yields_map_widen {α : Type} {bound wider : Nat} {result : Except Stop (Scanned α bound)}
    {le : bound ≤ wider} {value : α} {rest : List Char} :
    Yields (result.map fun scanned => scanned.widen le) value rest ↔ Yields result value rest := by
  constructor
  · rintro ⟨shorter, same⟩
    rcases map_eq_ok_iff.mp same with ⟨scanned, ok, same⟩
    cases same
    exact ⟨scanned.shorter, ok⟩
  · rintro ⟨shorter, rfl⟩
    exact ⟨Nat.lt_of_lt_of_le shorter le, rfl⟩

theorem head?_eq_some_iff_starts {c : Char} {s : List Char} :
    s.head? = some c ↔ [c] <+: s := by
  rw [List.head?_eq_some_iff]
  constructor
  · rintro ⟨rest, rfl⟩
    exact List.prefix_append [c] rest
  · rintro ⟨rest, rfl⟩
    exact ⟨rest, rfl⟩

theorem searchText_iff {text : List Char} {value : String} :
    SearchText text value ↔ QuotedText text value ∨
      '}' ∉ text ∧ ¬ ['"'] <+: trim text ∧ String.ofList (trim text) = value := by
  constructor
  · rintro (quoted | ⟨noBrace, noQuote⟩)
    · exact .inl quoted
    · exact .inr ⟨noBrace, noQuote, rfl⟩
  · rintro (quoted | ⟨noBrace, noQuote, rfl⟩)
    · exact .quoted quoted
    · exact .plain noBrace noQuote

theorem yields_readSearchText {u rest : List Char} {value : String} :
    (∃ after, Yields (readSearchText (trimLeft u)) value after ∧ trimLeft after = '}' :: rest) ↔
      Closed (SearchText · value) u rest := by
  have starts : ∀ run, trimLeft u = run ++ '}' :: rest →
      ((trimLeft u).head? = some '"' ↔ ['"'] <+: trim run) := by
    intro run cut
    rw [head?_eq_some_iff_starts]
    exact prefix_iff_prefix_trim (by decide) (by simp [isBlank]) cut
  rw [closed_or_iff fun _ => searchText_iff, closed_iff_of_solid fun _ quoted => quoted.solid,
    closed_plain_iff fun run => ¬ ['"'] <+: run ∧ String.ofList run = value]
  constructor
  · rintro ⟨after, yields, closed⟩
    rw [readSearchText] at yields
    split at yields
    · rw [yields_map_widen, yields_readQuoted] at yields
      rcases yields with ⟨text, cut, quoted⟩
      exact .inl ⟨text, after, cut, quoted, closed⟩
    · next noQuote =>
        rcases yields_ok.mp yields with ⟨rfl, rfl⟩
        rcases plainText_closed closed with ⟨run, noBrace, cut, plain⟩
        rw [starts run cut] at noQuote
        exact .inr ⟨run, noBrace, ⟨noQuote, (congrArg Prod.fst plain).symm⟩, cut⟩
  · rintro (⟨text, after, cut, quoted, closed⟩ | ⟨run, noBrace, ⟨noQuote, rfl⟩, cut⟩)
    · refine ⟨after, ?_, closed⟩
      have first : (trimLeft u).head? = some '"' := by
        rw [cut]
        cases quoted
        rfl
      rw [readSearchText, if_pos first, yields_map_widen, yields_readQuoted]
      exact ⟨text, cut, quoted⟩
    · refine ⟨'}' :: rest, ?_, trimLeft_brace blanks_nil rest⟩
      have plain := plainText_append noBrace rest
      rw [← cut] at plain
      rw [← starts run cut] at noQuote
      rw [readSearchText, if_neg noQuote, yields_ok]
      exact ⟨congrArg Prod.fst plain, congrArg Prod.snd plain⟩

theorem userText_iff {text : List Char} {user : String} :
    UserText text user ↔ TagText text user ∨
      '}' ∉ text ∧ trim text ≠ [] ∧ ¬ ['[', '['] <+: trim text ∧
        String.ofList (trim text) = user := by
  constructor
  · rintro (tag | ⟨noBrace, solid, noTag⟩)
    · exact .inl tag
    · exact .inr ⟨noBrace, solid, noTag, rfl⟩
  · rintro (tag | ⟨noBrace, solid, noTag, rfl⟩)
    · exact .tag tag
    · exact .plain noBrace solid noTag

theorem yields_readUser {u rest : List Char} {user : String} :
    (∃ after, Yields (readUser (trimLeft u)) user after ∧ trimLeft after = '}' :: rest) ↔
      Closed (UserText · user) u rest := by
  have starts : ∀ run, trimLeft u = run ++ '}' :: rest →
      (['[', '['].isPrefixOf (trimLeft u) ↔ ['[', '['] <+: trim run) := by
    intro run cut
    exact List.isPrefixOf_iff_prefix.trans
      (prefix_iff_prefix_trim (by decide) (by simp [isBlank]) cut)
  rw [closed_or_iff fun _ => userText_iff, closed_iff_of_solid fun _ tag => tag.solid,
    closed_plain_iff fun run => run ≠ [] ∧ ¬ ['[', '['] <+: run ∧ String.ofList run = user]
  constructor
  · rintro ⟨after, yields, closed⟩
    rw [readUser] at yields
    split at yields
    · rw [yields_map_widen, yields_readTag] at yields
      rcases yields with ⟨text, cut, tag⟩
      exact .inl ⟨text, after, cut, tag, closed⟩
    · next noTag =>
        split at yields
        · exact absurd yields not_yields_error
        · next solid =>
            rcases yields_ok.mp yields with ⟨rfl, rfl⟩
            rcases plainText_closed closed with ⟨run, noBrace, cut, plain⟩
            rw [starts run cut] at noTag
            rw [plain] at solid
            refine .inr ⟨run, noBrace, ⟨?_, noTag, (congrArg Prod.fst plain).symm⟩, cut⟩
            simpa using solid
  · rintro (⟨text, after, cut, tag, closed⟩ | ⟨run, noBrace, ⟨solid, noTag, rfl⟩, cut⟩)
    · refine ⟨after, ?_, closed⟩
      have first : ['[', '['].isPrefixOf (trimLeft u) := by
        rw [cut]
        cases tag
        rfl
      rw [readUser, if_pos first, yields_map_widen, yields_readTag]
      exact ⟨text, cut, tag⟩
    · refine ⟨'}' :: rest, ?_, trimLeft_brace blanks_nil rest⟩
      have plain := plainText_append noBrace rest
      rw [← cut] at plain
      rw [← starts run cut] at noTag
      rw [readUser, if_neg noTag, if_neg, yields_ok]
      · exact ⟨congrArg Prod.fst plain, congrArg Prod.snd plain⟩
      · rw [plain]
        simpa using solid

end BlockQuery.Query
