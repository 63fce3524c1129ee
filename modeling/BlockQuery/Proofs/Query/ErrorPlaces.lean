import BlockQuery.Proofs.Query.Reading

/-!
# Where reading stops

The reader of queries goes through an expression from left to right.  Whatever step
it takes, what it leaves is the end of what it was given, so it never gets past the
end of the expression; and an expression that it has read is not empty.  A step that
fails names a place inside of the expression, and what stands at that place is what
its cause says.
-/

namespace BlockQuery.Query

open BlockQuery.Text

/-! ## Causes and their places -/

/-- What the expression holds from the place of a refusal on is what the cause says. -/
def ParseCause.FitsAt : ParseCause → List Char → Prop
  | expected wanted found, here => here.head? = found ∧ found ≠ some wanted
  | expectedExpression found, here => found = String.ofList (here.take 10) ∧
      ¬ ['{'] <+: here ∧ ¬ ['[', '['] <+: here ∧ ¬ ['(', '('] <+: here
  | unknownOperator name, here => name = (operatorName here).1 ∧ Operator.ofName? name = none
  | noChildren _, here => here = [] ∨ ['}'] <+: here
  | unclosedTag, here => here = []
  | emptyTag, here => ∃ blanks rest, here = '[' :: '[' :: (blanks ++ ']' :: ']' :: rest) ∧
      Blanks blanks
  | unclosedBlockRef, here => ∃ inside, here = '(' :: '(' :: inside ∧ ¬ [')', ')'] <:+: inside
  | emptyBlockRef, here => ∃ blanks rest, here = '(' :: '(' :: (blanks ++ ')' :: ')' :: rest) ∧
      Blanks blanks
  | missingUser, here => ∃ blanks rest, here = blanks ++ rest ∧ Blanks blanks ∧
      (rest = [] ∨ ['}'] <+: rest)
  | unclosedText, here => ∃ inside, here = '"' :: inside ∧
      ∀ text rest value, inside = text ++ rest → ¬ QuotedRest text value
  | trailing rest, here => here ≠ [] ∧ rest = String.ofList here

/-- The stop is at a place of the text, and its cause fits there. -/
def Stop.IsIn (stop : Stop) (s : List Char) : Prop :=
  ∃ here, here <:+ s ∧ here.length = stop.left ∧ stop.cause.FitsAt here

theorem Stop.IsIn.mono {stop : Stop} {s t : List Char} (isIn : stop.IsIn s) (suffix : s <:+ t) :
    stop.IsIn t := by
  obtain ⟨here, inside, left, fits⟩ := isIn
  exact ⟨here, inside.trans suffix, left, fits⟩

/-- A result of reading a text: what it leaves is an end of the text, and so is what it stops
at. -/
structure StaysIn {α : Type} (rest : α → List Char) (s : List Char) (result : Except Stop α) :
    Prop where
  leaves : ∀ value, result = .ok value → rest value <:+ s
  stops : ∀ stop, result = .error stop → stop.IsIn s

section

variable {α β : Type} {rest : α → List Char} {restNext : β → List Char} {s t : List Char}

theorem staysIn_ok {value : α} (suffix : rest value <:+ s) : StaysIn rest s (.ok value) where
  leaves := by
    rintro _ ⟨⟩
    exact suffix
  stops := by
    rintro _ ⟨⟩

theorem staysIn_error {cause : ParseCause} {left : Nat} (here : List Char) (suffix : here <:+ s)
    (length : here.length = left) (fits : cause.FitsAt here) :
    StaysIn rest s (.error ⟨cause, left⟩) where
  leaves := by
    rintro _ ⟨⟩
  stops := by
    rintro _ ⟨⟩
    exact ⟨here, suffix, length, fits⟩

theorem StaysIn.mono {result : Except Stop α} (stays : StaysIn rest s result) (suffix : s <:+ t) :
    StaysIn rest t result where
  leaves value ok := (stays.leaves value ok).trans suffix
  stops stop failed := (stays.stops stop failed).mono suffix

/-- Reading goes on from what a first step leaves, but it may stop in front of that. -/
theorem StaysIn.bind {result : Except Stop α} {next : α → Except Stop β}
    (stays : StaysIn rest s result)
    (goesOn : ∀ value, result = .ok value → rest value <:+ s → StaysIn restNext s (next value)) :
    StaysIn restNext s (result >>= next) := by
  cases ended : result with
  | error stop =>
      refine ⟨?_, ?_⟩
      · rintro _ ⟨⟩
      · rintro _ ⟨⟩
        exact stays.stops stop ended
  | ok value => exact goesOn value ended (stays.leaves value ended)

theorem StaysIn.map {result : Except Stop α} (f : α → β) (stays : StaysIn rest s result)
    (less : ∀ value, restNext (f value) <:+ rest value) : StaysIn restNext s (result.map f) := by
  cases ended : result with
  | error stop =>
      refine ⟨?_, ?_⟩
      · rintro _ ⟨⟩
      · rintro _ ⟨⟩
        exact stays.stops stop ended
  | ok value => exact staysIn_ok ((less value).trans (stays.leaves value ended))

end

/-! ## Leaves -/

theorem trimLeft_suffix (s : List Char) : trimLeft s <:+ s :=
  List.dropWhile_suffix _

theorem blanks_of_trim_eq_nil {s : List Char} (empty : trim s = []) : Blanks s := by
  obtain ⟨before, after, beforeBlank, afterBlank, cut⟩ := exists_trim s
  rw [cut, empty, List.nil_append]
  exact blanks_append.mpr ⟨beforeBlank, afterBlank⟩

theorem staysIn_expect (wanted : Char) (s : List Char) :
    StaysIn Scanned.rest s (expect wanted s) := by
  cases s with
  | nil => exact staysIn_error [] (List.suffix_refl _) rfl ⟨rfl, by simp⟩
  | cons c s =>
      rw [expect]
      split
      · exact staysIn_ok (List.suffix_cons c s)
      · next differ =>
          refine staysIn_error (c :: s) (List.suffix_refl _) rfl ⟨rfl, ?_⟩
          simpa using differ

theorem rest_of_expect {wanted : Char} {s : List Char} {scanned : Scanned Unit s.length}
    (read : expect wanted s = .ok scanned) : s = wanted :: scanned.rest :=
  yields_expect.mp ⟨scanned.shorter, read⟩

/-- A reader of what stands behind two brackets, where `search` finds the closing brackets. -/
theorem staysIn_bracketed {bracket : Char} {s : List Char}
    (search : List Char → Option (List Char × List Char))
    (shorter : ∀ {t body after : List Char}, search t = some (body, after) →
      after.length < t.length) {unclosed empty : Stop}
    (suffix : ∀ {inside body after}, search inside = some (body, after) → after <:+ inside)
    (missing : ∀ inside, s = bracket :: bracket :: inside → search inside = none →
      unclosed.IsIn s)
    (blank : ∀ inside body after, s = bracket :: bracket :: inside →
      search inside = some (body, after) → trim body = [] → empty.IsIn s) :
    StaysIn Scanned.rest s (do
      let first ← expect bracket s
      let second ← expect bracket first.rest
      match found : search second.rest with
      | none => .error unclosed
      | some (body, rest) =>
        if (trim body).isEmpty then
          .error empty
        else
          .ok (⟨String.ofList (trim body), rest,
            Nat.lt_trans (shorter found) (Nat.lt_trans second.shorter first.shorter)⟩ :
              Scanned String s.length)) := by
  apply (staysIn_expect bracket s).bind
  intro first read inside
  apply ((staysIn_expect bracket first.rest).mono inside).bind
  intro second readSecond insideSecond
  have cut : s = bracket :: bracket :: second.rest := by
    rw [← rest_of_expect readSecond]
    exact rest_of_expect read
  split
  · next none =>
      refine ⟨?_, ?_⟩
      · rintro _ ⟨⟩
      · rintro _ ⟨⟩
        exact missing _ cut none
  · next body after found =>
      split
      · next empty =>
          refine ⟨?_, ?_⟩
          · rintro _ ⟨⟩
          · rintro _ ⟨⟩
            exact blank _ _ _ cut found (List.isEmpty_iff.mp empty)
      · exact staysIn_ok ((suffix found).trans insideSecond)

theorem staysIn_readTag (s : List Char) : StaysIn Scanned.rest s (readTag s) := by
  apply staysIn_bracketed (tagBody 0) tagBody_length
  · intro inside body after found
    rw [(tagBody_sound found).1]
    exact ⟨body ++ [']', ']'], by simp⟩
  · intro _ _ _
    exact ⟨[], List.nil_suffix, rfl, rfl⟩
  · intro inside body after cut found empty
    refine ⟨s, List.suffix_refl s, rfl, body, after, ?_, blanks_of_trim_eq_nil empty⟩
    rw [cut, (tagBody_sound found).1]

theorem not_infix_of_uidBody {s : List Char} (none : uidBody s = none) :
    ¬ [')', ')'] <:+: s := by
  fun_induction uidBody s with
  | case1 => simp
  | case2 => cases none
  | case3 c s notClosing ih =>
      rw [List.infix_cons_iff]
      rintro (⟨rest, starts⟩ | later)
      · injection starts with first others
        exact notClosing rest first.symm others.symm
      · exact ih (Option.map_eq_none_iff.mp none) later

theorem staysIn_readBlockRef (s : List Char) : StaysIn Scanned.rest s (readBlockRef s) := by
  apply staysIn_bracketed uidBody uidBody_length
  · intro inside body after found
    rw [(uidBody_sound found).1]
    exact ⟨body ++ [')', ')'], by simp⟩
  · intro inside cut none
    exact ⟨s, List.suffix_refl s, rfl, inside, cut, not_infix_of_uidBody none⟩
  · intro inside body after cut found empty
    refine ⟨s, List.suffix_refl s, rfl, body, after, ?_, blanks_of_trim_eq_nil empty⟩
    rw [cut, (uidBody_sound found).1]

theorem staysIn_readQuoted (s : List Char) : StaysIn Scanned.rest s (readQuoted s) := by
  rw [readQuoted]
  apply (staysIn_expect '"' s).bind
  intro opened read inside
  split
  · next none =>
      refine staysIn_error s (List.suffix_refl s) rfl ⟨opened.rest, rest_of_expect read, ?_⟩
      intro text rest value cut quoted
      rw [cut, quotedBody_complete quoted] at none
      cases none
  · next body after found =>
      obtain ⟨text, cut, -⟩ := quotedBody_sound found
      exact staysIn_ok ((List.suffix_append text after).trans (cut ▸ inside))

theorem plainText_suffix (s : List Char) : (plainText s).2 <:+ s :=
  List.dropWhile_suffix _

theorem staysIn_readSearchText (s : List Char) : StaysIn Scanned.rest s (readSearchText s) := by
  rw [readSearchText]
  split
  · exact (staysIn_readQuoted s).map _ fun _ => List.suffix_refl _
  · exact staysIn_ok (plainText_suffix s)

/-- A plain text ends in front of a closing brace or at the end. -/
theorem eq_nil_or_brace_dropWhile (s : List Char) :
    s.dropWhile (· != '}') = [] ∨ ['}'] <+: s.dropWhile (· != '}') := by
  have stops := List.head?_dropWhile_not (· != '}') s
  cases after : s.dropWhile (· != '}') with
  | nil => exact .inl rfl
  | cons c others =>
      rw [after] at stops
      have brace : c = '}' := by simpa using stops
      exact .inr ⟨others, by rw [brace]; rfl⟩

theorem staysIn_readUser (s : List Char) : StaysIn Scanned.rest s (readUser s) := by
  rw [readUser]
  split
  · exact (staysIn_readTag s).map _ fun _ => List.suffix_refl _
  · split
    · next empty =>
        refine staysIn_error s (List.suffix_refl s) rfl
          ⟨s.takeWhile (· != '}'), s.dropWhile (· != '}'), ?_, ?_, ?_⟩
        · exact List.takeWhile_append_dropWhile.symm
        · apply blanks_of_trim_eq_nil
          simpa [plainText] using empty
        · exact eq_nil_or_brace_dropWhile s
    · exact staysIn_ok (plainText_suffix s)

theorem operatorName_suffix (s : List Char) : (operatorName s).2 <:+ s := by
  unfold operatorName
  split
  · exact List.drop_suffix _ _
  · exact List.dropWhile_suffix _

theorem staysIn_readOperator (s : List Char) : StaysIn Scanned.rest s (readOperator s) := by
  rw [readOperator]
  have behind : trimLeft (operatorName (trimLeft s)).2 <:+ s :=
    (trimLeft_suffix _).trans ((operatorName_suffix _).trans (trimLeft_suffix s))
  apply ((staysIn_expect ':' _).mono behind).bind
  intro afterColon _ inside
  split
  · next unknown => exact staysIn_error (trimLeft s) (trimLeft_suffix s) rfl ⟨rfl, unknown⟩
  · exact staysIn_ok ((trimLeft_suffix _).trans inside)

theorem staysIn_readWindow (s : List Char) : StaysIn Scanned.rest s (readWindow s) := by
  rw [readWindow]
  apply (staysIn_readTag s).bind
  intro start _ inside
  apply ((staysIn_readTag _).mono ((trimLeft_suffix _).trans inside)).bind
  intro finish _ insideFinish
  exact staysIn_ok insideFinish

theorem staysIn_readClosing {bound : Nat} (query : Query) (s : List Char)
    (le : s.length ≤ bound) : StaysIn Scanned.rest s (readClosing query s le) := by
  rw [readClosing]
  apply ((staysIn_expect '}' _).mono (trimLeft_suffix s)).bind
  intro closed _ inside
  exact staysIn_ok inside

/-- What an operator holds, in front of the closing brace. -/
theorem StaysIn.closing {α : Type} {bound wider : Nat} {s t : List Char}
    {result : Except Stop (Scanned α bound)} {build : Scanned α bound → Query}
    {le : ∀ found : Scanned α bound, found.rest.length ≤ wider}
    (stays : StaysIn Scanned.rest t result) (inside : t <:+ s) :
    StaysIn Scanned.rest s
      (result >>= fun found => readClosing (build found) found.rest (le found)) := by
  apply (stays.mono inside).bind
  intro found _ insideFound
  exact (staysIn_readClosing _ _ _).mono insideFound

/-! ## Expressions -/

/-- The operands of a conjunction or disjunction, of which there has to be one. -/
theorem staysIn_children {bound wider : Nat} {operator : Operator} {build : List Query → Query}
    {s : List Char} {children : Scanned (List Query) bound}
    {le : children.rest.length ≤ wider} (inside : children.rest <:+ s)
    (none : children.value = [] → children.rest = [] ∨ ['}'] <+: children.rest) :
    StaysIn Scanned.rest s (if children.value.isEmpty then
        .error ⟨.noChildren operator, children.rest.length⟩
      else readClosing (build children.value) children.rest le) := by
  split
  · next empty => exact staysIn_error children.rest inside rfl (none (List.isEmpty_iff.mp empty))
  · exact (staysIn_readClosing _ _ _).mono inside

/-- There are no operands in front of a closing brace and at the end of the input only. -/
theorem eq_nil_or_brace_of_readChildren {s : List Char}
    {children : Scanned (List Query) (s.length + 1)} (read : readChildren s = .ok children)
    (none : children.value = []) : children.rest = [] ∨ ['}'] <+: children.rest := by
  rw [readChildren] at read
  split at read
  · cases read
    exact .inl rfl
  · next c rest start =>
      dsimp only at read
      split at read
      · next brace =>
          cases read
          subst brace
          exact .inr ⟨rest, rfl⟩
      · obtain ⟨child, -, read⟩ := bind_eq_ok_iff.mp read
        obtain ⟨others, -, read⟩ := bind_eq_ok_iff.mp read
        cases read
        cases none

theorem staysIn_readExpression_of_shorter {s : List Char}
    (expression : ∀ t : List Char, t.length < s.length → StaysIn Scanned.rest t (readExpression t))
    (children : ∀ t : List Char, t.length < s.length → StaysIn Scanned.rest t (readChildren t)) :
    StaysIn Scanned.rest s (readExpression s) := by
  rw [readExpression]
  split
  · next body start =>
      have inside : body <:+ s := (List.suffix_cons _ _).trans (start ▸ trimLeft_suffix s)
      apply ((staysIn_readOperator body).mono inside).bind
      intro operator _ insideOperator
      have shorter : operator.rest.length < s.length :=
        Nat.lt_trans operator.shorter (length_le_of_trimLeft_eq start)
      dsimp only
      split
      · apply ((children _ shorter).mono insideOperator).bind
        intro found read insideFound
        exact staysIn_children insideFound (eq_nil_or_brace_of_readChildren read)
      · apply ((children _ shorter).mono insideOperator).bind
        intro found read insideFound
        exact staysIn_children insideFound (eq_nil_or_brace_of_readChildren read)
      · exact (expression _ shorter).closing insideOperator
      · exact (staysIn_readWindow _).closing insideOperator
      · exact (staysIn_readSearchText _).closing insideOperator
      · exact (staysIn_readClosing _ _ _).mono insideOperator
      · exact (staysIn_readUser _).closing insideOperator
      · exact (staysIn_readUser _).closing insideOperator
      · exact (staysIn_readUser _).closing insideOperator
  · next noBrace =>
      dsimp only
      split
      · apply ((staysIn_readTag _).mono (trimLeft_suffix s)).bind
        intro title _ insideTitle
        exact staysIn_ok insideTitle
      · next noTag =>
          split
          · apply ((staysIn_readBlockRef _).mono (trimLeft_suffix s)).bind
            intro uid _ insideUid
            exact staysIn_ok insideUid
          · next noBlockRef =>
              refine staysIn_error (trimLeft s) (trimLeft_suffix s) rfl ⟨rfl, ?_, ?_, ?_⟩
              · rintro ⟨body, start⟩
                exact noBrace body start.symm
              · exact fun tag => noTag (List.isPrefixOf_iff_prefix.mpr tag)
              · exact fun blockRef => noBlockRef (List.isPrefixOf_iff_prefix.mpr blockRef)

theorem staysIn_readChildren_of_shorter {s : List Char}
    (expression : StaysIn Scanned.rest (trimLeft s) (readExpression (trimLeft s)))
    (others : ∀ t : List Char, t.length < s.length → StaysIn Scanned.rest t (readChildren t)) :
    StaysIn Scanned.rest s (readChildren s) := by
  rw [readChildren]
  split
  · exact staysIn_ok List.nil_suffix
  · next c rest start =>
      have inside : c :: rest <:+ s := start ▸ trimLeft_suffix s
      rw [start] at expression
      dsimp only
      split
      · exact staysIn_ok inside
      · apply (expression.mono inside).bind
        intro child _ insideChild
        have shorter : child.rest.length < s.length :=
          Nat.lt_of_lt_of_le child.shorter inside.length_le
        apply ((others _ shorter).mono insideChild).bind
        intro more _ insideMore
        exact staysIn_ok insideMore

theorem staysIn_readExpression_and_readChildren (n : Nat) :
    ∀ s : List Char, s.length < n →
      StaysIn Scanned.rest s (readExpression s) ∧ StaysIn Scanned.rest s (readChildren s) := by
  induction n with
  | zero => exact fun s short => absurd short (Nat.not_lt_zero _)
  | succ n ih =>
      intro s short
      have expression : ∀ t : List Char, t.length ≤ s.length →
          StaysIn Scanned.rest t (readExpression t) := by
        intro t le
        apply staysIn_readExpression_of_shorter
        · intro u lt
          exact (ih u (by omega)).1
        · intro u lt
          exact (ih u (by omega)).2
      refine ⟨expression s le_rfl, ?_⟩
      apply staysIn_readChildren_of_shorter (expression _ (length_trimLeft_le s))
      intro t lt
      exact (ih t (by omega)).2

theorem staysIn_readExpression (s : List Char) : StaysIn Scanned.rest s (readExpression s) :=
  (staysIn_readExpression_and_readChildren _ s (Nat.lt_succ_self _)).1

theorem staysIn_readChildren (s : List Char) : StaysIn Scanned.rest s (readChildren s) :=
  (staysIn_readExpression_and_readChildren _ s (Nat.lt_succ_self _)).2

theorem staysIn_readName (s : List Char) : StaysIn Prod.snd s (readName s) := by
  rw [readName]
  split
  · exact (staysIn_readQuoted s).map _ fun _ => trimLeft_suffix _
  · exact staysIn_ok (List.suffix_refl s)

/-- A whole expression is read, or reading stops inside of it. -/
theorem isIn_of_readNamed {s : List Char} {stop : Stop} (failed : readNamed s = .error stop) :
    stop.IsIn s := by
  have stays : StaysIn (fun _ => []) s (readNamed s) := by
    rw [readNamed]
    apply ((staysIn_readName _).mono (trimLeft_suffix s)).bind
    rintro ⟨name, afterName⟩ _ insideName
    apply ((staysIn_readExpression _).mono insideName).bind
    intro query _ insideQuery
    dsimp only
    split
    · exact staysIn_ok List.nil_suffix
    · next nonempty =>
        refine staysIn_error (trimLeft query.rest) ((trimLeft_suffix _).trans insideQuery) rfl
          ⟨?_, rfl⟩
        simpa using nonempty
  exact stays.stops stop failed

/-! ## Positions -/

/-- The steps that reading a query is made of. -/
inductive Step
  | blanks
  | plainText
  | operatorName
  | expect (wanted : Char)
  | tag
  | blockRef
  | quoted
  | searchText
  | user
  | operator
  | window
  | closing (query : Query)
  | children
  | expression
  | name

namespace Step

/-- What a step leaves of a text, or where it stops. -/
def read (step : Step) (s : List Char) : Except Stop (List Char) :=
  match step with
  | blanks => .ok (trimLeft s)
  | plainText => .ok (Query.plainText s).2
  | operatorName => .ok (Query.operatorName s).2
  | expect wanted => (Query.expect wanted s).map Scanned.rest
  | tag => (readTag s).map Scanned.rest
  | blockRef => (readBlockRef s).map Scanned.rest
  | quoted => (readQuoted s).map Scanned.rest
  | searchText => (readSearchText s).map Scanned.rest
  | user => (readUser s).map Scanned.rest
  | operator => (readOperator s).map Scanned.rest
  | window => (readWindow s).map Scanned.rest
  | closing query => (readClosing query s (Nat.le_refl _)).map Scanned.rest
  | children => (readChildren s).map Scanned.rest
  | expression => (readExpression s).map Scanned.rest
  | name => (readName s).map Prod.snd

theorem staysIn_read (step : Step) (s : List Char) : StaysIn id s (step.read s) := by
  have same : ∀ {α : Type} {rest : α → List Char} {result : Except Stop α},
      StaysIn rest s result → StaysIn id s (result.map rest) :=
    fun stays => stays.map _ fun _ => List.suffix_refl _
  cases step with
  | blanks => exact staysIn_ok (trimLeft_suffix s)
  | plainText => exact staysIn_ok (plainText_suffix s)
  | operatorName => exact staysIn_ok (operatorName_suffix s)
  | expect wanted => exact same (staysIn_expect wanted s)
  | tag => exact same (staysIn_readTag s)
  | blockRef => exact same (staysIn_readBlockRef s)
  | quoted => exact same (staysIn_readQuoted s)
  | searchText => exact same (staysIn_readSearchText s)
  | user => exact same (staysIn_readUser s)
  | operator => exact same (staysIn_readOperator s)
  | window => exact same (staysIn_readWindow s)
  | closing query => exact same (staysIn_readClosing query s _)
  | children => exact same (staysIn_readChildren s)
  | expression => exact same (staysIn_readExpression s)
  | name => exact same (staysIn_readName s)

/-- An expression that has been read is not empty. -/
theorem length_lt_of_read_expression {s rest : List Char} (ok : expression.read s = .ok rest) :
    rest.length < s.length := by
  obtain ⟨scanned, -, rfl⟩ := map_eq_ok_iff.mp ok
  exact scanned.shorter

end Step

/-- An end of what stands from a position on starts at a position behind it. -/
theorem exists_position_of_suffix {s rest : List Char} {position : Nat}
    (inside : position ≤ s.length) (suffix : rest <:+ s.drop position) :
    ∃ later, position ≤ later ∧ later ≤ s.length ∧ rest = s.drop later := by
  obtain ⟨read, cut⟩ := suffix
  have length : read.length + rest.length = s.length - position := by
    rw [← List.length_append, cut, List.length_drop]
  refine ⟨position + read.length, Nat.le_add_right _ _, by omega, ?_⟩
  rw [← List.drop_drop, ← cut, List.drop_left]

/-- A step from a position of an expression ends or stops at a position of it that is not in
front of the first one.  Behind an expression it is another one. -/
structure Step.StaysAt (step : Step) (s : List Char) (position : Nat) : Prop where
  leaves : ∀ rest, step.read (s.drop position) = .ok rest → ∃ later, position ≤ later ∧
    later ≤ s.length ∧ rest = s.drop later ∧ (step = .expression → position < later)
  stops : ∀ stop, step.read (s.drop position) = .error stop → ∃ place, position ≤ place ∧
    place ≤ s.length ∧ (stop.toError s.length).position = place ∧ stop.cause.FitsAt (s.drop place)

theorem Step.staysAt (step : Step) {s : List Char} {position : Nat}
    (inside : position ≤ s.length) : step.StaysAt s position where
  leaves rest ok := by
    obtain ⟨later, behind, before, cut⟩ :=
      exists_position_of_suffix inside ((step.staysIn_read _).leaves rest ok)
    refine ⟨later, behind, before, cut, ?_⟩
    rintro rfl
    have shorter := length_lt_of_read_expression ok
    rw [← id_eq rest, cut, List.length_drop, List.length_drop] at shorter
    omega
  stops stop failed := by
    obtain ⟨here, suffix, left, fits⟩ := (step.staysIn_read _).stops stop failed
    obtain ⟨place, behind, before, cut⟩ := exists_position_of_suffix inside suffix
    refine ⟨place, behind, before, ?_, cut ▸ fits⟩
    rw [Stop.toError, ← left, cut, List.length_drop]
    exact Nat.sub_sub_self before

/-- Parsing a text gives a query, or an error at a place of its expression, and what stands there
is what the error says. -/
theorem exists_place_of_parse {text : String} {error : ParseError}
    (failed : parse text = .error error) :
    ∃ before here, expressionText text.toList = before ++ here ∧
      error.position = before.length ∧ error.cause.FitsAt here := by
  obtain ⟨stop, stopped, rfl⟩ := mapError_eq_error_iff.mp failed
  obtain ⟨here, ⟨before, cut⟩, left, fits⟩ := isIn_of_readNamed stopped
  refine ⟨before, here, cut.symm, ?_, fits⟩
  rw [Stop.toError, ← left, ← cut, List.length_append, Nat.add_sub_cancel]

end BlockQuery.Query
