import BlockQuery.Proofs.Calendar.FormatReading

/-!
# What the date formats are for

A date is written in a format piece by piece: names in any case, days and months
with or without a leading zero, a suffix behind the day if one likes.  The text is
cleaned before it is read: suffixes go and blanks collapse, and what is left is
still the date in the same format.  There the first reading of every piece is the
right one, so every format reads every date that is written in it.
-/

namespace BlockQuery.Calendar.Written

open BlockQuery.Text

/-! ## Suffixes and marks -/

section Suffixes

variable {a b c : Char}

theorem isApart_of_lower (letter : isLetter (lower c)) : isApart c = false := by
  by_cases same : c = kelvin
  · rw [same]
    decide
  · rw [lower_of_ne same] at letter
    exact isApart_of_isLetter (isLetter_of_toLower letter)

/-- The letters of the suffixes. -/
def suffixPairs : List (Char × Char) :=
  [('s', 't'), ('n', 'd'), ('r', 'd'), ('t', 'h')]

theorem isLetter_suffixPairs : suffixPairs.all fun pair => isLetter pair.1 && isLetter pair.2 := by
  decide

/-- Nothing between names and numbers is part of a suffix. -/
theorem isApart_of_isOrdinalSuffix (suffix : isOrdinalSuffix a b) :
    isApart a = false ∧ isApart b = false := by
  have both := List.all_eq_true.mp isLetter_suffixPairs _ (of_decide_eq_true suffix)
  rw [Bool.and_eq_true] at both
  refine ⟨?_, isApart_of_lower both.2⟩
  by_cases isLong : a.toNat = 0x17F
  · rw [← Char.ofNat_toNat a, isLong]
    decide
  · have first := both.1
    rw [if_neg isLong] at first
    exact isApart_of_lower first

theorem isOrdinalSuffix_of_apart (apart : isApart a ∨ isApart b) : isOrdinalSuffix a b = false := by
  by_contra suffix
  obtain ⟨first, second⟩ := isApart_of_isOrdinalSuffix (Bool.not_eq_false _ |>.mp suffix)
  rw [first, second] at apart
  simp at apart

theorem isDigit_of_isApart (apart : isApart c) : isDigit c = false := by
  by_contra digit
  rw [isApart_of_isDigit (Bool.not_eq_false _ |>.mp digit)] at apart
  cases apart

theorem isWordCharacter_of_isApart (apart : isApart c) : isWordCharacter c = false := by
  have noLetter : isLetter c = false := by
    by_contra letter
    rw [isApart_of_isLetter (Bool.not_eq_false _ |>.mp letter)] at apart
    cases apart
  have noLine : c ≠ '_' := by
    rintro rfl
    revert apart
    decide
  simp [isWordCharacter, noLetter, isDigit_of_isApart apart, noLine]

theorem startsOutsideWord_append_cons (apart : isApart c) (text rest : List Char) :
    startsOutsideWord (text ++ c :: rest) = startsOutsideWord text := by
  cases text with
  | nil => simp [startsOutsideWord, isWordCharacter_of_isApart apart]
  | cons d text => rfl

/-- A suffix is not looked for across a mark. -/
theorem dropOrdinals_append_cons (apart : isApart c) (text rest : List Char) :
    dropOrdinals (text ++ c :: rest) = dropOrdinals text ++ c :: dropOrdinals rest := by
  have alone : dropOrdinals (c :: rest) = c :: dropOrdinals rest :=
    dropOrdinals_cons (isDigit_of_isApart apart) rest
  fun_induction dropOrdinals text with
  | case1 d a b tail dropped ih =>
      rw [List.cons_append, List.cons_append, List.cons_append, dropOrdinals,
        startsOutsideWord_append_cons apart, if_pos dropped, ih, List.cons_append]
  | case2 d a b tail kept ih =>
      rw [List.cons_append, List.cons_append, List.cons_append, dropOrdinals,
        startsOutsideWord_append_cons apart, if_neg kept, ← List.cons_append, ← List.cons_append,
        ih, List.cons_append]
  | case3 short few =>
      -- the mark is one of the three characters that are looked at
      rcases short with _ | ⟨d, _ | ⟨a, _ | ⟨b, tail⟩⟩⟩
      · exact alone
      · cases rest with
        | nil => rfl
        | cons e rest => simp [dropOrdinals, isOrdinalSuffix_of_apart (.inl apart), ← alone]
      · have skipped : dropOrdinals (a :: c :: rest) = a :: dropOrdinals (c :: rest) := by
          cases rest with
          | nil => rfl
          | cons e rest => simp [dropOrdinals, isOrdinalSuffix_of_apart (.inl apart)]
        simp [dropOrdinals, isOrdinalSuffix_of_apart (.inr apart), skipped, alone]
      · exact absurd rfl (few d a b tail)

theorem dropOrdinals_append_marks {marks : List Char} (nonempty : marks ≠ [])
    (apart : ∀ c ∈ marks, isApart c) (text rest : List Char) :
    dropOrdinals (text ++ (marks ++ rest)) = dropOrdinals text ++ (marks ++ dropOrdinals rest) := by
  obtain ⟨c, marks, rfl⟩ := List.exists_cons_of_ne_nil nonempty
  rw [List.forall_mem_cons] at apart
  rw [List.cons_append, dropOrdinals_append_cons apart.1,
    dropOrdinals_append fun d inMarks => isDigit_of_isApart (apart.2 d inMarks)]
  rfl

/-- Two letters are an ordinal suffix, in any case. -/
def IsSuffix (letters : List Char) : Prop :=
  letters.map Char.toLower ∈ Datalog.Pattern.suffixes

instance (letters : List Char) : Decidable (IsSuffix letters) :=
  inferInstanceAs (Decidable (_ ∈ _))

theorem isOrdinalSuffix_of_toLower
    (listed : (a.toLower, b.toLower) ∈ suffixPairs) :
    isOrdinalSuffix a b := by
  have both := List.all_eq_true.mp isLetter_suffixPairs _ listed
  rw [Bool.and_eq_true] at both
  have same {c : Char} (letter : isLetter c.toLower) : lower c = c.toLower := by
    apply lower_of_ne
    rintro rfl
    revert letter
    decide
  have range := isLetter_iff.mp (isLetter_of_toLower both.1)
  have notLong : a.toNat ≠ 0x17F := by omega
  rw [isOrdinalSuffix, if_neg notLong, same both.1, same both.2]
  exact decide_eq_true listed

theorem IsSuffix.exists_letters {letters : List Char} (suffix : IsSuffix letters) :
    ∃ a b, letters = [a, b] ∧ isOrdinalSuffix a b := by
  have pairs : Datalog.Pattern.suffixes = suffixPairs.map fun pair => [pair.1, pair.2] := rfl
  rw [IsSuffix, pairs, List.mem_map] at suffix
  obtain ⟨⟨first, second⟩, listed, same⟩ := suffix
  obtain ⟨a, b, rfl⟩ := List.length_eq_two.mp (by simpa using (congrArg List.length same).symm)
  rw [List.map_cons, List.map_cons, List.map_nil, List.cons.injEq, List.cons.injEq] at same
  refine ⟨a, b, rfl, isOrdinalSuffix_of_toLower ?_⟩
  rw [← same.1, ← same.2.1]
  exact listed

end Suffixes

/-! ## Spellings -/

/-- The digits of a number, with or without a leading zero. -/
def IsNumeral (n : Nat) (part : List Char) : Prop :=
  part = Nat.toDigits 10 n ∨ part = (Nat.toDigits 10 n).leftpad 2 '0'

/-- How a piece is written for a date. -/
def Piece.Spells (date : Date) (part : List Char) : Piece → Prop
  | monthName => IsName Calendar.monthName date.month part
  | shortMonthName => IsName Calendar.shortMonthName date.month part
  | month => IsNumeral date.month part
  | day => IsNumeral date.day part
  | year => part = (Nat.toDigits 10 date.year).leftpad 4 '0'
  | blanks => part ≠ [] ∧ Blanks part
  | char c => part = [c]

/-- How a piece is written when a suffix may stand behind the day. -/
def Piece.SpellsOrdinal (date : Date) (part : List Char) (piece : Piece) : Prop :=
  piece.Spells date part ∨
    piece = .day ∧ ∃ digits suffix, part = digits ++ suffix ∧ IsNumeral date.day digits ∧
      IsSuffix suffix

/-- A text is a list of pieces, each written in its way. -/
inductive Renders (spells : List Char → Piece → Prop) : List Piece → List Char → Prop
  | nil : Renders spells [] []
  | cons {piece : Piece} {pieces : List Piece} {part rest : List Char} :
      spells part piece → Renders spells pieces rest →
      Renders spells (piece :: pieces) (part ++ rest)

section Spellings

variable {date : Date} {piece : Piece} {part : List Char}

theorem IsNumeral.isDigit_of_mem {n : Nat} (number : IsNumeral n part) : ∀ c ∈ part, c.isDigit := by
  rcases number with rfl | rfl
  · exact fun _ => isDigit_of_mem_digits
  · exact fun _ => isDigit_of_mem_leftpad

theorem IsNumeral.ne_nil {n : Nat} (number : IsNumeral n part) : part ≠ [] := by
  rcases number with rfl | rfl
  · exact Nat.toDigits_ne_nil
  · exact List.append_ne_nil_of_right_ne_nil _ Nat.toDigits_ne_nil

/-- A name or a number is written in letters or in digits. -/
theorem Piece.Spells.letters_or_digits (spelled : piece.Spells date part) (solid : piece.isSolid) :
    part ≠ [] ∧ ((∀ c ∈ part, isLetter c) ∨ ∀ c ∈ part, c.isDigit) := by
  cases piece with
  | monthName =>
      have named : Names date.month part := names_of_isName (.inl rfl) date.month_range spelled
      exact ⟨named.ne_nil, .inl named.isLetter_of_mem⟩
  | shortMonthName =>
      have named : Names date.month part := names_of_isName (.inr rfl) date.month_range spelled
      exact ⟨named.ne_nil, .inl named.isLetter_of_mem⟩
  | month | day => exact ⟨IsNumeral.ne_nil spelled, .inr (IsNumeral.isDigit_of_mem spelled)⟩
  | year =>
      obtain rfl : part = _ := spelled
      exact ⟨List.append_ne_nil_of_right_ne_nil _ Nat.toDigits_ne_nil,
        .inr fun _ => isDigit_of_mem_leftpad⟩
  | blanks | char => cases solid

theorem Piece.Spells.isWord (spelled : piece.Spells date part) (solid : piece.isSolid) :
    IsWord part := by
  obtain ⟨nonempty, letters | digits⟩ := spelled.letters_or_digits solid
  · exact ⟨nonempty, fun c inside => isBlank_of_isLetter (letters c inside)⟩
  · exact ⟨nonempty, fun c inside => isBlank_of_isDigit (digits c inside)⟩

/-- Only a suffix is dropped from a name or a number. -/
theorem Piece.SpellsOrdinal.spells_dropOrdinals (spelled : piece.SpellsOrdinal date part)
    (solid : piece.isSolid) : piece.Spells date (dropOrdinals part) := by
  rcases spelled with plain | ⟨rfl, digits, suffix, rfl, number, letters⟩
  · have unchanged : dropOrdinals part = part := by
      obtain ⟨-, letters | digits⟩ := plain.letters_or_digits solid
      · have kept := dropOrdinals_append (fun c inside => isDigit_of_isLetter (letters c inside)) []
        simpa [dropOrdinals] using kept
      · exact dropOrdinals_digits digits
    rwa [unchanged]
  · obtain ⟨a, b, rfl, isSuffix⟩ := letters.exists_letters
    rw [dropOrdinals_numbered number.isDigit_of_mem number.ne_nil isSuffix rfl]
    simpa [dropOrdinals, Piece.Spells] using number

end Spellings

/-! ## Formats piece by piece -/

/-- What stands between two names or numbers of a format. -/
def joints : List (List Piece) :=
  [[.blanks], [.char ',', .blanks], [.char '/']]

/-- A format is names and numbers with something between them. -/
inductive IsLaid : List Piece → Prop
  | last {piece : Piece} : piece.isSolid → IsLaid [piece]
  | join {piece : Piece} {joint pieces : List Piece} :
      piece.isSolid → joint ∈ joints → IsLaid pieces → IsLaid (piece :: (joint ++ pieces))

theorem isLaid_formats {format : List Piece} (listed : format ∈ formats) : IsLaid format := by
  have three {first second third : Piece} {joint other : List Piece} (solid : first.isSolid)
      (listed : joint ∈ joints) (nextSolid : second.isSolid) (otherListed : other ∈ joints)
      (lastSolid : third.isSolid) : IsLaid (first :: (joint ++ second :: (other ++ [third]))) :=
    .join solid listed (.join nextSolid otherListed (.last lastSolid))
  have spaced : [.blanks] ∈ joints := by decide
  have comma : [.char ',', .blanks] ∈ joints := by decide
  have slash : [.char '/'] ∈ joints := by decide
  simp only [formats, List.mem_cons, List.not_mem_nil, or_false] at listed
  rcases listed with rfl | rfl | rfl | rfl | rfl | rfl | rfl | rfl
  · exact three rfl spaced rfl comma rfl
  · exact three rfl spaced rfl comma rfl
  · exact three rfl spaced rfl spaced rfl
  · exact three rfl spaced rfl spaced rfl
  · exact three rfl spaced rfl spaced rfl
  · exact three rfl spaced rfl spaced rfl
  · exact three rfl slash rfl slash rfl
  · exact three rfl slash rfl slash rfl

section Rendered

variable {spells : List Char → Piece → Prop} {date : Date} {piece : Piece}
  {pieces others joint : List Piece} {text between : List Char}

theorem renders_cons_iff :
    Renders spells (piece :: pieces) text ↔
      ∃ part rest, text = part ++ rest ∧ spells part piece ∧ Renders spells pieces rest := by
  constructor
  · rintro (_ | ⟨spelled, rendered⟩)
    exact ⟨_, _, rfl, spelled, rendered⟩
  · rintro ⟨part, rest, rfl, spelled, rendered⟩
    exact .cons spelled rendered

theorem renders_nil_iff : Renders spells [] text ↔ text = [] := by
  constructor
  · rintro ⟨⟩
    rfl
  · rintro rfl
    exact .nil

theorem renders_singleton_iff : Renders spells [piece] text ↔ spells text piece := by
  simp [renders_cons_iff, renders_nil_iff]

theorem renders_append_iff :
    Renders spells (pieces ++ others) text ↔
      ∃ first second, text = first ++ second ∧ Renders spells pieces first ∧
        Renders spells others second := by
  induction pieces generalizing text with
  | nil => simp [renders_nil_iff]
  | cons piece pieces ih =>
      constructor
      · intro rendered
        obtain ⟨part, rest, rfl, spelled, later⟩ := renders_cons_iff.mp rendered
        obtain ⟨first, second, rfl, front, behind⟩ := ih.mp later
        exact ⟨part ++ first, second, by simp, .cons spelled front, behind⟩
      · rintro ⟨first, second, rfl, front, behind⟩
        obtain ⟨part, rest, rfl, spelled, later⟩ := renders_cons_iff.mp front
        rw [List.append_assoc]
        exact .cons spelled (ih.mpr ⟨rest, second, rfl, later, behind⟩)

theorem Renders.mono {spells' : List Char → Piece → Prop} (rendered : Renders spells pieces text)
    (each : ∀ piece ∈ pieces, ∀ part, spells part piece → spells' part piece) :
    Renders spells' pieces text := by
  induction rendered with
  | nil => exact .nil
  | cons spelled _ ih =>
      rw [List.forall_mem_cons] at each
      exact .cons (each.1 _ spelled) (ih each.2)

theorem exists_solid_of_isLaid (laid : IsLaid pieces)
    (rendered : Renders (Piece.Spells date) pieces text) :
    ∃ c tail, text = c :: tail ∧ isBlank c = false := by
  have first {piece : Piece} {later : List Piece} (solid : piece.isSolid)
      (rendered : Renders (Piece.Spells date) (piece :: later) text) :
      ∃ c tail, text = c :: tail ∧ isBlank c = false := by
    obtain ⟨part, rest, rfl, spelled, -⟩ := renders_cons_iff.mp rendered
    have isWord := spelled.isWord solid
    obtain ⟨c, tail, rfl⟩ := List.exists_cons_of_ne_nil isWord.nonempty
    exact ⟨c, tail ++ rest, rfl, isWord.solid c List.mem_cons_self⟩
  cases laid with
  | last solid => exact first solid rendered
  | join solid _ _ => exact first solid rendered

/-- Between two names or numbers stand blanks, a comma and blanks, or a slash. -/
theorem renders_joint_cases (listed : joint ∈ joints)
    (rendered : Renders (Piece.Spells date) joint between) :
    (∃ run, run ≠ [] ∧ Blanks run ∧
      (joint = [.blanks] ∧ between = run ∨ joint = [.char ',', .blanks] ∧ between = ',' :: run)) ∨
    joint = [.char '/'] ∧ between = ['/'] := by
  simp only [joints, List.mem_cons, List.not_mem_nil, or_false] at listed
  rcases listed with rfl | rfl | rfl
  · obtain ⟨nonempty, blank⟩ := renders_singleton_iff.mp rendered
    exact .inl ⟨between, nonempty, blank, .inl ⟨rfl, rfl⟩⟩
  · obtain ⟨part, run, rfl, rfl, later⟩ := renders_cons_iff.mp rendered
    obtain ⟨nonempty, blank⟩ := renders_singleton_iff.mp later
    exact .inl ⟨run, nonempty, blank, .inr ⟨rfl, rfl⟩⟩
  · exact .inr ⟨rfl, renders_singleton_iff.mp rendered⟩

theorem marks_of_joint (listed : joint ∈ joints)
    (rendered : Renders (Piece.Spells date) joint between) :
    between ≠ [] ∧ ∀ c ∈ between, isApart c := by
  have apart {run : List Char} (blank : Blanks run) : ∀ c ∈ run, isApart c := fun c inRun =>
    isApart_iff.mpr (.inl (List.all_eq_true.mp blank c inRun))
  rcases renders_joint_cases listed rendered with
    ⟨run, nonempty, blank, ⟨-, rfl⟩ | ⟨-, rfl⟩⟩ | ⟨-, rfl⟩
  · exact ⟨nonempty, apart blank⟩
  · exact ⟨List.cons_ne_nil ',' run, List.forall_mem_cons.mpr ⟨rfl, apart blank⟩⟩
  · exact ⟨List.cons_ne_nil '/' [], by simp [isApart]⟩

theorem spells_of_joint (listed : joint ∈ joints)
    (rendered : Renders (Piece.SpellsOrdinal date) joint between) :
    Renders (Piece.Spells date) joint between := by
  have noDay : joints.all fun joint => joint.all (· != .day) := by decide
  apply rendered.mono
  intro piece inJoint part spelled
  have other := List.all_eq_true.mp (List.all_eq_true.mp noDay joint listed) piece inJoint
  rcases spelled with plain | ⟨rfl, -⟩
  · exact plain
  · cases other

/-- Dropping the suffixes leaves the date in its format. -/
theorem Renders.dropOrdinals (rendered : Renders (Piece.SpellsOrdinal date) pieces text)
    (laid : IsLaid pieces) : Renders (Piece.Spells date) pieces (dropOrdinals text) := by
  induction laid generalizing text with
  | last solid =>
      rw [renders_singleton_iff] at rendered ⊢
      exact rendered.spells_dropOrdinals solid
  | join solid listed _ ih =>
      obtain ⟨part, rest, rfl, spelled, later⟩ := renders_cons_iff.mp rendered
      obtain ⟨between, behind, rfl, joined, others⟩ := renders_append_iff.mp later
      have plain := spells_of_joint listed joined
      obtain ⟨nonempty, apart⟩ := marks_of_joint listed plain
      rw [dropOrdinals_append_marks nonempty apart]
      exact .cons (spelled.spells_dropOrdinals solid)
        (renders_append_iff.mpr ⟨between, _, rfl, plain, ih others⟩)

/-- Behind a name or a number only the blanks collapse. -/
theorem collapse_joint (listed : joint ∈ joints)
    (rendered : Renders (Piece.Spells date) joint between) {word : List Char} (isWord : IsWord word)
    {c : Char} (solid : isBlank c = false) (tail : List Char) :
    ∃ next, Renders (Piece.Spells date) joint next ∧
      collapse (word ++ (between ++ c :: tail)) = word ++ (next ++ collapse (c :: tail)) := by
  have space : Piece.Spells date [' '] .blanks := ⟨List.cons_ne_nil ' ' [], blanks_space⟩
  have marked (mark : Char) (solidMark : isBlank mark = false) : IsWord (word ++ [mark]) :=
    isWord.append (by simpa using solidMark)
  rcases renders_joint_cases listed rendered with
    ⟨run, nonempty, blank, ⟨rfl, rfl⟩ | ⟨rfl, rfl⟩⟩ | ⟨rfl, rfl⟩
  · refine ⟨[' '], renders_singleton_iff.mpr space, ?_⟩
    exact collapse_append_blanks isWord solid tail nonempty (List.all_eq_true.mp blank)
  · refine ⟨[','] ++ [' '], .cons rfl (renders_singleton_iff.mpr space), ?_⟩
    have collapsed := collapse_append_blanks (marked ',' rfl) solid tail nonempty
      (List.all_eq_true.mp blank)
    simpa using collapsed
  · refine ⟨['/'], rendered, ?_⟩
    have collapsed := collapse_append_solid (marked '/' rfl) solid tail
    simpa using collapsed

/-- Collapsing the blanks leaves the date in its format. -/
theorem Renders.collapse (rendered : Renders (Piece.Spells date) pieces text)
    (laid : IsLaid pieces) : Renders (Piece.Spells date) pieces (collapse text) := by
  induction laid generalizing text with
  | last solid =>
      rw [renders_singleton_iff] at rendered ⊢
      have isWord := rendered.isWord solid
      rw [Text.collapse, isWord.words_eq, List.intercalate_singleton]
      exact rendered
  | join solid listed laid ih =>
      obtain ⟨part, rest, rfl, spelled, later⟩ := renders_cons_iff.mp rendered
      obtain ⟨between, behind, rfl, joined, others⟩ := renders_append_iff.mp later
      obtain ⟨c, tail, rfl, solidStart⟩ := exists_solid_of_isLaid laid others
      obtain ⟨next, joinedNext, collapsed⟩ :=
        collapse_joint listed joined (spelled.isWord solid) solidStart tail
      rw [collapsed]
      exact .cons spelled (renders_append_iff.mpr ⟨next, _, rfl, joinedNext, ih others⟩)

end Rendered

/-! ## First readings -/

section Readings

variable {rest : List Char}

/-- A digit in front of a mark is not the first of two digits. -/
theorem formed_two_of_apart {first second : Char → Bool} (digit : TestsDigit second)
    (ends : ∀ c ∈ rest.head?, isApart c) (d : Char) :
    formed [first, second] (d :: rest) = none := by
  cases rest with
  | nil => rfl
  | cons c rest =>
      have noDigit := isDigit_of_isApart (ends c rfl)
      have failed : second c = false := by
        by_contra passed
        rw [digit c (Bool.not_eq_false _ |>.mp passed)] at noDigit
        cases noDigit
      simp [formed, failed]

theorem formed_single {test : Char → Bool} {d : Char} (passed : test d) :
    formed [test] (d :: rest) = some (decimal [d], rest) :=
  formed_eq_some_iff.mpr ⟨[d], rfl, rfl, .cons passed .nil⟩

theorem exists_dayReadings_numeral {day : Nat} (least : 1 ≤ day) (most : day ≤ 31)
    {part : List Char} (number : IsNumeral day part) (ends : ∀ c ∈ rest.head?, isApart c) :
    ∃ others, dayReadings (part ++ rest) = (day, rest) :: others := by
  have single (d : Char) (digit : isDigitIn '1' '9' d) :
      ∃ others, dayReadings (d :: rest) = (decimal [d], rest) :: others := by
    rw [dayReadings, formed_two_of_apart (testsDigit_isDigitIn (by decide) (by decide)) ends,
      formed_two_of_apart testsDigit_isDigit ends,
      formed_two_of_apart (testsDigit_isDigitIn (by decide) (by decide)) ends,
      formed_single digit]
    exact ⟨_, rfl⟩
  rcases number with rfl | rfl
  · interval_cases day <;> first | exact ⟨_, rfl⟩ | exact single _ rfl
  · interval_cases day <;> exact ⟨_, rfl⟩

theorem exists_monthReadings_numeral {month : Nat} (range : 1 ≤ month ∧ month ≤ 12)
    {part : List Char} (number : IsNumeral month part) (ends : ∀ c ∈ rest.head?, isApart c) :
    ∃ others, monthReadings (part ++ rest) = (month, rest) :: others := by
  have single (d : Char) (digit : isDigitIn '1' '9' d) :
      ∃ others, monthReadings (d :: rest) = (decimal [d], rest) :: others := by
    rw [monthReadings, formed_two_of_apart (testsDigit_isDigitIn (by decide) (by decide)) ends,
      formed_two_of_apart (testsDigit_isDigitIn (by decide) (by decide)) ends,
      formed_single digit]
    exact ⟨_, rfl⟩
  obtain ⟨least, most⟩ := range
  rcases number with rfl | rfl
  · interval_cases month <;> first | exact ⟨_, rfl⟩ | exact single _ rfl
  · interval_cases month <;> exact ⟨_, rfl⟩

/-- No name of a month starts the name of another one. -/
def isPrefixFree (nameOf : Nat → String) : Bool :=
  (List.range' 1 12).all fun month => (List.range' 1 12).all fun other =>
    month == other ||
      !((nameOf month).toList.map Char.toLower).isPrefixOf ((nameOf other).toList.map Char.toLower)

theorem isPrefixFree_monthName : isPrefixFree monthName := by
  decide

theorem isPrefixFree_shortMonthName : isPrefixFree shortMonthName := by
  decide

theorem month_eq_of_prefix {nameOf : Nat → String} (free : isPrefixFree nameOf) {month other : Nat}
    (range : 1 ≤ month ∧ month ≤ 12) (otherRange : 1 ≤ other ∧ other ≤ 12)
    (starts : (nameOf month).toList.map Char.toLower <+: (nameOf other).toList.map Char.toLower) :
    month = other := by
  have listed {n : Nat} (inside : 1 ≤ n ∧ n ≤ 12) : n ∈ List.range' 1 12 := by
    rw [List.mem_range'_1]
    omega
  have pair := List.all_eq_true.mp (List.all_eq_true.mp free month (listed range)) other
    (listed otherRange)
  rw [List.isPrefixOf_iff_prefix.mpr starts] at pair
  simpa using pair

/-- A name is read in one way. -/
theorem exists_nameReadings {nameOf : Nat → String} (free : isPrefixFree nameOf) {month : Nat}
    (range : 1 ≤ month ∧ month ≤ 12) {part : List Char} (named : IsName nameOf month part)
    (rest : List Char) :
    ∃ others, nameReadings nameOf (part ++ rest) = (month, rest) :: others := by
  have only : ∀ reading ∈ nameReadings nameOf (part ++ rest), reading = (month, rest) := by
    rintro ⟨other, behind⟩ read
    obtain ⟨otherRange, letters, same, otherNamed⟩ := mem_nameReadings_iff.mp read
    have sameMonth : month = other := by
      -- of two names at the front of one text, one starts the other
      rw [IsName] at named otherNamed
      rcases List.prefix_or_prefix_of_prefix ⟨rest, same⟩ (List.prefix_append letters behind) with
        starts | starts
      · apply month_eq_of_prefix free range otherRange
        rw [← named, ← otherNamed]
        exact starts.map Char.toLower
      · symm
        apply month_eq_of_prefix free otherRange range
        rw [← named, ← otherNamed]
        exact starts.map Char.toLower
    subst sameMonth
    have length : part.length = letters.length := by
      simpa using congrArg List.length (named.trans otherNamed.symm)
    rw [(List.append_inj same length).2]
  have found : (month, rest) ∈ nameReadings nameOf (part ++ rest) :=
    mem_nameReadings_iff.mpr ⟨range, part, rfl, named⟩
  cases readings : nameReadings nameOf (part ++ rest) with
  | nil =>
      rw [readings] at found
      cases found
  | cons reading others =>
      rw [only reading (by rw [readings]; exact List.mem_cons_self)]
      exact ⟨others, rfl⟩

/-- What is noted when a piece of a date is read. -/
def Piece.note (date : Date) (found : Fields) : Piece → Fields
  | monthName | shortMonthName | month => { found with month := date.month }
  | day => { found with day := date.day }
  | year => { found with year := date.year }
  | blanks | char _ => found

theorem length_leftpad_year (date : Date) :
    ((Nat.toDigits 10 date.year).leftpad 4 '0').length = 4 := by
  have range : date.year ≤ 9999 := date.year_range.2
  have most : (Nat.toDigits 10 date.year).length ≤ 4 :=
    (Nat.length_toDigits_le_iff (by decide) (by decide)).mpr (by omega)
  rw [List.length_leftpad, Nat.max_eq_left most]

/-- The first reading of a name or a number is the right one, if something else follows. -/
theorem exists_readings_of_spells {date : Date} {piece : Piece} {part : List Char}
    (spelled : piece.Spells date part) (solid : piece.isSolid)
    (ends : ∀ c ∈ rest.head?, isApart c) (found : Fields) :
    ∃ others, piece.readings found (part ++ rest) = (piece.note date found, rest) :: others := by
  cases piece with
  | monthName =>
      obtain ⟨others, read⟩ :=
        exists_nameReadings isPrefixFree_monthName date.month_range spelled rest
      rw [Piece.readings, read]
      exact ⟨_, rfl⟩
  | shortMonthName =>
      obtain ⟨others, read⟩ :=
        exists_nameReadings isPrefixFree_shortMonthName date.month_range spelled rest
      rw [Piece.readings, read]
      exact ⟨_, rfl⟩
  | month =>
      obtain ⟨others, read⟩ := exists_monthReadings_numeral date.month_range spelled ends
      rw [Piece.readings, read]
      exact ⟨_, rfl⟩
  | day =>
      obtain ⟨others, read⟩ :=
        exists_dayReadings_numeral date.day_range.1 date.day_le spelled ends
      rw [Piece.readings, read]
      exact ⟨_, rfl⟩
  | year =>
      obtain rfl : part = _ := spelled
      have each : ∀ c ∈ (Nat.toDigits 10 date.year).leftpad 4 '0', isDigit c := fun _ inDigits =>
        isDigit_of_ascii (isDigit_of_mem_leftpad inDigits)
      have read := formed_replicate each rest
      rw [length_leftpad_year, decimal_leftpad, decimal_toDigits] at read
      rw [Piece.readings, read]
      exact ⟨_, rfl⟩
  | blanks | char => cases solid

variable {date : Date} {pieces joint : List Piece} {text between : List Char}

theorem readPieces_blanks {run : List Char} (nonempty : run ≠ []) (blank : Blanks run)
    (solid : SolidStart rest) (found : Fields) :
    readPieces (.blanks :: pieces) found (run ++ rest) = readPieces pieces found rest := by
  have starts : (run ++ rest).head?.any isBlank := by
    obtain ⟨c, run, rfl⟩ := List.exists_cons_of_ne_nil nonempty
    exact (blanks_cons.mp blank).1
  rw [readPieces, Piece.readings, if_pos starts, trimLeft_append_solid blank solid,
    List.findSome?_singleton]

theorem readPieces_char {c : Char} (found : Fields) :
    readPieces (.char c :: pieces) found (c :: rest) = readPieces pieces found rest := by
  rw [readPieces, readings_char, List.findSome?_singleton]

theorem foldl_note_joint (listed : joint ∈ joints) (found : Fields) :
    joint.foldl (Piece.note date) found = found := by
  simp only [joints, List.mem_cons, List.not_mem_nil, or_false] at listed
  rcases listed with rfl | rfl | rfl <;> rfl

theorem readPieces_joint (listed : joint ∈ joints)
    (rendered : Renders (Piece.Spells date) joint between) (solid : SolidStart rest)
    (found : Fields) :
    readPieces (joint ++ pieces) found (between ++ rest) = readPieces pieces found rest := by
  rcases renders_joint_cases listed rendered with
    ⟨run, nonempty, blank, ⟨rfl, rfl⟩ | ⟨rfl, rfl⟩⟩ | ⟨rfl, rfl⟩
  · exact readPieces_blanks nonempty blank solid found
  · exact (readPieces_char found).trans (readPieces_blanks nonempty blank solid found)
  · exact readPieces_char found

/-- A date is read from its pieces, and nothing is left of the text. -/
theorem readPieces_renders (rendered : Renders (Piece.Spells date) pieces text)
    (laid : IsLaid pieces) (found : Fields) :
    readPieces pieces found text = some (pieces.foldl (Piece.note date) found, []) := by
  induction laid generalizing text found with
  | last solid =>
      rw [renders_singleton_iff] at rendered
      have atEnd : ∀ c ∈ ([] : List Char).head?, isApart c := by simp
      obtain ⟨others, read⟩ := exists_readings_of_spells rendered solid atEnd found
      rw [List.append_nil] at read
      exact readPieces_first read rfl
  | join solid listed laid ih =>
      obtain ⟨part, rest, rfl, spelled, later⟩ := renders_cons_iff.mp rendered
      obtain ⟨between, behind, rfl, joined, others⟩ := renders_append_iff.mp later
      obtain ⟨nonempty, apart⟩ := marks_of_joint listed joined
      obtain ⟨c, tail, rfl, solidStart⟩ := exists_solid_of_isLaid laid others
      have ends : ∀ d ∈ (between ++ c :: tail).head?, isApart d := by
        obtain ⟨mark, marks, rfl⟩ := List.exists_cons_of_ne_nil nonempty
        rintro d ⟨⟩
        exact apart mark List.mem_cons_self
      have starts : SolidStart (c :: tail) := by
        rintro d ⟨⟩
        exact solidStart
      obtain ⟨otherReadings, read⟩ := exists_readings_of_spells spelled solid ends found
      apply readPieces_first read
      rw [readPieces_joint listed joined starts, ih others, List.foldl_cons, List.foldl_append,
        foldl_note_joint listed]

theorem foldl_note_formats {format : List Piece} (listed : format ∈ formats) :
    format.foldl (Piece.note date) {} = ⟨date.year, date.month, date.day⟩ := by
  simp only [formats, List.mem_cons, List.not_mem_nil, or_false] at listed
  rcases listed with rfl | rfl | rfl | rfl | rfl | rfl | rfl | rfl <;> rfl

/-- A format reads the dates that are written in it. -/
theorem readFormat_clean {format : List Piece} (listed : format ∈ formats)
    (rendered : Renders (Piece.SpellsOrdinal date) format text) :
    readFormat format (clean text) = some date := by
  have laid := isLaid_formats listed
  have cleaned : Renders (Piece.Spells date) format (clean text) :=
    (rendered.dropOrdinals laid).collapse laid
  rw [readFormat_eq_some_iff, readPieces_renders cleaned laid, foldl_note_formats listed]

end Readings

/-! ## Written dates -/

/-- A piece of a date in its plainest spelling. -/
def Piece.write (date : Date) : Piece → List Char
  | monthName => (Calendar.monthName date.month).toList
  | shortMonthName => (Calendar.shortMonthName date.month).toList
  | month => Nat.toDigits 10 date.month
  | day => Nat.toDigits 10 date.day
  | year => (Nat.toDigits 10 date.year).leftpad 4 '0'
  | blanks => [' ']
  | char c => [c]

theorem spells_write (date : Date) (piece : Piece) : piece.Spells date (piece.write date) := by
  cases piece with
  | monthName | shortMonthName | year | char => rfl
  | month | day => exact .inl rfl
  | blanks => exact ⟨List.cons_ne_nil ' ' [], blanks_space⟩

/-- Every date can be written in every format. -/
theorem renders_write (date : Date) (pieces : List Piece) :
    Renders (Piece.SpellsOrdinal date) pieces (pieces.flatMap (Piece.write date)) := by
  induction pieces with
  | nil => exact .nil
  | cons piece pieces ih => exact .cons (.inl (spells_write date piece)) ih

/-- The formats are complete: every date can be written in each of them, and a date that is written
in one of them, with names in any case, with or without leading zeros and suffixes, is resolved to
the start of this date in the zone of the clock.  They are unambiguous: formats that accept a text
read the same date from it, so the order in which they are tried does not matter. -/
theorem formats_complete_unambiguous :
    (∀ date : Date, ∀ format ∈ formats,
      Renders (Piece.SpellsOrdinal date) format (format.flatMap (Piece.write date)) ∧
      ∀ text : String, Renders (Piece.SpellsOrdinal date) format text.toList →
        ∀ clock, resolveAbsolute clock text = .ok (.midnight date clock.offset)) ∧
    (∀ text : List Char, ∀ first ∈ formats, ∀ second ∈ formats, ∀ date other : Date,
      readFormat first (clean text) = some date → readFormat second (clean text) = some other →
        date = other) ∧
    ∀ order : List (List Piece), order.Perm formats →
      ∀ text, order.findSome? (readFormat · (clean text)) = read? text := by
  refine ⟨?_, ?_, ?_⟩
  · intro date format listed
    refine ⟨renders_write date format, ?_⟩
    intro text rendered clock
    have read : read? text.toList = some date :=
      (findSome?_readFormat_iff (List.Subset.refl _)).mpr
        ⟨format, listed, readFormat_clean listed rendered⟩
    rw [resolveAbsolute, read]
  · intro text first firstListed second secondListed date other read otherRead
    exact readFormat_unique firstListed secondListed read otherRead
  · intro order permuted text
    exact findSome?_readFormat_perm permuted

/-- A date in a year of three digits. -/
def septemberFourth : Date :=
  .on 476 9 4

theorem renders_septemberFourth :
    Renders (Piece.SpellsOrdinal septemberFourth)
      [.shortMonthName, .blanks, .day, .char ',', .blanks, .year] "sEP \t 04tH, 0476".toList := by
  have split : "sEP \t 04tH, 0476".toList =
      "sEP".toList ++ (" \t ".toList ++ ("04tH".toList ++ ([','] ++ (" ".toList ++
        ("0476".toList ++ []))))) := by decide
  have fourth : Piece.SpellsOrdinal septemberFourth "04tH".toList .day :=
    .inr ⟨rfl, "04".toList, "tH".toList, by decide, .inr (by decide), by decide⟩
  rw [split]
  exact .cons (.inl rfl) (.cons (.inl ⟨by decide, rfl⟩) (.cons fourth
    (.cons (.inl rfl) (.cons (.inl ⟨by decide, rfl⟩) (.cons (.inl rfl) .nil)))))

theorem formats_complete_unambiguous_septemberFourth :
    resolveAbsolute (.midnight septemberFourth (some .utc)) "sEP \t 04tH, 0476" =
      .ok (.midnight septemberFourth (some .utc)) ∧
    (∀ date other : Date,
      readFormat [.monthName, .blanks, .day, .blanks, .year] (clean "MAY 5th 2026".toList) =
        some date →
      readFormat [.shortMonthName, .blanks, .day, .blanks, .year] (clean "MAY 5th 2026".toList) =
        some other → date = other) ∧
    formats.reverse.findSome? (readFormat · (clean "MAY 5th 2026".toList)) =
      read? "MAY 5th 2026".toList :=
  ⟨(formats_complete_unambiguous.1 septemberFourth _ (by decide)).2 _ renders_septemberFourth
      (.midnight septemberFourth (some .utc)),
    formats_complete_unambiguous.2.1 "MAY 5th 2026".toList _ (by decide) _ (by decide),
    formats_complete_unambiguous.2.2 formats.reverse (List.reverse_perm formats) _⟩

end BlockQuery.Calendar.Written
