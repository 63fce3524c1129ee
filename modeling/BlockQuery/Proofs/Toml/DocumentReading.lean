import BlockQuery.Proofs.Outcome
import BlockQuery.Proofs.Text.Lines
import BlockQuery.Proofs.Toml.ScalarReading
import Mathlib.Data.List.Basic

/-!
# Written documents

Reading a written document gives its sections back.  The reader takes the document
line by line, and what it knows after a line is determined by the sections that have
been read up to there, the last of them perhaps in part.  Blank lines and comments
may stand anywhere between the lines and change nothing.
-/

namespace BlockQuery.Toml

/-! ## Keys -/

/-- A text that is a key without quotes. -/
def IsBare (name : String) : Prop :=
  name.toList ≠ [] ∧ name.toList.all isBareKeyChar

instance (name : String) : Decidable (IsBare name) :=
  inferInstanceAs (Decidable (_ ∧ _))

theorem IsBare.forall_mem {name : String} (bare : IsBare name) :
    ∀ c ∈ name.toList, isBareKeyChar c :=
  List.all_eq_true.mp bare.2

theorem ne_of_isBareKeyChar {c other : Char} (bare : isBareKeyChar c)
    (notBare : isBareKeyChar other = false) : c ≠ other := by
  rintro rfl
  rw [notBare] at bare
  cases bare

theorem IsBare.exists_cons {name : String} (bare : IsBare name) :
    ∃ first more, name.toList = first :: more ∧ isBareKeyChar first := by
  obtain ⟨first, more, chars⟩ := List.exists_cons_of_ne_nil bare.1
  refine ⟨first, more, chars, bare.forall_mem first ?_⟩
  rw [chars]
  exact List.mem_cons_self

theorem keyPart_bare {name : String} (bare : IsBare name) {c : Char}
    (ends : isBareKeyChar c = false) (rest : List Char) :
    keyPart (name.toList ++ c :: rest) = .ok (name, c :: rest) := by
  have taken : (name.toList ++ c :: rest).takeWhile isBareKeyChar = name.toList := by
    rw [List.takeWhile_append_of_pos bare.forall_mem, List.takeWhile_cons_of_neg (by simp [ends]),
      List.append_nil]
  have dropped : (name.toList ++ c :: rest).dropWhile isBareKeyChar = c :: rest := by
    rw [List.dropWhile_append_of_pos bare.forall_mem, List.dropWhile_cons_of_neg (by simp [ends])]
  obtain ⟨first, more, chars, start⟩ := bare.exists_cons
  rw [chars, List.cons_append] at taken dropped ⊢
  have notQuote : first ≠ '"' := ne_of_isBareKeyChar start (by decide)
  have notApostrophe : first ≠ '\'' := ne_of_isBareKeyChar start (by decide)
  have same : String.ofList (first :: more) = name := by
    rw [← chars, String.ofList_toList]
  rw [keyPart.eq_def]
  simp [notQuote, notApostrophe, taken, dropped, same]

/-- A key without quotes that no dot follows. -/
theorem key_bare {name : String} (bare : IsBare name) {c next : Char}
    (ends : isBareKeyChar c = false) {rest more : List Char}
    (spaces : skipSpace (c :: rest) = next :: more) (noDot : next ≠ '.') :
    key (name.toList ++ c :: rest) = .ok ([name], next :: more) := by
  rw [key, keyParts, keyPart_bare bare ends, ok_bind]
  dsimp only
  rw [spaces]
  split
  case h_1 dot =>
    injection dot with dot
    exact absurd dot noDot
  case h_2 => rfl

/-! ## Lines -/

theorem skipSpace_cons {c : Char} (solid : isSpace c = false) (rest : List Char) :
    skipSpace (c :: rest) = c :: rest := by
  rw [skipSpace, List.dropWhile_cons_of_neg (by simp [solid])]

theorem exists_write_eq_cons (scalar : Scalar) :
    ∃ first more, scalar.write.toList = first :: more ∧ isSpace first = false := by
  cases scalar with
  | boolean truth =>
      cases truth with
      | true => exact ⟨_, _, rfl, by decide⟩
      | false => exact ⟨_, _, rfl, by decide⟩
  | integer number =>
      obtain ⟨n, ⟨-, written⟩ | ⟨-, written⟩⟩ := toList_toString number
      · obtain ⟨first, more, digits, digit⟩ := exists_digit_toDigits n
        refine ⟨first, more, written.trans digits, ?_⟩
        simp [isSpace, ne_of_isDigit digit]
      · exact ⟨_, _, written, by decide⟩
  | string text => exact ⟨_, _, toList_writeString text, by decide⟩

theorem toList_entryLine (name : String) (scalar : Scalar) :
    (entryLine name scalar).toList =
      name.toList ++ ' ' :: '=' :: ' ' :: scalar.write.toList := by
  simp [entryLine]

theorem readEntry_entryLine {name : String} (bare : IsBare name) {scalar : Scalar}
    (writable : scalar.isWritable) (fuel : Nat) (rest : List Char) :
    readEntry (fuel + 2) ((entryLine name scalar).toList ++ '\n' :: rest) =
      .ok ([name], scalar.value, '\n' :: rest) := by
  have skipped : skipSpace (' ' :: (scalar.write.toList ++ '\n' :: rest)) =
      scalar.write.toList ++ '\n' :: rest := by
    obtain ⟨first, more, chars, solid⟩ := exists_write_eq_cons scalar
    rw [chars]
    exact skipSpace_cons solid _
  have read := readValue_write writable fuel rest
  rw [toList_entryLine, List.append_assoc, List.cons_append, List.cons_append, List.cons_append,
    readEntry, key_bare bare (by decide) rfl (by decide), ok_bind]
  simp only [skipped, read, ok_bind]
  rfl

/-! ## What has been read -/

/-- The fields of a section. -/
def Section.fields (sec : Section) : Fields :=
  sec.entries.map fun entry => (entry.1, entry.2.value)

/-- The fields of a document of sections. -/
def sectionFields (sections : List Section) : Fields :=
  sections.map fun sec => (sec.name, .table sec.fields)

/-- What has been read after some sections. -/
def draftAfter (sections : List Section) : Draft where
  fields := sectionFields sections
  marks := sections.reverse.map fun sec => ([sec.name], .opened, false)
  pending := []
  header := (sections.getLast?.map fun sec => [sec.name]).getD []

section

variable {fields : Fields} {name : String}

theorem lookup_eq_none (absent : name ∉ fields.map Prod.fst) : fields.lookup name = none := by
  rw [List.lookup_eq_none_iff]
  intro field listed
  rw [bne_iff_ne]
  rintro rfl
  exact absent (List.mem_map_of_mem listed)

theorem lookup_append_last (absent : name ∉ fields.map Prod.fst) (value : Value) :
    (fields ++ [(name, value)]).lookup name = some value := by
  rw [List.lookup_append, lookup_eq_none absent, Option.none_or, List.lookup_cons_self]

theorem setField_absent (absent : name ∉ fields.map Prod.fst) (value : Value) :
    setField name value fields = fields ++ [(name, value)] := by
  induction fields with
  | nil => rfl
  | cons field fields ih =>
      rw [List.map_cons, List.mem_cons, not_or] at absent
      rw [setField, if_neg (Ne.symm absent.1), ih absent.2, List.cons_append]

theorem setField_append_last (absent : name ∉ fields.map Prod.fst) (old value : Value) :
    setField name value (fields ++ [(name, old)]) = fields ++ [(name, value)] := by
  induction fields with
  | nil => exact if_pos rfl
  | cons field fields ih =>
      rw [List.map_cons, List.mem_cons, not_or] at absent
      rw [List.cons_append, setField, if_neg (Ne.symm absent.1), ih absent.2, List.cons_append]

/-- The last table of a document is changed in its place. -/
theorem changeAt_last (absent : name ∉ fields.map Prod.fst) (throughArrays : Bool)
    (change : Fields → Option Fields) (inner : Fields) :
    changeAt throughArrays change [name] (fields ++ [(name, .table inner)]) =
      (change inner).map fun inner => fields ++ [(name, .table inner)] := by
  rw [changeAt, lookup_append_last absent]
  simp only [changeAt, setField_append_last absent]

end

theorem map_fst_fields (sec : Section) : sec.fields.map Prod.fst = sec.entries.map Prod.fst := by
  simp [Section.fields]

theorem map_fst_sectionFields (sections : List Section) :
    (sectionFields sections).map Prod.fst = sections.map Section.name := by
  simp [sectionFields]

theorem sectionFields_append (sections more : List Section) :
    sectionFields (sections ++ more) = sectionFields sections ++ sectionFields more :=
  List.map_append

theorem not_has_closed (sections : List Section) (path : List String) :
    (draftAfter sections).marks.has path .closed = false := by
  simp [Marks.has, draftAfter]

theorem not_has_opened {sections : List Section} {name : String}
    (absent : name ∉ sections.map Section.name) :
    (draftAfter sections).marks.has [name] .opened = false := by
  simpa [Marks.has, draftAfter] using absent

/-- A header opens a section without entries. -/
theorem openTable_draftAfter {done : List Section} {name : String}
    (absent : name ∉ done.map Section.name) :
    (draftAfter done).finish.openTable [name] = .ok (draftAfter (done ++ [⟨name, []⟩])) := by
  have finished : (draftAfter done).finish = draftAfter done := rfl
  have new : name ∉ (draftAfter done).fields.map Prod.fst := by
    rwa [draftAfter, map_fst_sectionFields]
  have changed : changeAt true some [name] (draftAfter done).fields =
      some ((draftAfter done).fields ++ [(name, .table [])]) := by
    rw [changeAt, lookup_eq_none new, ← setField_absent new]
    rfl
  rw [finished, Draft.openTable, not_has_opened absent, not_has_closed, changed]
  simp [draftAfter, Marks.add, sectionFields, Section.fields, orMalformed]

/-- An entry is added to the last section. -/
theorem enter_draftAfter {done : List Section} {name key : String}
    {entries : List (String × Scalar)} (absent : name ∉ done.map Section.name)
    (fresh : key ∉ entries.map Prod.fst) (scalar : Scalar) :
    (draftAfter (done ++ [⟨name, entries⟩])).enter [key] scalar.value =
      .ok (draftAfter (done ++ [⟨name, entries ++ [(key, scalar)]⟩])) := by
  have header : (draftAfter (done ++ [⟨name, entries⟩])).header = [name] := by
    simp [draftAfter]
  have fields : (draftAfter (done ++ [⟨name, entries⟩])).fields =
      sectionFields done ++ [(name, .table (Section.fields ⟨name, entries⟩))] :=
    sectionFields_append done _
  have new : name ∉ (sectionFields done).map Prod.fst := by
    rwa [map_fst_sectionFields]
  have newKey : key ∉ (Section.fields ⟨name, entries⟩).map Prod.fst := by
    rwa [map_fst_fields]
  have added : addEntry key scalar.value (Section.fields ⟨name, entries⟩) =
      some (Section.fields ⟨name, entries⟩ ++ [(key, scalar.value)]) := by
    rw [addEntry, lookup_eq_none newKey, setField_absent newKey]
  have changed : changeAt true (addEntry key scalar.value) [name]
      (draftAfter (done ++ [⟨name, entries⟩])).fields =
      some (sectionFields done ++
        [(name, .table (Section.fields ⟨name, entries⟩ ++ [(key, scalar.value)]))]) := by
    rw [fields, changeAt_last new, added, Option.map_some]
  have passed : (draftAfter (done ++ [⟨name, entries⟩])).passedTables [key] = [] := rfl
  have opened : scalar.value.isClosed = false := by
    cases scalar <;> rfl
  simp only [Draft.enter, passed, header, List.any_nil, List.dropLast_singleton,
    List.getLast?_singleton, Option.getD_some, List.append_nil, List.nil_append, not_has_closed,
    changed, opened, orMalformed, Bool.or_self, Bool.false_eq_true, if_false, bind_pure_comp,
    Except.map_ok]
  simp [draftAfter, sectionFields, Section.fields]

/-! ## Statements -/

theorem isSpace_of_isBareKeyChar {c : Char} (bare : isBareKeyChar c) : isSpace c = false := by
  have notBlank : c ≠ ' ' := ne_of_isBareKeyChar bare (by decide)
  have notTab : c ≠ '\t' := ne_of_isBareKeyChar bare (by decide)
  simp [isSpace, notBlank, notTab]

/-- A line that holds a statement. -/
theorem readStatements_of_readStatement {draft after : Draft} {c : Char} {text rest : List Char}
    (solid : isSpace c = false) (notBreak : c ≠ '\n')
    (read : readStatement draft (c :: text) = .ok (after, '\n' :: rest)) (fuel : Nat) :
    readStatements (fuel + 1) draft (c :: text) = readStatements fuel after rest := by
  have line : skipComment (skipSpace ('\n' :: rest)) = .ok ('\n' :: rest) := rfl
  rw [readStatements, skipSpace_cons solid]
  simp [notBreak, read, ok_bind, line]

theorem readStatements_header {done : List Section} {name : String} (bare : IsBare name)
    (absent : name ∉ done.map Section.name) (fuel : Nat) (rest : List Char) :
    readStatements (fuel + 1) (draftAfter done) ('[' :: (name.toList ++ ']' :: '\n' :: rest)) =
      readStatements fuel (draftAfter (done ++ [⟨name, []⟩])) rest := by
  apply readStatements_of_readStatement (by decide) (by decide)
  obtain ⟨first, more, chars, start⟩ := bare.exists_cons
  have notBracket : first ≠ '[' := ne_of_isBareKeyChar start (by decide)
  have spaces : skipSpace (']' :: '\n' :: rest) = ']' :: '\n' :: rest := rfl
  have named := key_bare bare (by decide) spaces (by decide)
  have opened := openTable_draftAfter absent
  rw [chars, List.cons_append] at named ⊢
  rw [readStatement.eq_def]
  simp [notBracket, skipSpace_cons (isSpace_of_isBareKeyChar start), named, ok_bind, opened]

theorem readStatements_entry {done : List Section} {name key : String}
    {entries : List (String × Scalar)} (absent : name ∉ done.map Section.name)
    (bare : IsBare key) (fresh : key ∉ entries.map Prod.fst) {scalar : Scalar}
    (writable : scalar.isWritable) (fuel : Nat) (rest : List Char) :
    readStatements (fuel + 1) (draftAfter (done ++ [⟨name, entries⟩]))
        ((entryLine key scalar).toList ++ '\n' :: rest) =
      readStatements fuel (draftAfter (done ++ [⟨name, entries ++ [(key, scalar)]⟩])) rest := by
  obtain ⟨first, more, chars, start⟩ := bare.exists_cons
  have notBreak : first ≠ '\n' := ne_of_isBareKeyChar start (by decide)
  have notBracket : first ≠ '[' := ne_of_isBareKeyChar start (by decide)
  have notComment : first ≠ '#' := ne_of_isBareKeyChar start (by decide)
  have starts : startsKey first := by
    simp [startsKey, start]
  have entered := enter_draftAfter absent fresh scalar
  obtain ⟨text, line⟩ : ∃ text, (entryLine key scalar).toList ++ '\n' :: rest = first :: text := by
    rw [toList_entryLine, chars]
    exact ⟨_, rfl⟩
  have read := readEntry_entryLine bare writable text.length rest
  rw [line] at read ⊢
  apply readStatements_of_readStatement (isSpace_of_isBareKeyChar start) notBreak
  rw [readStatement.eq_def]
  simp [notBracket, starts, read, ok_bind, entered]

/-! ## Lines of a document -/

/-- A line of a document below a header. -/
inductive Line
  | blank
  | comment (text : String)
  | entry (key : String) (scalar : Scalar)

namespace Line

/-- The text of a line, without its line break. -/
def write : Line → String
  | blank => ""
  | comment text => "#" ++ text
  | entry key scalar => entryLine key scalar

/-- What a line adds to its section. -/
def field? : Line → Option (String × Scalar)
  | entry key scalar => some (key, scalar)
  | blank | comment _ => none

@[simp]
theorem field?_blank : blank.field? = none :=
  rfl

@[simp]
theorem field?_comment (text : String) : (comment text).field? = none :=
  rfl

@[simp]
theorem field?_entry (key : String) (scalar : Scalar) :
    (entry key scalar).field? = some (key, scalar) :=
  rfl

/-- A line that can be read. -/
def IsReadable : Line → Prop
  | blank => True
  | comment text => IsLegal text.toList
  | entry key scalar => IsBare key ∧ scalar.isWritable

@[simp]
theorem isReadable_blank : blank.IsReadable :=
  trivial

@[simp]
theorem isReadable_comment {text : String} : (comment text).IsReadable ↔ IsLegal text.toList :=
  Iff.rfl

@[simp]
theorem isReadable_entry {key : String} {scalar : Scalar} :
    (entry key scalar).IsReadable ↔ IsBare key ∧ scalar.isWritable :=
  Iff.rfl

end Line

/-- A comment ends with its line. -/
theorem skipComment_line {text : List Char} (legal : IsLegal text) (rest : List Char) :
    skipComment ('#' :: (text ++ '\n' :: rest)) = .ok ('\n' :: rest) := by
  have unbroken : ∀ c ∈ text, (c != '\n') = true := by
    intro c listed
    rw [bne_iff_ne]
    rintro rfl
    exact legal.not_mem rfl listed
  have taken : (text ++ '\n' :: rest).takeWhile (· != '\n') = text := by
    rw [List.takeWhile_append_of_pos unbroken, List.takeWhile_cons_of_neg (by simp),
      List.append_nil]
  have dropped : (text ++ '\n' :: rest).dropWhile (· != '\n') = '\n' :: rest := by
    rw [List.dropWhile_append_of_pos unbroken, List.dropWhile_cons_of_neg (by simp)]
  have fine : text.any isIllegal = false := by
    rw [List.any_eq_false]
    intro c listed
    rw [isLegal_iff.mp legal c listed]
    exact Bool.false_ne_true
  rw [skipComment, taken, dropped, fine]
  rfl

/-- A line without an entry changes nothing. -/
theorem readStatements_gap {line : Line} (readable : line.IsReadable) (gap : line.field? = none)
    (fuel : Nat) (draft : Draft) (rest : List Char) :
    readStatements (fuel + 1) draft (line.write.toList ++ '\n' :: rest) =
      readStatements fuel draft rest := by
  cases line with
  | blank => rfl
  | comment text =>
      have start : (Line.comment text).write.toList ++ '\n' :: rest =
          '#' :: (text.toList ++ '\n' :: rest) := by
        simp [Line.write]
      have here : isSpace '#' = false := by decide
      have skipped := skipComment_line readable rest
      rw [start, readStatements, skipSpace_cons here]
      simp [readStatement, ok_bind, skipSpace_cons here, skipped]
  | entry key scalar => cases gap

/-- Reading a text leads from one draft to another, whatever follows.  The text bounds the fuel. -/
def Reads (draft : Draft) (text : List Char) (later : Draft) : Prop :=
  ∀ rest fuel, (text ++ rest).length < fuel →
    ∃ left, rest.length < left ∧
      readStatements fuel draft (text ++ rest) = readStatements left later rest

theorem Reads.refl (draft : Draft) : Reads draft [] draft :=
  fun _ fuel enough => ⟨fuel, enough, rfl⟩

theorem Reads.trans {draft middle later : Draft} {text more : List Char}
    (first : Reads draft text middle) (second : Reads middle more later) :
    Reads draft (text ++ more) later := by
  intro rest fuel enough
  rw [List.append_assoc] at enough ⊢
  obtain ⟨left, enough, read⟩ := first _ _ enough
  rw [read]
  exact second _ _ enough

/-- The text of written lines. -/
def linesText (lines : List String) : List Char :=
  Text.unlines (lines.map String.toList)

theorem linesText_append (lines more : List String) :
    linesText (lines ++ more) = linesText lines ++ linesText more := by
  rw [linesText, List.map_append, Text.unlines_append]
  rfl

theorem linesText_cons (line : String) (lines : List String) :
    linesText (line :: lines) = linesText [line] ++ linesText lines :=
  linesText_append [line] lines

theorem reads_of_line {draft later : Draft} {line : String}
    (step : ∀ fuel rest, readStatements (fuel + 1) draft (line.toList ++ '\n' :: rest) =
      readStatements fuel later rest) :
    Reads draft (linesText [line]) later := by
  intro rest fuel enough
  have text : linesText [line] ++ rest = line.toList ++ '\n' :: rest := by
    simp [linesText, Text.unlines]
  obtain ⟨fuel, rfl⟩ := Nat.exists_eq_succ_of_ne_zero (Nat.ne_zero_of_lt enough)
  rw [text, List.length_append, List.length_cons] at enough
  rw [text]
  exact ⟨fuel, by omega, step fuel rest⟩

/-- Lines without entries change nothing. -/
theorem reads_gaps {lines : List Line}
    (gaps : ∀ line ∈ lines, line.IsReadable ∧ line.field? = none) (draft : Draft) :
    Reads draft (linesText (lines.map Line.write)) draft := by
  induction lines with
  | nil => exact .refl draft
  | cons line lines ih =>
      rw [List.forall_mem_cons] at gaps
      have first : Reads draft (linesText [line.write]) draft :=
        reads_of_line fun fuel => readStatements_gap gaps.1.1 gaps.1.2 fuel draft
      rw [List.map_cons, linesText_cons]
      exact first.trans (ih gaps.2)

theorem reads_line {done : List Section} {name : String} (absent : name ∉ done.map Section.name)
    {line : Line} (readable : line.IsReadable) {known : List (String × Scalar)}
    (distinct : ((known ++ line.field?.toList).map Prod.fst).Nodup) :
    Reads (draftAfter (done ++ [⟨name, known⟩])) (linesText [line.write])
      (draftAfter (done ++ [⟨name, known ++ line.field?.toList⟩])) := by
  apply reads_of_line
  intro fuel rest
  cases line with
  | blank | comment text =>
      rw [readStatements_gap readable rfl, Line.field?, Option.toList_none, List.append_nil]
  | entry key scalar =>
      have fresh : key ∉ known.map Prod.fst := by
        rw [List.map_append, List.nodup_append] at distinct
        exact fun listed => distinct.2.2 key listed key List.mem_cons_self rfl
      exact readStatements_entry absent readable.1 fresh readable.2 fuel rest

/-- The lines of a section are read one by one. -/
theorem reads_lines {done : List Section} {name : String} (absent : name ∉ done.map Section.name)
    {lines : List Line} (readable : ∀ line ∈ lines, line.IsReadable)
    {known : List (String × Scalar)}
    (distinct : ((known ++ lines.filterMap Line.field?).map Prod.fst).Nodup) :
    Reads (draftAfter (done ++ [⟨name, known⟩])) (linesText (lines.map Line.write))
      (draftAfter (done ++ [⟨name, known ++ lines.filterMap Line.field?⟩])) := by
  induction lines generalizing known with
  | nil =>
      rw [List.filterMap_nil, List.append_nil]
      exact .refl _
  | cons line lines ih =>
      have split : known ++ (line :: lines).filterMap Line.field? =
          known ++ line.field?.toList ++ lines.filterMap Line.field? := by
        rw [List.filterMap_cons]
        cases line.field? <;> simp
      rw [List.forall_mem_cons] at readable
      rw [split] at distinct ⊢
      rw [List.map_cons, linesText_cons]
      refine (reads_line absent readable.1 ?_).trans (ih readable.2 distinct)
      rw [List.map_append] at distinct
      exact (List.nodup_append.mp distinct).1

/-! ## Documents -/

/-- A header with the lines below it. -/
structure Passage where
  name : String
  lines : List Line

namespace Passage

/-- The section that a passage stands for. -/
def sec (passage : Passage) : Section :=
  ⟨passage.name, passage.lines.filterMap Line.field?⟩

/-- The written lines of a passage. -/
def write (passage : Passage) : List String :=
  ("[" ++ passage.name ++ "]") :: passage.lines.map Line.write

/-- A passage whose lines can be read and whose keys are different. -/
structure IsReadable (passage : Passage) : Prop where
  bareName : IsBare passage.name
  readable : ∀ line ∈ passage.lines, line.IsReadable
  distinct : (passage.sec.entries.map Prod.fst).Nodup

end Passage

theorem reads_passage {done : List Section} {passage : Passage} (readable : passage.IsReadable)
    (absent : passage.name ∉ done.map Section.name) :
    Reads (draftAfter done) (linesText passage.write) (draftAfter (done ++ [passage.sec])) := by
  have header : Reads (draftAfter done) (linesText ["[" ++ passage.name ++ "]"])
      (draftAfter (done ++ [⟨passage.name, []⟩])) := by
    apply reads_of_line
    intro fuel rest
    have line := readStatements_header readable.bareName absent fuel rest
    simpa using line
  rw [Passage.write, linesText_cons]
  exact header.trans (reads_lines absent readable.readable readable.distinct)

/-- The passages of a document are read one by one. -/
theorem reads_passages {passages : List Passage}
    (readable : ∀ passage ∈ passages, passage.IsReadable) {done : List Section}
    (distinct : ((done ++ passages.map Passage.sec).map Section.name).Nodup) :
    Reads (draftAfter done) (linesText (passages.flatMap Passage.write))
      (draftAfter (done ++ passages.map Passage.sec)) := by
  induction passages generalizing done with
  | nil =>
      rw [List.map_nil, List.append_nil]
      exact .refl _
  | cons passage passages ih =>
      have absent : passage.name ∉ done.map Section.name := by
        rw [List.map_append, List.nodup_append] at distinct
        exact fun listed => distinct.2.2 _ listed _ List.mem_cons_self rfl
      have split : done ++ (passage :: passages).map Passage.sec =
          done ++ [passage.sec] ++ passages.map Passage.sec := by
        simp
      rw [List.forall_mem_cons] at readable
      rw [split] at distinct ⊢
      rw [List.flatMap_cons, linesText_append]
      exact (reads_passage readable.1 absent).trans (ih readable.2 distinct)

theorem joinLineEnds_eq_self {text : List Char} (noReturn : '\r' ∉ text) :
    joinLineEnds text = text := by
  induction text with
  | nil => rfl
  | cons c text ih =>
      rw [List.mem_cons, not_or] at noReturn
      rw [joinLineEnds.eq_def]
      simp [Ne.symm noReturn.1, ih noReturn.2]

/-- A document is read if its text leads to a draft. -/
theorem read_of_reads {text : String} {draft : Draft} (reads : Reads {} text.toList draft)
    (noReturn : '\r' ∉ text.toList) : read text = .ok draft.fields := by
  obtain ⟨left, more, statements⟩ :=
    reads [] (text.toList.length + 1) (by rw [List.append_nil]; exact Nat.lt_succ_self _)
  obtain ⟨left, rfl⟩ := Nat.exists_eq_succ_of_ne_zero (Nat.ne_zero_of_lt more)
  rw [List.append_nil] at statements
  rw [read, joinLineEnds_eq_self noReturn, statements]
  rfl

/-! ## Line ends -/

/-- No control character is part of a key without quotes. -/
theorem isBareKeyChar_of_isControl :
    ∀ code < 0x80, isControl (Char.ofNat code) → isBareKeyChar (Char.ofNat code) = false := by
  decide +kernel

theorem isLegal_of_isBare {name : String} (bare : IsBare name) : IsLegal name.toList := by
  rw [isLegal_iff]
  intro c listed
  cases control : isControl c with
  | false => rw [isIllegal, control, Bool.false_and]
  | true =>
      have notBare := isBareKeyChar_of_isControl c.toNat (toNat_of_isControl control)
      rw [Char.ofNat_toNat, bare.forall_mem c listed] at notBare
      exact absurd (notBare control) (by decide)

theorem isLegal_line {line : Line} (readable : line.IsReadable) : IsLegal line.write.toList := by
  cases line with
  | blank => exact rfl
  | comment text =>
      rw [Line.write, String.toList_append, isLegal_append]
      exact ⟨rfl, readable⟩
  | entry key scalar =>
      rw [Line.write, toList_entryLine, isLegal_append]
      refine ⟨isLegal_of_isBare readable.1, ?_⟩
      exact isLegal_append.mpr ⟨show IsLegal [' ', '=', ' '] from rfl, isLegal_write scalar⟩

theorem isLegal_passage {passage : Passage} (readable : passage.IsReadable) :
    ∀ line ∈ passage.write, IsLegal line.toList := by
  rw [Passage.write, List.forall_mem_cons, List.forall_mem_map]
  refine ⟨?_, fun line listed => isLegal_line (readable.readable line listed)⟩
  rw [String.toList_append, String.toList_append, isLegal_append, isLegal_append]
  exact ⟨⟨rfl, isLegal_of_isBare readable.bareName⟩, rfl⟩

theorem isLegal_layout {gaps : List Line} {passages : List Passage}
    (empty : ∀ line ∈ gaps, line.IsReadable ∧ line.field? = none)
    (readable : ∀ passage ∈ passages, passage.IsReadable) :
    ∀ line ∈ gaps.map Line.write ++ passages.flatMap Passage.write, IsLegal line.toList := by
  rw [List.forall_mem_append, List.forall_mem_map, List.forall_mem_flatMap]
  exact ⟨fun line listed => isLegal_line (empty line listed).1,
    fun passage listed => isLegal_passage (readable passage listed)⟩

theorem return_not_mem_linesText {lines : List String}
    (legal : ∀ line ∈ lines, IsLegal line.toList) : '\r' ∉ linesText lines := by
  simp only [linesText, Text.unlines, List.flatMap_map, List.mem_flatMap, not_exists, not_and]
  intro line listed
  simp [(legal line listed).not_mem (c := '\r') rfl]

/-- Reading a document of passages, behind lines without entries, gives their sections. -/
theorem read_passages {text : String} {gaps : List Line} {passages : List Passage}
    (layout : text.toList = linesText (gaps.map Line.write ++ passages.flatMap Passage.write))
    (empty : ∀ line ∈ gaps, line.IsReadable ∧ line.field? = none)
    (readable : ∀ passage ∈ passages, passage.IsReadable)
    (distinct : (passages.map Passage.name).Nodup) :
    read text = .ok (sectionFields (passages.map Passage.sec)) := by
  have names : (([] ++ passages.map Passage.sec).map Section.name).Nodup := by
    rw [List.nil_append, List.map_map]
    exact distinct
  have reads : Reads {} text.toList (draftAfter (passages.map Passage.sec)) := by
    rw [layout, linesText_append]
    exact (reads_gaps empty (draftAfter [])).trans (reads_passages readable names)
  have noReturn : '\r' ∉ text.toList := by
    rw [layout]
    exact return_not_mem_linesText (isLegal_layout empty readable)
  exact read_of_reads reads noReturn

/-! ## Written sections -/

/-- The lines of entries. -/
def entryLines (entries : List (String × Scalar)) : List Line :=
  entries.map fun entry => .entry entry.1 entry.2

/-- The passages of sections: every section but the last has a blank line behind it. -/
def passagesOf : List Section → List Passage
  | [] => []
  | [sec] => [⟨sec.name, entryLines sec.entries⟩]
  | sec :: next :: sections =>
    ⟨sec.name, entryLines sec.entries ++ [.blank]⟩ :: passagesOf (next :: sections)

theorem filterMap_entryLines (entries : List (String × Scalar)) :
    (entryLines entries).filterMap Line.field? = entries := by
  simp [entryLines, List.filterMap_map, Function.comp_def, Line.field?]

theorem map_sec_passagesOf (sections : List Section) :
    (passagesOf sections).map Passage.sec = sections := by
  induction sections using passagesOf.induct with
  | case1 => rfl
  | case2 sec => rw [passagesOf, List.map_singleton, Passage.sec, filterMap_entryLines]
  | case3 sec next sections ih =>
      have gap : [Line.blank].filterMap Line.field? = [] := rfl
      rw [passagesOf, List.map_cons, ih, Passage.sec, List.filterMap_append,
        filterMap_entryLines, gap, List.append_nil]

theorem toList_write (sec : Section) :
    sec.write.toList = linesText (Passage.write ⟨sec.name, entryLines sec.entries⟩) := by
  simp [Section.write, Passage.write, linesText, Text.unlines, entryLines, Line.write,
    List.flatMap_map]

theorem toList_writeSections (sections : List Section) :
    (writeSections sections).toList = linesText ((passagesOf sections).flatMap Passage.write) := by
  rw [writeSections, String.toList_intercalate, List.map_map]
  induction sections using passagesOf.induct with
  | case1 => rfl
  | case2 sec => simp [passagesOf, toList_write]
  | case3 sec next sections ih =>
      have longer : Passage.write ⟨sec.name, entryLines sec.entries ++ [.blank]⟩ =
          Passage.write ⟨sec.name, entryLines sec.entries⟩ ++ [""] := by
        simp [Passage.write, Line.write]
      rw [passagesOf, List.flatMap_cons, longer, linesText_append, linesText_append,
        ← toList_write, ← ih]
      simp [linesText, Text.unlines]

/-- A section whose names can be keys, each of them once, and whose numbers can be written. -/
structure Section.IsWritable (sec : Section) : Prop where
  bareName : IsBare sec.name
  bareKeys : ∀ key ∈ sec.entries.map Prod.fst, IsBare key
  distinct : (sec.entries.map Prod.fst).Nodup
  writable : ∀ entry ∈ sec.entries, entry.2.isWritable

theorem Section.IsWritable.isReadable {sec : Section} (writable : sec.IsWritable)
    {more : List Line} (gaps : ∀ line ∈ more, line.IsReadable ∧ line.field? = none) :
    Passage.IsReadable ⟨sec.name, entryLines sec.entries ++ more⟩ where
  bareName := writable.bareName
  readable := by
    rw [List.forall_mem_append, entryLines, List.forall_mem_map]
    refine ⟨fun entry listed => ?_, fun line listed => (gaps line listed).1⟩
    exact ⟨writable.bareKeys entry.1 (List.mem_map_of_mem listed), writable.writable entry listed⟩
  distinct := by
    have none : more.filterMap Line.field? = [] := by
      rw [List.filterMap_eq_nil_iff]
      exact fun line listed => (gaps line listed).2
    rw [Passage.sec, List.filterMap_append, filterMap_entryLines, none, List.append_nil]
    exact writable.distinct

theorem isReadable_passagesOf {sections : List Section}
    (writable : ∀ sec ∈ sections, sec.IsWritable) :
    ∀ passage ∈ passagesOf sections, passage.IsReadable := by
  induction sections using passagesOf.induct with
  | case1 => exact List.forall_mem_nil _
  | case2 sec =>
      have alone := (writable sec List.mem_cons_self).isReadable (List.forall_mem_nil _)
      rw [List.append_nil] at alone
      exact List.forall_mem_singleton.mpr alone
  | case3 sec next sections ih =>
      rw [List.forall_mem_cons] at writable
      rw [passagesOf, List.forall_mem_cons]
      exact ⟨writable.1.isReadable (List.forall_mem_singleton.mpr ⟨trivial, rfl⟩), ih writable.2⟩

/-- Reading a written document gives its sections back. -/
theorem read_writeSections {sections : List Section}
    (writable : ∀ sec ∈ sections, sec.IsWritable)
    (distinct : (sections.map Section.name).Nodup) :
    read (writeSections sections) = .ok (sectionFields sections) := by
  have layout := toList_writeSections sections
  have names : ((passagesOf sections).map Passage.name).Nodup := by
    rw [← map_sec_passagesOf sections, List.map_map] at distinct
    exact distinct
  have result := read_passages layout (List.forall_mem_nil _) (isReadable_passagesOf writable) names
  rwa [map_sec_passagesOf] at result

end BlockQuery.Toml
