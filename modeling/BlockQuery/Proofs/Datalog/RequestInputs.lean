import BlockQuery.Proofs.Datalog.RequestText
import BlockQuery.Proofs.Text.Words

/-!
# Inputs of a request

The inputs of a request are the words behind its keyword for inputs, up to the
next word that starts with a colon.  Read in this way, both requests of a query
list the database, the inputs of the conditions and the page.  This does not
depend on the order that is asked for, which may be any text, nor on what the
request selects, as long as no word of it is the keyword itself.
-/

namespace BlockQuery.Datalog

open Text

/-- Whether a word starts a section. -/
def isSectionWord (word : List Char) : Bool :=
  word.head? == some ':'

/-- The inputs of a request, read from its text. -/
def Request.inputNames (request : Request) : List String :=
  let behind := (words request.text.toList).dropWhile (· != ":in".toList)
  ((behind.drop 1).takeWhile fun word => !isSectionWord word).map String.ofList

/-! ## Words of names -/

theorem isWord_numbered {start : String} (nonempty : start.toList ≠ [])
    (solid : start.toList.all (!isBlank ·)) (index : Nat) :
    IsWord (start ++ toString index).toList := by
  rw [String.toList_append, Nat.toString_eq_repr, Nat.toList_repr]
  apply isWord_of_all (List.append_ne_nil_of_left_ne_nil nonempty _)
  rw [List.all_append, solid, Bool.true_and, List.all_eq_true]
  intro c inDigits
  have nameChar : isNameChar c := isNameChar_of_isDigit
    (Nat.isDigit_of_mem_toDigits (by decide) (by decide) inDigits)
  rw [isNameChar, Bool.and_eq_true, Bool.and_eq_true] at nameChar
  exact nameChar.1.1

theorem Var.isWord_name (v : Var) : IsWord v.name.toList := by
  cases v with
  | pageRef index | blockRef index | startDate index | endDate index =>
      exact isWord_numbered (by decide) (by decide) index
  | _ => exact isWord_of_all (by decide) (by decide)

theorem Var.isSectionWord_name (v : Var) : isSectionWord v.name.toList = false := by
  rw [isSectionWord, head?_name]
  rfl

/-! ## Words of sections -/

/-- The first word, if there is one, starts a section. -/
def StartsSection (texts : List (List Char)) : Prop :=
  ∀ word ∈ texts.head?, isSectionWord word

namespace StartsSection

theorem nil : StartsSection [] := by
  intro word first
  cases first

theorem cons {word : List Char} (isSection : isSectionWord word) (others : List (List Char)) :
    StartsSection (word :: others) := by
  intro first isFirst
  cases isFirst
  exact isSection

theorem append {first second : List (List Char)} (before : StartsSection first)
    (after : StartsSection second) : StartsSection (first ++ second) := by
  cases first with
  | nil => exact after
  | cons word first => exact before

/-- Nothing in front of a section belongs to the section before. -/
theorem takeWhile_eq_nil {texts : List (List Char)} (starts : StartsSection texts) :
    texts.takeWhile (!isSectionWord ·) = [] := by
  cases texts with
  | nil => rfl
  | cons word others =>
      have isSection := starts word rfl
      rw [List.takeWhile_cons_of_neg]
      simp [isSection]

end StartsSection

/-- A keyword is the first word of its section. -/
theorem words_keyword {keyword : List Char} (isWord : IsWord keyword) {c : Char}
    (blank : isBlank c) (text : List Char) :
    words (keyword ++ c :: text) = keyword :: words text := by
  rw [words_append_blank blank, isWord.words_eq]
  rfl

/-- The words of several texts. -/
def wordsEach (texts : List String) : List (List Char) :=
  texts.flatMap fun text => words text.toList

theorem startsSection_each {texts : List String}
    (each : ∀ text ∈ texts, StartsSection (words text.toList)) :
    StartsSection (wordsEach texts) := by
  induction texts with
  | nil => exact .nil
  | cons text texts ih =>
      rw [List.forall_mem_cons] at each
      exact each.1.append (ih each.2)

/-- Every modifier is a keyword with some text behind it. -/
theorem exists_keyword_of_mem_modifiers {options : RequestOptions} {text : String}
    (inModifiers : text ∈ Clauses.modifiers options) :
    ∃ rest, text = ":limit " ++ rest ∨ text = ":offset " ++ rest ∨ text = ":order " ++ rest := by
  rw [Clauses.modifiers, List.mem_append, List.mem_append] at inModifiers
  rcases inModifiers with (inLimit | inOffset) | inOrder
  · split at inLimit
    · rcases List.mem_map.mp inLimit with ⟨limit, _, rfl⟩
      exact ⟨toString limit, .inl rfl⟩
    · cases inLimit
  · split at inOffset
    · exact ⟨toString options.offset, .inr (.inl (List.mem_singleton.mp inOffset))⟩
    · cases inOffset
  · rcases List.mem_map.mp inOrder with ⟨order, _, rfl⟩
    exact ⟨order, .inr (.inr rfl)⟩

/-- Whatever the modifiers hold, the first of their words is a keyword. -/
theorem startsSection_modifiers (options : RequestOptions) :
    StartsSection (wordsEach (Clauses.modifiers options)) := by
  have starts : ∀ keyword ∈ [":limit", ":offset", ":order"], ∀ rest : String,
      StartsSection (words (keyword ++ " " ++ rest).toList) := by
    intro keyword known rest
    have isWord : IsWord keyword.toList := by
      simp only [List.mem_cons, List.not_mem_nil, or_false] at known
      rcases known with rfl | rfl | rfl <;> exact isWord_of_all (by decide) (by decide)
    have isKeyword : isSectionWord keyword.toList := by
      simp only [List.mem_cons, List.not_mem_nil, or_false] at known
      rcases known with rfl | rfl | rfl <;> rfl
    have chars : (keyword ++ " " ++ rest).toList = keyword.toList ++ ' ' :: rest.toList := by
      rw [String.toList_append, String.toList_append, List.append_assoc]
      rfl
    rw [chars, words_keyword isWord rfl]
    exact .cons isKeyword _
  apply startsSection_each
  intro text inModifiers
  rcases exists_keyword_of_mem_modifiers inModifiers with ⟨rest, rfl | rfl | rfl⟩
  · exact starts ":limit" (by decide) rest
  · exact starts ":offset" (by decide) rest
  · exact starts ":order" (by decide) rest

theorem words_names {names : List String} (each : ∀ name ∈ names, IsWord name.toList) :
    wordsEach names = names.map String.toList := by
  induction names with
  | nil => rfl
  | cons name names ih =>
      rw [List.forall_mem_cons] at each
      rw [wordsEach, List.flatMap_cons, each.1.words_eq, ← wordsEach, ih each.2]
      rfl

/-- The inputs of a request as they are written. -/
def inputTexts (inputs : List Var) (pageUid : Option String) : List String :=
  "$" :: (inputVars inputs pageUid).map Var.name

/-- No input starts a section. -/
theorem of_mem_inputTexts {inputs : List Var} {pageUid : Option String} {name : String}
    (inTexts : name ∈ inputTexts inputs pageUid) :
    IsWord name.toList ∧ isSectionWord name.toList = false := by
  rcases List.mem_cons.mp inTexts with rfl | inVars
  · exact ⟨isWord_of_all (by decide) (by decide), rfl⟩
  · rcases List.mem_map.mp inVars with ⟨v, _, rfl⟩
    exact ⟨v.isWord_name, v.isSectionWord_name⟩

/-- The words of the section of inputs. -/
theorem words_inputSection {clauses : Clauses} {inputs : List Var}
    (named : clauses.inputs = inputs.map Var.name) (pageUid : Option String) :
    words (clauses.inputSection pageUid).toList =
      ":in".toList :: (inputTexts inputs pageUid).map String.toList := by
  have keyword : IsWord ":in".toList := isWord_of_all (by decide) (by decide)
  have chars : (clauses.inputSection pageUid).toList = ":in".toList ++ ' ' ::
      [' '].intercalate ((inputTexts inputs pageUid).map String.toList) := by
    rw [Clauses.inputSection_eq named, String.toList_append, String.toList_intercalate]
    rfl
  rw [chars, words_keyword keyword rfl, words_intercalate, List.flatMap_map, ← wordsEach,
    words_names fun name inTexts => (of_mem_inputTexts inTexts).1]

/-! ## Inputs -/

/-- A bracket in front of texts is a bracket in front of the first of them. -/
theorem cons_intercalate (c : Char) (text : List Char) (texts : List (List Char)) :
    c :: [' '].intercalate (text :: texts) = [' '].intercalate ((c :: text) :: texts) := by
  cases texts with
  | nil => rw [List.intercalate_singleton, List.intercalate_singleton]
  | cons next texts =>
      rw [List.intercalate_cons_cons, List.intercalate_cons_cons]
      rfl

/-- The words of a request: those of its header, the keyword of the conditions and
those of the conditions. -/
theorem words_request (clauses : Clauses) (pageUid : Option String) (selected : String)
    (header : List String) (forms : List Form) :
    ∃ conditions, words (clauses.request pageUid (selected :: header) forms).text.toList =
      words ('[' :: selected.toList) ++ (wordsEach header ++ ":where".toList :: conditions) := by
  have keyword : IsWord ":where".toList := isWord_of_all (by decide) (by decide)
  have chars : ∃ rest, (clauses.request pageUid (selected :: header) forms).text.toList =
      [' '].intercalate (('[' :: selected.toList) :: header.map String.toList) ++
        '\n' :: ' ' :: ' ' :: (":where".toList ++ '\n' :: rest) := by
    refine ⟨' ' :: ' ' :: (Clauses.breakChars.intercalate
      ((forms.map Form.render ++ clauses.forms).map String.toList) ++ [']']), ?_⟩
    rw [Clauses.toList_request_text, ← cons_intercalate]
    simp only [Clauses.breakChars, List.append_assoc, List.cons_append, List.nil_append,
      List.map_cons]
  rcases chars with ⟨rest, chars⟩
  refine ⟨words rest, ?_⟩
  rw [chars, words_append_blank rfl, words_intercalate, words_blank rfl, words_blank rfl,
    words_keyword keyword rfl, List.flatMap_cons, List.flatMap_map, List.append_assoc]
  rfl

/-- The inputs of a request are the database and the variables of its inputs. -/
theorem inputNames_request {clauses : Clauses} {inputs : List Var}
    (named : clauses.inputs = inputs.map Var.name) (pageUid : Option String)
    {selected : String} {modifiers : List String} (forms : List Form)
    (other : ":in".toList ∉ words ('[' :: selected.toList))
    (sections : StartsSection (wordsEach modifiers)) :
    (clauses.request pageUid (selected :: clauses.inputSection pageUid :: modifiers)
      forms).inputNames = inputTexts inputs pageUid := by
  rcases words_request clauses pageUid selected (clauses.inputSection pageUid :: modifiers)
    forms with ⟨conditions, found⟩
  have skipped : ∀ word ∈ words ('[' :: selected.toList), (word != ":in".toList) = true := by
    intro word inWords
    rw [bne_iff_ne]
    rintro rfl
    exact other inWords
  have plain : ∀ word ∈ (inputTexts inputs pageUid).map String.toList,
      (!isSectionWord word) = true := by
    intro word inWords
    rcases List.mem_map.mp inWords with ⟨name, inTexts, rfl⟩
    rw [(of_mem_inputTexts inTexts).2]
    rfl
  have behind : StartsSection (wordsEach modifiers ++ ":where".toList :: conditions) :=
    sections.append (.cons rfl conditions)
  have listed : wordsEach (clauses.inputSection pageUid :: modifiers) =
      ":in".toList :: (inputTexts inputs pageUid).map String.toList ++ wordsEach modifiers := by
    rw [wordsEach, List.flatMap_cons, words_inputSection named, ← wordsEach]
  have written : ((inputTexts inputs pageUid).map String.toList).map String.ofList =
      inputTexts inputs pageUid := by
    simp
  rw [Request.inputNames, found, listed, List.dropWhile_append_of_pos skipped,
    List.cons_append, List.cons_append, List.dropWhile_cons_of_neg (by decide), List.drop_one,
    List.tail_cons, List.append_assoc, List.takeWhile_append_of_pos plain,
    behind.takeWhile_eq_nil, List.append_nil, written]

/-- The inputs of a find request. -/
theorem inputNames_findRequest {clauses : Clauses} {inputs : List Var}
    (named : clauses.inputs = inputs.map Var.name) (options : RequestOptions)
    {selection : List String} (other : ∀ text ∈ selection, ":in".toList ∉ words text.toList) :
    (clauses.findRequest options selection).inputNames = inputTexts inputs options.pageUid := by
  have keyword : IsWord "[:find".toList := isWord_of_all (by decide) (by decide)
  have chars : '[' :: (":find " ++ " ".intercalate selection).toList =
      "[:find".toList ++ ' ' :: [' '].intercalate (selection.map String.toList) := by
    rw [String.toList_append, String.toList_intercalate]
    rfl
  apply inputNames_request named options.pageUid _ _ (startsSection_modifiers options)
  rw [chars, words_keyword keyword rfl, words_intercalate, List.flatMap_map, List.mem_cons,
    List.mem_flatMap]
  rintro (isFind | ⟨text, inSelection, inText⟩)
  · cases isFind
  · exact other text inSelection inText

/-- The inputs of a count request. -/
theorem inputNames_count {clauses : Clauses} {inputs : List Var}
    (named : clauses.inputs = inputs.map Var.name) (pageUid : Option String) :
    (clauses.count pageUid).inputNames = inputTexts inputs pageUid :=
  inputNames_request named pageUid _ (by decide) .nil

end BlockQuery.Datalog
