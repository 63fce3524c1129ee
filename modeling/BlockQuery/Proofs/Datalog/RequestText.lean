import BlockQuery.Proofs.Datalog.FormText
import BlockQuery.Proofs.Datalog.RequestNumbers

/-!
# The texts of requests

The text of a request is one square group of sections.  A section is a keyword
with the items behind it, up to the next keyword.  The last section holds the
conditions, and reading it gives the tree of each condition, as long as the
order of the matches is readable by itself and brings no keyword of its own.
-/

namespace BlockQuery.Datalog

open BlockQuery.Text

/-! ## Sections -/

/-- Whether a tree starts a section. -/
def Tree.isKeyword : Tree → Bool
  | .name (':' :: _) => true
  | _ => false

/-- Whether a tree is the given name. -/
def Tree.isName (text : String) : Tree → Bool
  | .name written => written == text.toList
  | _ => false

/-- The items of a section. -/
def sectionAt (keyword : String) (items : List Tree) : Option (List Tree) :=
  match items.dropWhile fun item => !item.isName keyword with
  | [] => none
  | _ :: behind => some (behind.takeWhile fun item => !item.isKeyword)

/-- The items of a section of a request. -/
def readSection (keyword : String) (text : String) : Option (List Tree) :=
  match readTrees text.toList with
  | some [.group .square items] => sectionAt keyword items
  | _ => none

/-- A keyword and the items behind it. -/
structure Section where
  keyword : String
  items : List Tree

namespace Section

/-- The trees of a section. -/
def trees (part : Section) : List Tree :=
  .name part.keyword.toList :: part.items

/-- The section starts at its keyword and holds no other one. -/
structure Sound (part : Section) : Prop where
  starts : (Tree.name part.keyword.toList).isKeyword
  plain : ∀ item ∈ part.items, item.isKeyword = false

theorem isName_keyword (text : String) : (Tree.name text.toList).isName text := by
  simp [Tree.isName]

/-- An item that starts no section is not the keyword of one. -/
theorem Sound.isName_eq_false {part : Section} (sound : part.Sound) {item : Tree}
    (plain : item.isKeyword = false) : item.isName part.keyword = false := by
  cases item with
  | name text =>
      by_contra named
      have same : text = part.keyword.toList := by simpa [Tree.isName] using named
      rw [same, sound.starts] at plain
      contradiction
  | literal raw => rfl
  | group bracket items => rfl

/-- A section is found behind sections with other keywords. -/
theorem sectionAt_flatMap (before after : List Section) (part : Section)
    (sound : ∀ other ∈ before ++ part :: after, other.Sound)
    (others : ∀ other ∈ before, other.keyword ≠ part.keyword) :
    sectionAt part.keyword ((before ++ part :: after).flatMap trees) = some part.items := by
  have partSound : part.Sound := sound part (by simp)
  induction before with
  | nil =>
      have found : sectionAt part.keyword (part.trees ++ after.flatMap trees) =
          some ((part.items ++ after.flatMap trees).takeWhile fun item => !item.isKeyword) := by
        simp [sectionAt, trees, isName_keyword]
      rw [List.nil_append, List.flatMap_cons, found, List.takeWhile_append_of_pos]
      · cases after with
        | nil => simp
        | cons next after =>
            have nextSound := sound next (by simp)
            simp [trees, nextSound.starts]
      · intro item inItems
        simp [partSound.plain item inItems]
  | cons first before ih =>
      have firstSound := sound first (by simp)
      have skipped : ∀ item ∈ first.trees, (!item.isName part.keyword) = true := by
        intro item inFirst
        rcases List.mem_cons.mp inFirst with rfl | inItems
        · have differ := others first List.mem_cons_self
          simpa [Tree.isName, String.toList_inj] using differ
        · rw [partSound.isName_eq_false (firstSound.plain item inItems)]
          rfl
      have rest := ih
        (fun other inRest => sound other (List.mem_cons_of_mem first inRest))
        (fun other inBefore => others other (List.mem_cons_of_mem first inBefore))
      rw [List.cons_append, List.flatMap_cons]
      rw [sectionAt, List.dropWhile_append_of_pos skipped]
      exact rest

end Section

/-! ## The sections of a request -/

/-- Every text is read as the trees of a section. -/
def SpellSections (texts : List String) (parts : List Section) : Prop :=
  List.Forall₂ (fun text part => SpellsOpen text.toList (Tree.tokensEach part.trees)) texts parts

theorem SpellSections.joined {texts : List String} {parts : List Section}
    (each : SpellSections texts parts) :
    SpellsOpen ([' '].intercalate (texts.map String.toList))
      (Tree.tokensEach (parts.flatMap Section.trees)) := by
  have blank : [' '].all isBlank := rfl
  have spelled : List.Forall₂ SpellsOpen (texts.map String.toList)
      (parts.map fun part => Tree.tokensEach part.trees) := by
    rw [List.forall₂_map_left_iff, List.forall₂_map_right_iff]
    exact each
  have joined := spells_intercalate blank spelled
  simp only [Tree.tokensEach_eq_flatMap] at joined ⊢
  rw [List.flatMap_assoc]
  exact joined

/-- The section of conditions. -/
def conditionSection (forms : List Form) : Section :=
  ⟨":where", forms.map Form.tree⟩

namespace Clauses

/-- The characters of a line break. -/
def breakChars : List Char := ['\n', ' ', ' ']

theorem toList_lineBreak : lineBreak.toList = breakChars := rfl

theorem toList_request_text (clauses : Clauses) (pageUid : Option String) (header : List String)
    (forms : List Form) :
    (clauses.request pageUid header forms).text.toList =
      ['['] ++ (([' '].intercalate (header.map String.toList)) ++ breakChars) ++
        (":where".toList ++ breakChars) ++
        ((breakChars.intercalate ((forms.map Form.render ++ clauses.forms).map
          String.toList)) ++ [']']) := by
  simp [request, toList_lineBreak]

/-- A request with readable sections is one group of these sections and its
conditions. -/
theorem readTrees_request {clauses : Clauses} {header : List String} {parts : List Section}
    {forms given : List Form} (spelled : SpellSections header parts)
    (rendered : clauses.forms = given.map Form.render) (pageUid : Option String) :
    readTrees (clauses.request pageUid header forms).text.toList =
      some [.group .square ((parts ++ [conditionSection (forms ++ given)]).flatMap
        Section.trees)] := by
  have blanks : breakChars.all isBlank := rfl
  have newLine : Spells breakChars [] := spells_blanks blanks
  have ends : ∀ rest, Boundary ('\n' :: rest) := fun _ => boundary_of_blank rfl
  have headerSpelled := spelled.joined.close newLine ends
  have keyword : SpellsOpen ":where".toList [.name ":where".toList] :=
    spells_name (by decide) (by decide)
  have conditions := spells_intercalate blanks (Form.spells_renderEach (forms ++ given))
  have whole := (((spells_bracket (c := '[') rfl).append headerSpelled).append
    (keyword.close newLine ends)).append (conditions.bracket (c := ']') rfl)
  rw [readTrees_eq_some_iff, toList_request_text, rendered, ← List.map_append, List.map_map]
  apply Spells.toOpen
  simpa [breakChars, Tree.tokensEach, Tree.tokens, Tree.tokensEach_append, conditionSection,
    Section.trees, Tree.tokensEach_eq_flatMap, List.flatMap_def, Function.comp_def] using whole

end Clauses

/-! ## The header of a find request -/

/-- A keyword, a blank and readable items. -/
theorem spells_section {keyword : String} {text : List Char} {items : List Tree}
    (named : SpellsOpen keyword.toList [.name keyword.toList])
    (spelled : SpellsOpen text (Tree.tokensEach items)) :
    SpellsOpen (keyword.toList ++ [' '] ++ text)
      (Tree.tokensEach (Section.trees ⟨keyword, items⟩)) :=
  named.blank.append_open spelled

/-- Names with blanks between them. -/
theorem spells_names {names : List String}
    (named : ∀ text ∈ names, SpellsOpen text.toList [.name text.toList]) :
    SpellsOpen ([' '].intercalate (names.map String.toList))
      (Tree.tokensEach (names.map fun text => .name text.toList)) := by
  have blank : [' '].all isBlank := rfl
  have each : List.Forall₂ SpellsOpen (names.map String.toList)
      (names.map fun text => [Token.name text.toList]) := by
    rw [List.forall₂_map_left_iff, List.forall₂_map_right_iff]
    exact List.forall₂_same.mpr named
  have joined := spells_intercalate blank each
  rw [Tree.tokensEach_eq_flatMap, List.flatMap_map]
  exact joined

theorem mem_toList_int {n : Int} {c : Char} (inText : c ∈ (toString n).toList) :
    c.isDigit ∨ c = '-' := by
  have digits : ∀ m : Nat, c ∈ Nat.toDigits 10 m → c.isDigit := fun _ =>
    Nat.isDigit_of_mem_toDigits (by decide) (by decide)
  rw [Int.toString_eq_repr, Int.repr_eq_if] at inText
  split at inText
  · rw [Nat.toList_repr] at inText
    exact .inl (digits _ inText)
  · rw [String.toList_append, List.mem_append, Nat.toList_repr] at inText
    rcases inText with sign | inDigits
    · exact .inr (List.mem_singleton.mp sign)
    · exact .inl (digits _ inDigits)

theorem toList_int_ne_nil (n : Int) : (toString n).toList ≠ [] := by
  rw [Int.toString_eq_repr, Int.repr_eq_if]
  split
  · rw [Nat.toList_repr]
    exact Nat.toDigits_ne_nil
  · simp

theorem spells_int (n : Int) :
    SpellsOpen (toString n).toList (Tree.tokensEach [.name (toString n).toList]) := by
  apply spells_name (toList_int_ne_nil n)
  rw [List.all_eq_true]
  intro c inText
  rcases mem_toList_int inText with digit | rfl
  · exact isNameChar_of_isDigit digit
  · decide

theorem isKeyword_int (n : Int) : (Tree.name (toString n).toList).isKeyword = false := by
  cases chars : (toString n).toList with
  | nil => rfl
  | cons c rest =>
      have first : c.isDigit ∨ c = '-' :=
        mem_toList_int (n := n) (by rw [chars]; exact List.mem_cons_self)
      have notColon : c ≠ ':' := by
        rintro rfl
        revert first
        decide
      unfold Tree.isKeyword
      split
      · next same =>
          cases same
          contradiction
      · rfl

/-- The order of the matches is readable and brings no keyword. -/
def RequestOptions.OrderReadable (options : RequestOptions) : Prop :=
  ∀ order ∈ options.order, ∃ items, readTrees order.toList = some items ∧
    ∀ item ∈ items, item.isKeyword = false

/-- Texts of sound sections that are neither the inputs nor the conditions. -/
def SpellModifiers (texts : List String) : Prop :=
  ∃ parts, SpellSections texts parts ∧
    ∀ part ∈ parts, part.Sound ∧ part.keyword ∈ [":limit", ":offset", ":order"]

theorem SpellModifiers.nil : SpellModifiers [] :=
  ⟨[], .nil, fun _ inParts => absurd inParts List.not_mem_nil⟩

theorem SpellModifiers.append {first second : List String} (left : SpellModifiers first)
    (right : SpellModifiers second) : SpellModifiers (first ++ second) := by
  rcases left with ⟨before, beforeSpelled, beforeSound⟩
  rcases right with ⟨after, afterSpelled, afterSound⟩
  refine ⟨before ++ after, List.rel_append beforeSpelled afterSpelled, ?_⟩
  intro part inParts
  rcases List.mem_append.mp inParts with inBefore | inAfter
  · exact beforeSound part inBefore
  · exact afterSound part inAfter

theorem SpellModifiers.single {start keyword text : String} {items : List Tree}
    (spaced : start.toList = keyword.toList ++ [' '])
    (known : keyword ∈ [":limit", ":offset", ":order"])
    (spelled : SpellsOpen text.toList (Tree.tokensEach items))
    (plain : ∀ item ∈ items, item.isKeyword = false) : SpellModifiers [start ++ text] := by
  have keywords : keyword = ":limit" ∨ keyword = ":offset" ∨ keyword = ":order" := by
    simpa using known
  have named : SpellsOpen keyword.toList [.name keyword.toList] := by
    rcases keywords with rfl | rfl | rfl <;> exact spells_name (by decide) (by decide)
  have starts : (Tree.name keyword.toList).isKeyword := by
    rcases keywords with rfl | rfl | rfl <;> rfl
  have whole := spells_section named spelled
  refine ⟨[⟨keyword, items⟩], .cons ?_ .nil, ?_⟩
  · rw [String.toList_append, spaced]
    exact whole
  · intro part inParts
    cases List.mem_singleton.mp inParts
    exact ⟨⟨starts, plain⟩, known⟩

theorem SpellModifiers.int {start keyword : String}
    (spaced : start.toList = keyword.toList ++ [' '])
    (known : keyword ∈ [":limit", ":offset", ":order"]) (n : Int) :
    SpellModifiers [start ++ toString n] := by
  apply SpellModifiers.single spaced known (spells_int n)
  intro item inItems
  cases List.mem_singleton.mp inItems
  exact isKeyword_int n

theorem spellModifiers_modifiers {options : RequestOptions} (readable : options.OrderReadable) :
    SpellModifiers (Clauses.modifiers options) := by
  have limits : SpellModifiers
      (if options.isBounded then options.limit.toList.map (s!":limit {·}") else []) := by
    split
    · cases options.limit with
      | none => exact .nil
      | some limit => exact .int (show _ = ":limit".toList ++ [' '] from rfl) (by decide) limit
    · exact .nil
  have offsets : SpellModifiers
      (if 0 < options.offset then [s!":offset {options.offset}"] else []) := by
    split
    · exact .int (show _ = ":offset".toList ++ [' '] from rfl) (by decide) options.offset
    · exact .nil
  have orders : SpellModifiers ((options.order.filter (· != "")).toList.map (s!":order {·}")) := by
    cases given : options.order with
    | none => exact .nil
    | some order =>
        rcases readable order given with ⟨items, read, plain⟩
        rw [Option.filter]
        split
        · exact .single (show _ = ":order".toList ++ [' '] from rfl) (by decide)
            (readTrees_eq_some_iff.mp read) plain
        · exact .nil
  exact (limits.append offsets).append orders

/-! ## Reading a find request -/

/-- The variables of a request's inputs: those of its conditions and the page. -/
def inputVars (inputs : List Var) (pageUid : Option String) : List Var :=
  inputs ++ if (pageScope pageUid).isSome then [.targetPage] else []

/-- What a find request asks for, as a section. -/
def findSection : Section :=
  ⟨":find", [Var.blockUid, Var.blockText, Var.pageTitle].map Var.tree⟩

/-- The inputs of a request, as a section. -/
def inputsSection (inputs : List Var) (pageUid : Option String) : Section :=
  ⟨":in", .name ['$'] :: (inputVars inputs pageUid).map Var.tree⟩

@[simp]
theorem keyword_findSection : findSection.keyword = ":find" :=
  rfl

@[simp]
theorem keyword_inputsSection (inputs : List Var) (pageUid : Option String) :
    (inputsSection inputs pageUid).keyword = ":in" :=
  rfl

@[simp]
theorem keyword_conditionSection (forms : List Form) :
    (conditionSection forms).keyword = ":where" :=
  rfl

/-- The conditions of a find request. -/
def findForms (pageUid : Option String) (given : List Form) : List Form :=
  baseForms ++ pageTitleForm :: scopeForms pageUid ++ given

theorem head?_name (v : Var) : v.name.toList.head? = some '?' := by
  cases v with
  | pageRef index =>
      change ("?ref-" ++ toString index).toList.head? = _
      simp
  | blockRef index =>
      change ("?block-ref-" ++ toString index).toList.head? = _
      simp
  | startDate index =>
      change ("?start-date-" ++ toString index).toList.head? = _
      simp
  | endDate index =>
      change ("?end-date-" ++ toString index).toList.head? = _
      simp
  | _ => rfl

theorem isKeyword_tree_var (v : Var) : v.tree.isKeyword = false := by
  have first := head?_name v
  unfold Var.tree Tree.isKeyword
  split
  · next written same =>
      injection same with chars
      simp [chars] at first
  · rfl

theorem sound_findSection : findSection.Sound := by
  refine ⟨rfl, ?_⟩
  intro item inItems
  rcases List.mem_map.mp inItems with ⟨v, _, rfl⟩
  exact isKeyword_tree_var v

theorem sound_inputsSection (inputs : List Var) (pageUid : Option String) :
    (inputsSection inputs pageUid).Sound := by
  have starts : (Tree.name ":in".toList).isKeyword := rfl
  refine ⟨starts, ?_⟩
  intro item inItems
  rcases List.mem_cons.mp inItems with rfl | inVars
  · rfl
  · rcases List.mem_map.mp inVars with ⟨v, _, rfl⟩
    exact isKeyword_tree_var v

theorem sound_conditionSection (forms : List Form) : (conditionSection forms).Sound := by
  have starts : (Tree.name ":where".toList).isKeyword := rfl
  refine ⟨starts, ?_⟩
  intro item inItems
  rcases List.mem_map.mp inItems with ⟨form, _, rfl⟩
  cases form <;> rfl

theorem spells_findSection :
    SpellsOpen (":find " ++ " ".intercalate defaultSelection).toList
      (Tree.tokensEach findSection.trees) := by
  have named : SpellsOpen ":find".toList [.name ":find".toList] :=
    spells_name (by decide) (by decide)
  have names : ∀ text ∈ defaultSelection, SpellsOpen text.toList [.name text.toList] := by
    intro text inSelection
    rcases List.mem_map.mp inSelection with ⟨v, _, rfl⟩
    exact v.spells
  have whole := spells_section named (spells_names names)
  simpa [findSection, defaultSelection, Var.tree] using whole

/-- The section of inputs lists the database and the variables. -/
theorem Clauses.inputSection_eq {clauses : Clauses} {inputs : List Var}
    (named : clauses.inputs = inputs.map Var.name) (pageUid : Option String) :
    clauses.inputSection pageUid =
      ":in " ++ " ".intercalate ("$" :: (inputVars inputs pageUid).map Var.name) := by
  rw [inputSection, named, inputVars, List.map_append]
  split <;> rfl

theorem spells_inputsSection {clauses : Clauses} {inputs : List Var}
    (named : clauses.inputs = inputs.map Var.name) (pageUid : Option String) :
    SpellsOpen (clauses.inputSection pageUid).toList
      (Tree.tokensEach (inputsSection inputs pageUid).trees) := by
  have keyword : SpellsOpen ":in".toList [.name ":in".toList] :=
    spells_name (by decide) (by decide)
  have names : ∀ text ∈ "$" :: (inputVars inputs pageUid).map Var.name,
      SpellsOpen text.toList [.name text.toList] := by
    intro text inTexts
    rcases List.mem_cons.mp inTexts with rfl | inVars
    · exact spells_name (by decide) (by decide)
    · rcases List.mem_map.mp inVars with ⟨v, _, rfl⟩
      exact v.spells
  have trees : (inputsSection inputs pageUid).items =
      ("$" :: (inputVars inputs pageUid).map Var.name).map fun text => .name text.toList := by
    rw [List.map_cons, List.map_map]
    rfl
  have whole := spells_section keyword (spells_names names)
  rw [← trees] at whole
  rw [Clauses.inputSection_eq named, String.toList_append, String.toList_intercalate]
  exact whole

/-- A find request is read section by section. -/
theorem readTrees_findRequest {clauses : Clauses} {given : List Form} {inputs : List Var}
    (rendered : clauses.forms = given.map Form.render)
    (named : clauses.inputs = inputs.map Var.name)
    {options : RequestOptions} (readable : options.OrderReadable) :
    ∃ modifiers : List Section,
      (∀ part ∈ modifiers, part.Sound ∧ part.keyword ∈ [":limit", ":offset", ":order"]) ∧
      readTrees (clauses.findRequest options defaultSelection).text.toList =
        some [.group .square ((findSection :: inputsSection inputs options.pageUid :: modifiers ++
          [conditionSection (findForms options.pageUid given)]).flatMap Section.trees)] := by
  rcases spellModifiers_modifiers readable with ⟨parts, spelled, sound⟩
  refine ⟨parts, sound, ?_⟩
  have header : SpellSections
      ([":find " ++ " ".intercalate defaultSelection, clauses.inputSection options.pageUid] ++
        Clauses.modifiers options)
      (findSection :: inputsSection inputs options.pageUid :: parts) :=
    .cons spells_findSection (.cons (spells_inputsSection named options.pageUid) spelled)
  exact Clauses.readTrees_request header rendered options.pageUid

/-- Reading a find request gives its inputs and its conditions. -/
theorem readSection_findRequest {clauses : Clauses} {given : List Form} {inputs : List Var}
    (rendered : clauses.forms = given.map Form.render)
    (named : clauses.inputs = inputs.map Var.name)
    {options : RequestOptions} (readable : options.OrderReadable) :
    readSection ":in" (clauses.findRequest options defaultSelection).text =
        some (.name ['$'] :: (inputVars inputs options.pageUid).map Var.tree) ∧
      readSection ":where" (clauses.findRequest options defaultSelection).text =
        some ((findForms options.pageUid given).map Form.tree) := by
  rcases readTrees_findRequest rendered named readable with ⟨modifiers, known, read⟩
  have sound : ∀ part ∈ findSection :: inputsSection inputs options.pageUid :: modifiers ++
      [conditionSection (findForms options.pageUid given)], part.Sound := by
    intro part inParts
    simp only [List.cons_append, List.mem_cons, List.mem_append, List.not_mem_nil,
      or_false] at inParts
    rcases inParts with rfl | rfl | inModifiers | rfl
    · exact sound_findSection
    · exact sound_inputsSection inputs options.pageUid
    · exact (known part inModifiers).1
    · exact sound_conditionSection _
  have inputsFound := Section.sectionAt_flatMap [findSection] _
    (inputsSection inputs options.pageUid) sound (by
      intro part inParts
      rw [List.mem_singleton.mp inParts]
      simp)
  have conditionsFound := Section.sectionAt_flatMap
    (findSection :: inputsSection inputs options.pageUid :: modifiers) []
    (conditionSection (findForms options.pageUid given)) sound (by
      intro part inParts
      simp only [List.mem_cons] at inParts
      rcases inParts with rfl | rfl | inModifiers
      · simp
      · simp
      · have other := (known part inModifiers).2
        intro same
        simp [same] at other)
  constructor
  · rw [readSection, read]
    exact inputsFound
  · rw [readSection, read]
    exact conditionsFound

end BlockQuery.Datalog
