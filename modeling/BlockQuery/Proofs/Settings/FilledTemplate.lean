import BlockQuery.Proofs.Settings.SavedSettings
import BlockQuery.Settings.Template
import Mathlib.Data.List.Chain

/-!
# Filled settings files

A new settings file is the example with the lines of the graph and of the token filled
in.  The second of the two is looked for in a text that has the name of the graph in
it already.  Inside of a written string every quote has a backslash in front of it, so
no name can be taken for the line of the token, whatever it holds.  The other lines
stay as they are, and the file is read as the given values and defaults elsewhere.
-/

namespace BlockQuery.Toml

/-! ## Quotes in written strings -/

theorem not_quote_of_mem_head? (text : List Char) :
    ∀ c ∈ (text.flatMap escapeChar).head?, c ≠ '"' := by
  intro c first
  cases text with
  | nil => cases first
  | cons d text =>
      obtain ⟨start, more, escape, notQuote⟩ := escapeChar_eq_cons d
      rw [List.flatMap_cons, escape] at first
      cases first
      exact notQuote

/-- A quote has a backslash in front of it, unless nothing is in front of it. -/
abbrev QuotesEscaped (text : List Char) : Prop :=
  text.IsChain fun c d => d = '"' → c = '\\'

theorem quotesEscaped_of_not_mem {text : List Char} (absent : '"' ∉ text) :
    QuotesEscaped text := by
  apply List.Pairwise.isChain
  rw [List.pairwise_iff_forall_sublist]
  rintro c d pair rfl
  exact absurd (pair.subset (by simp)) absent

theorem quotesEscaped_escapeChar (c : Char) : QuotesEscaped (escapeChar c) := by
  unfold escapeChar
  cases short : shortEscape? c with
  | some mark => exact List.isChain_pair.mpr fun _ => rfl
  | none =>
      dsimp only
      split
      case isTrue control =>
        obtain ⟨-, -, -, absent⟩ := hexChar?_hexadecimal c.toNat (toNat_of_isControl control.1)
        apply quotesEscaped_of_not_mem
        simp [absent]
      case isFalse => exact .singleton c

theorem quotesEscaped_escaped (text : List Char) : QuotesEscaped (text.flatMap escapeChar) := by
  induction text with
  | nil => exact .nil
  | cons c text ih =>
      rw [List.flatMap_cons, QuotesEscaped, List.isChain_append]
      refine ⟨quotesEscaped_escapeChar c, ih, ?_⟩
      intro d _ e first quote
      exact absurd quote (not_quote_of_mem_head? text e first)

/-! ## Occurrences -/

/-- An occurrence that starts with a character which is not in the first text is in the second. -/
theorem infix_of_infix_append {c : Char} {marker first second : List Char} (absent : c ∉ first)
    (occurs : c :: marker <:+: first ++ second) : c :: marker <:+: second := by
  induction first with
  | nil => exact occurs
  | cons d first ih =>
      rw [List.mem_cons, not_or] at absent
      rw [List.cons_append, List.infix_cons_iff] at occurs
      rcases occurs with starts | inside
      · exact absurd (List.cons_prefix_cons.mp starts).1 absent.1
      · exact ih absent.2 inside

/-- Without its last character, an occurrence is in the text without its last character. -/
theorem infix_of_concat_infix_concat {c d : Char} {marker text : List Char}
    (occurs : marker ++ [c] <:+: text ++ [d]) : marker <:+: text := by
  rcases List.infix_concat_iff.mp occurs with ends | inside
  · rcases List.suffix_concat_iff.mp ends with empty | ⟨start, same, inside⟩
    · exact absurd empty (by simp)
    · obtain ⟨rfl, -⟩ := List.append_inj' same rfl
      exact inside.isInfix
  · exact (List.prefix_append marker [c]).isInfix.trans inside

end BlockQuery.Toml

namespace BlockQuery.Settings.Template

open Files

/-! ## The lines of a filled file -/

/-- A value that is given and not empty. -/
def given (value : Option String) : Option String :=
  value.filter (· != "")

/-- The line in the place of a placeholder. -/
def valueLine (placeholder key : String) (value : Option String) : String :=
  match given value with
  | some value => Toml.entryLine key (.string value)
  | none => placeholder

/-- The line in the place of a line of the example. -/
def filledLine (graph token : Option String) (line : String) : String :=
  if line = nameLine then valueLine nameLine "name" graph
  else if line = tokenLine then valueLine tokenLine "token" token
  else line

/-- No name of a graph has the line of the token in its own line. -/
theorem tokenLine_not_infix_entryLine (graph : String) :
    ¬ tokenLine.toList <:+: (Toml.entryLine "name" (.string graph)).toList := by
  intro occurs
  have line : (Toml.entryLine "name" (.string graph)).toList =
      "name = \"".toList ++ (graph.toList.flatMap Toml.escapeChar ++ ['"']) := by
    simp [Toml.toList_entryLine, Toml.Scalar.write, Toml.toList_writeString]
  have marker : tokenLine.toList = '#' :: (tokenLine.toList.tail.dropLast ++ ['"']) := by
    rw [tokenLine, String.toList_ofList]
    rfl
  have escaped : [' ', '"'] <:+: '#' :: tokenLine.toList.tail.dropLast := by
    rw [tokenLine, String.toList_ofList]
    decide
  rw [line, marker] at occurs
  have behind := Toml.infix_of_infix_append (by decide) occurs
  rw [← List.cons_append] at behind
  have inside := Toml.infix_of_concat_infix_concat behind
  have chain := List.IsChain.infix (Toml.quotesEscaped_escaped graph.toList)
    (escaped.trans inside)
  exact absurd (List.isChain_pair.mp chain rfl) (by decide)

/-- Filling in a placeholder replaces its line. -/
theorem toList_fillLine {placeholder : String} (nonempty : placeholder.toList ≠ [])
    (unbroken : '\n' ∉ placeholder.toList) {before after : List String}
    (absent : ∀ line ∈ before, ¬ placeholder.toList <:+: line.toList) {text : String}
    (lines : text.toList = Text.unlines ((before ++ placeholder :: after).map String.toList))
    (key : String) (value : Option String) :
    (fillLine placeholder key value text).toList =
      Text.unlines ((before ++ valueLine placeholder key value :: after).map String.toList) := by
  rw [fillLine, valueLine, given]
  cases value.filter (· != "") with
  | none => exact lines
  | some value =>
      dsimp only
      rw [String.toList_ofList, lines, List.map_append, List.map_cons,
        Text.replaceFirst_unlines nonempty unbroken (List.forall_mem_map.mpr absent),
        List.map_append, List.map_cons]

/-- The lines of the example in front of the name. -/
def openingLines : List String :=
  exampleLines.take 8

/-- The lines of the example between the name and the token. -/
def middleLines : List String :=
  (exampleLines.drop 9).take 2

/-- The lines of the example behind the token. -/
def closingLines : List String :=
  exampleLines.drop 12

theorem exampleLines_eq :
    exampleLines = openingLines ++ nameLine :: (middleLines ++ tokenLine :: closingLines) :=
  rfl

theorem not_infix_of_all {marker : List Char} {lines : List String}
    (each : lines.all fun line => !Text.contains marker line.toList) :
    ∀ line ∈ lines, ¬ marker <:+: line.toList := by
  intro line listed occurs
  have absent := List.all_eq_true.mp each line listed
  rw [Text.contains_iff.mpr occurs] at absent
  cases absent

theorem nameLine_absent : ∀ line ∈ openingLines, ¬ nameLine.toList <:+: line.toList := by
  apply not_infix_of_all
  simp only [openingLines, exampleLines, nameLine, List.take_succ_cons, List.take_zero,
    List.all_cons, List.all_nil]
  -- decoding a text takes long, so that its characters are put in its place first
  repeat rw [String.toList_ofList]
  rfl

theorem tokenLine_absent_exampleLines :
    ∀ line ∈ openingLines ++ nameLine :: middleLines, ¬ tokenLine.toList <:+: line.toList := by
  apply not_infix_of_all
  simp only [openingLines, middleLines, exampleLines, nameLine, tokenLine, List.take_succ_cons,
    List.take_zero, List.drop_succ_cons, List.drop_zero, List.cons_append, List.nil_append,
    List.all_cons, List.all_nil]
  repeat rw [String.toList_ofList]
  rfl

/-- The line of the token is in no line in front of it, the one of the graph included. -/
theorem tokenLine_absent (graph : Option String) :
    ∀ line ∈ openingLines ++ valueLine nameLine "name" graph :: middleLines,
      ¬ tokenLine.toList <:+: line.toList := by
  have before := tokenLine_absent_exampleLines
  rw [List.forall_mem_append, List.forall_mem_cons] at before ⊢
  refine ⟨before.1, ?_, before.2.2⟩
  rw [valueLine]
  split
  · exact tokenLine_not_infix_entryLine _
  · exact before.2.1

theorem map_filledLine {lines : List String} (graph token : Option String)
    (each : lines.all fun line => line != nameLine && line != tokenLine) :
    lines.map (filledLine graph token) = lines := by
  rw [List.map_congr_left (g := id), List.map_id]
  intro line listed
  have differs := List.all_eq_true.mp each line listed
  rw [Bool.and_eq_true, bne_iff_ne, bne_iff_ne] at differs
  rw [filledLine, if_neg differs.1, if_neg differs.2, id]

theorem map_filledLine_exampleLines (graph token : Option String) :
    exampleLines.map (filledLine graph token) =
      openingLines ++ valueLine nameLine "name" graph :: middleLines ++
        valueLine tokenLine "token" token :: closingLines := by
  have name : filledLine graph token nameLine = valueLine nameLine "name" graph := if_pos rfl
  have secret : filledLine graph token tokenLine = valueLine tokenLine "token" token := by
    rw [filledLine, if_neg (by decide), if_pos rfl]
  have opening : openingLines.map (filledLine graph token) = openingLines :=
    map_filledLine graph token (by decide)
  have middle : middleLines.map (filledLine graph token) = middleLines :=
    map_filledLine graph token (by decide)
  have closing : closingLines.map (filledLine graph token) = closingLines :=
    map_filledLine graph token (by decide)
  rw [exampleLines_eq, List.map_append, List.map_cons, List.map_append, List.map_cons, name, secret,
    opening, middle, closing, List.append_assoc, List.cons_append]

/-- The filled example has the lines of the example, but for the placeholders. -/
theorem toList_fill (graph token : Option String) :
    (fill exampleText graph token).toList =
      Text.unlines ((exampleLines.map (filledLine graph token)).map String.toList) := by
  have text := Text.toList_join_lines exampleLines
  rw [exampleLines_eq] at text
  have named := toList_fillLine (by decide) (by decide) nameLine_absent text "name" graph
  rw [← List.cons_append, ← List.append_assoc] at named
  have filled :=
    toList_fillLine (by decide) (by decide) (tokenLine_absent graph) named "token" token
  rw [map_filledLine_exampleLines]
  exact filled

/-! ## The document of a filled file -/

/-- A line that has a value if one is given, and a hint otherwise. -/
def valueOrHint (hint key : String) (value : Option String) : Toml.Line :=
  match given value with
  | some value => .entry key (.string value)
  | none => .comment hint

/-- The lines in front of the first header. -/
def preamble : List Toml.Line :=
  [.comment " roam-query configuration",
   .comment "",
   .comment " Default location: ~/.config/roam-query/config.toml",
   .comment " The environment variables ROAM_GRAPH_NAME and ROAM_API_TOKEN override",
   .comment " the values in [graph].",
   .blank]

/-- The part of the filled example about the graph. -/
def graphPassage (graph token : Option String) : Toml.Passage where
  name := "graph"
  lines :=
    [.comment " Name of the Roam graph to query",
     valueOrHint " name = \"my-graph\"" "name" graph,
     .blank,
     .comment " Backend API token (Settings > Graph > API tokens in Roam)",
     valueOrHint " token = \"roam-graph-token-...\"" "token" token,
     .blank,
     .comment " Backend API host. Requests may be redirected to a graph peer.",
     .entry "base_url" (.string ({} : Settings).baseUrl),
     .blank]

/-- The part of the example about queries. -/
def queryPassage : Toml.Passage where
  name := "query"
  lines :=
    [.comment " Rows returned when --limit is not given. -1 returns every match.",
     .entry "default_limit" (.integer ({} : Settings).defaultLimit),
     .blank,
     .comment " How deep ((uid)) block references in results are expanded. 0 disables it.",
     .entry "refs_depth" (.integer ({} : Settings).refsDepth),
     .blank,
     .comment " Datalog :order for results",
     .entry "order_by" (.string ({} : Settings).order),
     .blank]

/-- The part of the example about the display. -/
def displayPassage : Toml.Passage where
  name := "display"
  lines :=
    [.comment " Use colors in terminal output. NO_COLOR and --no-color take precedence.",
     .entry "colored_output" (.boolean ({} : Settings).colored)]

/-- The parts of the filled example. -/
def passages (graph token : Option String) : List Toml.Passage :=
  [graphPassage graph token, queryPassage, displayPassage]

theorem openingLines_eq :
    openingLines = preamble.map Toml.Line.write ++
      ["[" ++ "graph" ++ "]", "#" ++ " Name of the Roam graph to query"] := by
  rfl

theorem middleLines_eq :
    middleLines = ["", "#" ++ " Backend API token (Settings > Graph > API tokens in Roam)"] := by
  rfl

theorem closingLines_eq :
    closingLines =
      ["", "#" ++ " Backend API host. Requests may be redirected to a graph peer.",
        Toml.entryLine "base_url" (.string ({} : Settings).baseUrl), ""] ++
        (queryPassage.write ++ displayPassage.write) := by
  rfl

theorem write_valueOrHint {hint placeholder : String} (hinted : "#" ++ hint = placeholder)
    (key : String) (value : Option String) :
    (valueOrHint hint key value).write = valueLine placeholder key value := by
  rw [valueOrHint, valueLine]
  split
  · rfl
  · exact hinted

/-- The filled example is made of passages. -/
theorem map_filledLine_eq_passages (graph token : Option String) :
    exampleLines.map (filledLine graph token) =
      preamble.map Toml.Line.write ++ (passages graph token).flatMap Toml.Passage.write := by
  have name : (valueOrHint " name = \"my-graph\"" "name" graph).write =
      valueLine nameLine "name" graph :=
    write_valueOrHint rfl "name" graph
  have secret : (valueOrHint " token = \"roam-graph-token-...\"" "token" token).write =
      valueLine tokenLine "token" token :=
    write_valueOrHint rfl "token" token
  rw [map_filledLine_exampleLines, openingLines_eq, middleLines_eq, closingLines_eq, ← name,
    ← secret]
  simp [passages, Toml.Passage.write, graphPassage, Toml.Line.write]

theorem isReadable_valueOrHint {hint key : String} (legal : Toml.IsLegal hint.toList)
    (bare : Toml.IsBare key) (value : Option String) :
    (valueOrHint hint key value).IsReadable := by
  rw [valueOrHint]
  split
  · exact ⟨bare, rfl⟩
  · exact legal

theorem field?_valueOrHint (hint key : String) (value : Option String) :
    (valueOrHint hint key value).field? = (given value).map fun value => (key, .string value) := by
  rw [valueOrHint]
  cases given value with
  | none => rfl
  | some value => rfl

theorem isReadable_preamble :
    ∀ line ∈ preamble, line.IsReadable ∧ line.field? = none := by
  simp only [preamble, List.forall_mem_cons, List.not_mem_nil, false_implies, implies_true,
    Toml.Line.isReadable_comment, Toml.Line.isReadable_blank, Toml.Line.field?_comment,
    Toml.Line.field?_blank, and_true]
  repeat rw [String.toList_ofList]
  decide

/-- The entries of the graph's section. -/
def graphEntries (graph token : Option String) : List (String × Toml.Scalar) :=
  (given graph).toList.map (fun name => ("name", .string name)) ++
    (given token).toList.map (fun token => ("token", .string token)) ++
    [("base_url", .string ({} : Settings).baseUrl)]

theorem sec_graphPassage (graph token : Option String) :
    (graphPassage graph token).sec = ⟨"graph", graphEntries graph token⟩ := by
  simp only [Toml.Passage.sec, graphPassage, graphEntries, List.filterMap_cons,
    Toml.Line.field?_blank, Toml.Line.field?_comment, field?_valueOrHint, Toml.Line.field?_entry,
    List.filterMap_nil]
  cases given graph <;> cases given token <;> rfl

theorem isReadable_graphPassage (graph token : Option String) :
    (graphPassage graph token).IsReadable where
  bareName := show Toml.IsBare "graph" by decide
  readable := by
    have name : Toml.IsBare "name" := by decide
    have secret : Toml.IsBare "token" := by decide
    have address : Toml.IsBare "base_url" := by decide
    simp only [graphPassage, List.forall_mem_cons, List.not_mem_nil, false_implies, implies_true,
      Toml.Line.isReadable_comment, Toml.Line.isReadable_blank, Toml.Line.isReadable_entry,
      and_true, true_and]
    refine ⟨?_, isReadable_valueOrHint ?_ name graph, ?_, isReadable_valueOrHint ?_ secret token,
      ?_, address, rfl⟩
    all_goals
      rw [String.toList_ofList]
      decide
  distinct := by
    rw [sec_graphPassage, graphEntries]
    cases given graph <;> cases given token <;> simp

theorem isReadable_queryPassage : queryPassage.IsReadable where
  bareName := show Toml.IsBare "query" by decide
  readable := by
    simp only [queryPassage, List.forall_mem_cons, List.not_mem_nil, false_implies, implies_true,
      Toml.Line.isReadable_comment, Toml.Line.isReadable_blank, Toml.Line.isReadable_entry,
      and_true, true_and]
    repeat rw [String.toList_ofList]
    decide +kernel
  distinct := show ["default_limit", "refs_depth", "order_by"].Nodup by decide

theorem isReadable_displayPassage : displayPassage.IsReadable where
  bareName := show Toml.IsBare "display" by decide
  readable := by
    simp only [displayPassage, List.forall_mem_cons, List.not_mem_nil, false_implies, implies_true,
      Toml.Line.isReadable_comment, Toml.Line.isReadable_entry, and_true]
    rw [String.toList_ofList]
    decide
  distinct := show ["colored_output"].Nodup by decide

theorem isReadable_passages (graph token : Option String) :
    ∀ passage ∈ passages graph token, passage.IsReadable := by
  rw [passages, List.forall_mem_cons, List.forall_mem_cons, List.forall_mem_singleton]
  exact ⟨isReadable_graphPassage graph token, isReadable_queryPassage, isReadable_displayPassage⟩

/-- The filled example, line by line.  What would break a line is escaped. -/
theorem splitOn_fill (graph token : Option String) :
    Text.splitOn '\n' (fill exampleText graph token).toList =
      (exampleLines.map (filledLine graph token)).map String.toList ++ [[]] := by
  rw [toList_fill]
  apply Text.splitOn_unlines
  rw [List.forall_mem_map, map_filledLine_eq_passages]
  intro line listed
  exact (Toml.isLegal_layout isReadable_preamble (isReadable_passages graph token) line
    listed).not_mem rfl

/-- The document of the filled example. -/
def document (graph token : Option String) : Toml.Fields :=
  Toml.sectionFields ((passages graph token).map Toml.Passage.sec)

theorem read_fill (graph token : Option String) :
    Toml.read (fill exampleText graph token) = .ok (document graph token) := by
  have layout : (fill exampleText graph token).toList = Toml.linesText
      (preamble.map Toml.Line.write ++ (passages graph token).flatMap Toml.Passage.write) := by
    rw [toList_fill, map_filledLine_eq_passages, Toml.linesText]
  have distinct : ((passages graph token).map Toml.Passage.name).Nodup :=
    show ["graph", "query", "display"].Nodup by decide
  exact Toml.read_passages layout isReadable_preamble (isReadable_passages graph token) distinct

/-! ## The settings of a filled file -/

/-- Settings with the given values, and defaults elsewhere. -/
def givenSettings (graph token : Option String) : Settings :=
  { graphName := given graph, token := given token }

theorem sectionOf_document (graph token : Option String) :
    sectionOf (document graph token) "graph" =
      .table (Toml.Section.fields ⟨"graph", graphEntries graph token⟩) := by
  rw [← sec_graphPassage]
  rfl

theorem lookup_graphEntries (graph token : Option String) :
    let fields := Toml.Section.fields ⟨"graph", graphEntries graph token⟩
    fields.lookup "name" = (given graph).map .string ∧
      fields.lookup "token" = (given token).map .string ∧
      fields.lookup "base_url" = some (.string ({} : Settings).baseUrl) := by
  dsimp only [graphEntries, Toml.Section.fields]
  cases given graph <;> cases given token <;> simp [List.lookup_cons, Toml.Scalar.value]

/-- The document is read as the given values and defaults elsewhere. -/
theorem ofDocument_document (graph token : Option String) :
    ofDocument (document graph token) = .ok (givenSettings graph token) := by
  obtain ⟨name, secret, address⟩ := lookup_graphEntries graph token
  have known := sectionOf_document graph token
  apply ofDocument_of_valueAt?
  · intro key
    cases key with
    | graphName | token | baseUrl =>
        rw [Misread, Key.sectionName, known]
        exact id
    | defaultLimit | refsDepth | order | colored => exact id
  · intro key
    cases key with
    | graphName =>
        rw [valueAt?, Key.sectionName, known, Key.name, fieldOf?, name]
        exact map_string_or_default (given graph)
    | token =>
        rw [valueAt?, Key.sectionName, known, Key.name, fieldOf?, secret]
        exact map_string_or_default (given token)
    | baseUrl =>
        rw [valueAt?, Key.sectionName, known, Key.name, fieldOf?, address]
        exact .inl rfl
    | defaultLimit | refsDepth | order | colored => exact .inl rfl

/-- Settings with defaults apart from the graph and the token are fine. -/
theorem exists_validate_eq_ok (graph token : Option String) :
    ∃ warnings, validate { graphName := graph, token := token } = .ok warnings := by
  have limit : ¬ (({} : Settings).defaultLimit < -1 ∨ ({} : Settings).defaultLimit = 0) := by
    decide
  have depth : ¬ ({} : Settings).refsDepth < 0 := by
    decide
  have address : ({} : Settings).baseUrl.startsWith "https://" := by
    decide +kernel
  unfold validate
  rw [if_neg limit, if_neg depth, if_neg (not_not.mpr (.inr address))]
  split
  · exact ⟨_, rfl⟩
  · exact ⟨_, rfl⟩

theorem exists_ofText_fill (around : Surroundings) (path : Path) (graph token : Option String) :
    ∃ warnings, ofText around path (fill exampleText graph token) =
      .ok ⟨(givenSettings graph token).withEnvironment around.environment, some path,
        warnings⟩ := by
  have document : documentOf path (fill exampleText graph token) = .ok (document graph token) := by
    rw [documentOf, read_fill]
  have read : (ofDocument (Template.document graph token)).mapError LoadError.settings =
      .ok (givenSettings graph token) :=
    mapError_eq_ok_iff.mpr (ofDocument_document graph token)
  obtain ⟨warnings, valid⟩ := exists_validate_eq_ok
    (((around.environment graphVariable).filter (· != "")).or (given graph))
    (((around.environment tokenVariable).filter (· != "")).or (given token))
  refine ⟨warnings, ?_⟩
  have checked : ((givenSettings graph token).withEnvironment around.environment).validate =
      .ok warnings := valid
  rw [ofText, document, ok_bind, read, ok_bind]
  dsimp only
  rw [checked]
  rfl

/-- The filled example is the example with its two placeholders replaced by the lines of the given
values, whatever these hold.  A file of it is loaded as the given values, apart from what the
environment says, and defaults elsewhere. -/
theorem filled_example_loads_as_given (graph token : Option String) :
    exampleLines.count nameLine = 1 ∧ exampleLines.count tokenLine = 1 ∧
      Text.splitOn '\n' (fill exampleText graph token).toList =
        (exampleLines.map (filledLine graph token)).map String.toList ++ [[]] ∧
      ∀ (tag reader : String) (tree later : FileTree) (path : Path) (around : Surroundings)
        (named : Option String),
        (writePrivate (FileTree.system tag) path (fill exampleText graph token)).run.run tree =
          (.ok (), later) →
        settingsPath around named = .ok path →
        ∃ loaded, (load (FileTree.system reader) around named).run.run later =
            (.ok loaded, later) ∧
          loaded.source = some path ∧
          loaded.settings = (givenSettings graph token).withEnvironment around.environment ∧
          (IsSilent around.environment → loaded.settings = givenSettings graph token) := by
  refine ⟨by decide, by decide, splitOn_fill graph token, ?_⟩
  intro tag reader tree later path around named written leads
  obtain ⟨warnings, read⟩ := exists_ofText_fill around path graph token
  have loaded := run_load_of_find reader leads (FileTree.find_of_writePrivate written)
  rw [read] at loaded
  exact ⟨_, loaded, rfl, rfl, fun silent => withEnvironment_of_isSilent silent _⟩

/-- A name that looks like the line of the token and goes on with lines of its own. -/
def hostileName : String := "\n# token = \"roam-graph-token-...\"\nrefs_depth = 9\n"

/-- A token that looks like the line of the name, with a backslash at its end. -/
def hostileToken : String := "# name = \"my-graph\"\r\\"

theorem filled_example_loads_as_given_hostile :
    ∃ later, (writePrivate (FileTree.system "") (defaultPath ⟨["me", "home"]⟩)
        (fill exampleText (some hostileName) (some hostileToken))).run.run [] = (.ok (), later) ∧
      ∃ loaded, (load (FileTree.system "") bareSurroundings none).run.run later =
          (.ok loaded, later) ∧
        loaded.settings = { graphName := some hostileName, token := some hostileToken } := by
  have silent : IsSilent bareSurroundings.environment := by
    unfold IsSilent
    decide
  have values : givenSettings (some hostileName) (some hostileToken) =
      { graphName := some hostileName, token := some hostileToken } := by
    decide +kernel
  have fine : ((writePrivate (FileTree.system "") (defaultPath ⟨["me", "home"]⟩)
      (fill exampleText (some hostileName) (some hostileToken))).run.run []).1 = .ok () := by
    decide +kernel
  rcases run : (writePrivate (FileTree.system "") (defaultPath ⟨["me", "home"]⟩)
    (fill exampleText (some hostileName) (some hostileToken))).run.run [] with ⟨result, later⟩
  rw [run] at fine
  obtain rfl : result = .ok () := fine
  obtain ⟨-, -, -, loads⟩ := filled_example_loads_as_given (some hostileName) (some hostileToken)
  obtain ⟨loaded, read, -, -, same⟩ := loads "" "" [] later _ bareSurroundings none run rfl
  exact ⟨later, rfl, loaded, read, (same silent).trans values⟩

end BlockQuery.Settings.Template
