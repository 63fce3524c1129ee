import BlockQuery.Proofs.Query.BlockScan
import BlockQuery.Proofs.Query.Canonical
import BlockQuery.Proofs.Query.Leaves
import BlockQuery.Query.Json
import Mathlib.Data.List.Infix

/-!
# Where a block ends

The braces of a block are counted as they stand, and those of a query are also read by
its grammar.  The braces of operators come in pairs.  The texts in a query may hold
any braces, and they are counted like the others: so a block is found as it was
written exactly if the braces of its query leave the frame open up to its end.
-/

namespace BlockQuery.Query

open BlockQuery.Text

/-! ## Braces of a text -/

/-- Whether a character is a brace. -/
def isBrace (c : Char) : Bool :=
  c == '{' || c == '}'

/-- The braces of a text, from left to right. -/
def bracesOf (s : List Char) : List Char :=
  s.filter isBrace

@[simp]
theorem bracesOf_append (first second : List Char) :
    bracesOf (first ++ second) = bracesOf first ++ bracesOf second :=
  List.filter_append _ _

theorem bracesOf_cons_brace {c : Char} (brace : isBrace c) (s : List Char) :
    bracesOf (c :: s) = c :: bracesOf s :=
  List.filter_cons_of_pos brace

theorem bracesOf_cons_other {c : Char} (other : isBrace c = false) (s : List Char) :
    bracesOf (c :: s) = bracesOf s :=
  List.filter_cons_of_neg (by simp [other])

theorem count_bracesOf {c : Char} (brace : isBrace c) (s : List Char) :
    (bracesOf s).count c = s.count c :=
  List.count_filter brace

theorem bracesOf_blanks {s : List Char} (blank : Blanks s) : bracesOf s = [] := by
  rw [bracesOf, List.filter_eq_nil_iff]
  intro c inBlanks brace
  have blankC := List.all_eq_true.mp blank c inBlanks
  simp only [isBrace, Bool.or_eq_true, beq_iff_eq] at brace
  rcases brace with rfl | rfl <;> cases blankC

theorem bracesOf_trim (s : List Char) : bracesOf (trim s) = bracesOf s := by
  rcases exists_trim s with ⟨before, after, beforeBlank, afterBlank, cut⟩
  have whole := congrArg bracesOf cut
  rw [bracesOf_append, bracesOf_append, bracesOf_blanks beforeBlank, bracesOf_blanks afterBlank,
    List.nil_append, List.append_nil] at whole
  exact whole.symm

/-! ## Braces of a query -/

/-- Braces between those of an operator. -/
def enclosed (braces : List Char) : List Char :=
  '{' :: (braces ++ ['}'])

mutual

/-- The braces of a query: those of its operators and those in its texts. -/
def braces : Query → List Char
  | tag text | blockRef text => bracesOf text.toList
  | all children | any children => enclosed (bracesEach children)
  | not child => enclosed (braces child)
  | between start finish => enclosed (bracesOf start.toList ++ bracesOf finish.toList)
  | search text | touchedBy text | createdBy text | editedBy text =>
    enclosed (bracesOf text.toList)
  | dailyNotes => enclosed []

/-- The braces of several queries. -/
def bracesEach : List Query → List Char
  | [] => []
  | child :: children => braces child ++ bracesEach children

end

theorem TagText.bracesOf_eq {text : List Char} {title : String} (tag : TagText text title) :
    bracesOf text = bracesOf title.toList := by
  rcases tag with @⟨inside, _, _, _, _⟩
  rw [String.toList_ofList, bracesOf_trim, bracesOf_cons_other rfl, bracesOf_cons_other rfl,
    bracesOf_append]
  exact List.append_nil _

theorem BlockRefText.bracesOf_eq {text : List Char} {uid : String}
    (blockRef : BlockRefText text uid) : bracesOf text = bracesOf uid.toList := by
  rcases blockRef with @⟨inside, _, _⟩
  rw [String.toList_ofList, bracesOf_trim, bracesOf_cons_other rfl, bracesOf_cons_other rfl,
    bracesOf_append]
  exact List.append_nil _

/-- A quote and the backslash in front of it are no braces. -/
theorem QuotedRest.bracesOf_eq {text value : List Char} (quoted : QuotedRest text value) :
    bracesOf text = bracesOf value := by
  induction quoted with
  | close => rfl
  | quote inner ih =>
      rw [bracesOf_cons_other rfl, bracesOf_cons_other rfl, bracesOf_cons_other rfl, ih]
  | @char c rest value notQuote notEscape inner ih =>
      cases brace : isBrace c with
      | true => rw [bracesOf_cons_brace brace, bracesOf_cons_brace brace, ih]
      | false => rw [bracesOf_cons_other brace, bracesOf_cons_other brace, ih]

theorem QuotedText.bracesOf_eq {text : List Char} {value : String}
    (quoted : QuotedText text value) : bracesOf text = bracesOf value.toList := by
  rcases quoted with ⟨inner⟩
  rw [String.toList_ofList, bracesOf_cons_other rfl, inner.bracesOf_eq]

theorem SearchText.bracesOf_eq {text : List Char} {value : String}
    (searched : SearchText text value) : bracesOf text = bracesOf value.toList := by
  cases searched with
  | quoted quoted => exact quoted.bracesOf_eq
  | plain => rw [String.toList_ofList, bracesOf_trim]

theorem UserText.bracesOf_eq {text : List Char} {user : String} (named : UserText text user) :
    bracesOf text = bracesOf user.toList := by
  cases named with
  | tag tag => exact tag.bracesOf_eq
  | plain => rw [String.toList_ofList, bracesOf_trim]

/-- There are no braces in the name of an operator. -/
theorem SpellsOperator.bracesOf_eq {operator : Operator} {name : List Char}
    (spelled : SpellsOperator operator name) : bracesOf name = [] := by
  rw [bracesOf, List.filter_eq_nil_iff]
  intro c inName brace
  have lowered : c.toLower ∈ operator.name.toList := by
    rw [← spelled]
    exact List.mem_map_of_mem inName
  simp only [isBrace, Bool.or_eq_true, beq_iff_eq] at brace
  revert lowered
  rcases brace with rfl | rfl <;> cases operator <;> decide

mutual

/-- The braces of an expression are those of its query. -/
theorem Expression.bracesOf_eq {text : List Char} {query : Query} :
    Expression text query → bracesOf text = query.braces
  | .tag page => page.bracesOf_eq
  | .blockRef block => block.bracesOf_eq
  | .operator beforeBlank spelled behindBlank startBlank inner finishBlank => by
    rw [← inner.enclosed_bracesOf, bracesOf_cons_brace rfl, bracesOf_append, bracesOf_append,
      bracesOf_append, bracesOf_cons_other rfl, bracesOf_append, bracesOf_append, bracesOf_append,
      bracesOf_blanks beforeBlank, spelled.bracesOf_eq, bracesOf_blanks behindBlank,
      bracesOf_blanks startBlank, bracesOf_blanks finishBlank]
    rfl

theorem Body.enclosed_bracesOf {operator : Operator} {text : List Char} {query : Query} :
    Body operator text query → enclosed (bracesOf text) = query.braces
  | .all inner => congrArg enclosed inner.bracesOf_eq
  | .any inner => congrArg enclosed inner.bracesOf_eq
  | .not inner => congrArg enclosed inner.bracesOf_eq
  | .between startTag blank finishTag => by
    rw [bracesOf_append, bracesOf_append, bracesOf_blanks blank, startTag.bracesOf_eq,
      finishTag.bracesOf_eq]
    rfl
  | .search searched => congrArg enclosed searched.bracesOf_eq
  | .dailyNotes => rfl
  | .touchedBy named => congrArg enclosed named.bracesOf_eq
  | .createdBy named => congrArg enclosed named.bracesOf_eq
  | .editedBy named => congrArg enclosed named.bracesOf_eq

theorem Children.bracesOf_eq {text : List Char} {children : List Query} :
    Children text children → bracesOf text = bracesEach children
  | .one first => by rw [first.bracesOf_eq, bracesEach, bracesEach, List.append_nil]
  | .more first blank rest => by
    rw [bracesOf_append, bracesOf_append, bracesOf_blanks blank, first.bracesOf_eq,
      rest.bracesOf_eq, bracesEach, List.nil_append]

end

end BlockQuery.Query

/-- The braces of a query with its name: those in the name and those of the query. -/
def BlockQuery.NamedQuery.braces (named : BlockQuery.NamedQuery) : List Char :=
  (named.name.toList.flatMap fun name => BlockQuery.Query.bracesOf name.toList) ++
    named.query.braces

namespace BlockQuery.Query

open BlockQuery.Text

theorem NamedText.bracesOf_eq {text : List Char} {named : NamedQuery}
    (derived : NamedText text named) : bracesOf text = named.braces := by
  cases derived with
  | unnamed beforeBlank inner behindBlank =>
      rw [bracesOf_append, bracesOf_append, bracesOf_blanks beforeBlank,
        bracesOf_blanks behindBlank, inner.bracesOf_eq, List.append_nil]
      rfl
  | named beforeBlank quotedName betweenBlank inner behindBlank =>
      rw [bracesOf_append, bracesOf_append, bracesOf_append, bracesOf_append,
        bracesOf_blanks beforeBlank, quotedName.bracesOf_eq, bracesOf_blanks betweenBlank,
        bracesOf_blanks behindBlank, inner.bracesOf_eq, List.append_nil]
      simp [NamedQuery.braces]

/-! ## Pairs of braces -/

/-- There are as many closing braces as opening ones, and at no place more than `ahead` closing
braces too many. -/
structure Paired (ahead : Nat) (s : List Char) : Prop where
  even : s.count '}' = s.count '{'
  front : ∀ front ∈ s.inits, front.count '}' ≤ front.count '{' + ahead

instance (ahead : Nat) (s : List Char) : Decidable (Paired ahead s) :=
  decidable_of_iff
    (s.count '}' = s.count '{' ∧ ∀ front ∈ s.inits, front.count '}' ≤ front.count '{' + ahead)
    ⟨fun ⟨even, front⟩ => ⟨even, front⟩, fun ⟨even, front⟩ => ⟨even, front⟩⟩

section

variable {ahead : Nat} {first second s : List Char}

theorem paired_nil : Paired ahead [] := by
  refine ⟨rfl, ?_⟩
  simp

theorem Paired.mono {more : Nat} (paired : Paired ahead s) (le : ahead ≤ more) :
    Paired more s := by
  refine ⟨paired.even, ?_⟩
  intro front start
  exact Nat.le_trans (paired.front front start) (Nat.add_le_add_left le _)

/-- The start of two texts ends in the first or in the second. -/
theorem mem_inits_append {front : List Char} (start : front ∈ (first ++ second).inits) :
    front ∈ first.inits ∨ ∃ rest ∈ second.inits, front = first ++ rest := by
  simp only [List.mem_inits] at start ⊢
  rcases start with ⟨rest, split⟩
  rcases List.append_eq_append_iff.mp split with ⟨more, rfl, _⟩ | ⟨more, rfl, rfl⟩
  · exact .inl (List.prefix_append _ _)
  · exact .inr ⟨more, List.prefix_append _ _, rfl⟩

theorem Paired.append (before : Paired ahead first) (behind : Paired ahead second) :
    Paired ahead (first ++ second) := by
  have even := before.even
  constructor
  · rw [List.count_append, List.count_append, even, behind.even]
  · intro front start
    rcases mem_inits_append start with inFirst | ⟨rest, inSecond, rfl⟩
    · exact before.front front inFirst
    · have left := behind.front rest inSecond
      rw [List.count_append, List.count_append]
      omega

/-- The braces of an operator make up for one that is closed too early. -/
theorem Paired.enclosed (paired : Paired (ahead + 1) s) : Paired ahead (enclosed s) := by
  have even := paired.even
  have wider : Query.enclosed s = '{' :: s ++ ['}'] := rfl
  rw [wider]
  constructor
  · simp [even]
  · intro front start
    rcases mem_inits_append start with inFirst | ⟨rest, inSecond, rfl⟩
    · cases front with
      | nil => simp
      | cons c front =>
          rw [List.mem_inits, List.cons_prefix_cons] at inFirst
          rcases inFirst with ⟨rfl, inside⟩
          have left := paired.front front ((List.mem_inits _ _).mpr inside)
          simp only [List.count_cons_self, List.count_cons_of_ne (show '{' ≠ '}' by decide)]
          omega
    · have short : rest.count '}' ≤ 1 := ((List.mem_inits _ _).mp inSecond).sublist.count_le _
      simp only [List.count_append, List.count_cons_self,
        List.count_cons_of_ne (show '{' ≠ '}' by decide)]
      omega

/-- Only the braces of a text matter. -/
theorem paired_bracesOf_iff : Paired ahead (bracesOf s) ↔ Paired ahead s := by
  have counts : ∀ t, (bracesOf t).count '}' = t.count '}' ∧ (bracesOf t).count '{' = t.count '{' :=
    fun t => ⟨count_bracesOf rfl t, count_bracesOf rfl t⟩
  constructor
  · rintro ⟨even, ahead⟩
    refine ⟨?_, ?_⟩
    · rwa [(counts s).1, (counts s).2] at even
    · intro front start
      rw [List.mem_inits] at start
      have counted := ahead (bracesOf front) ((List.mem_inits _ _).mpr (start.filter isBrace))
      rwa [(counts front).1, (counts front).2] at counted
  · rintro ⟨even, ahead⟩
    refine ⟨?_, ?_⟩
    · rwa [(counts s).1, (counts s).2]
    · intro front start
      rw [List.mem_inits] at start
      rcases start with ⟨rest, split⟩
      rcases List.filter_eq_append_iff.mp split.symm with ⟨before, behind, rfl, rfl, _⟩
      have counted := ahead before ((List.mem_inits _ _).mpr (List.prefix_append _ _))
      rwa [← (counts before).1, ← (counts before).2] at counted

end

/-- The two braces of a frame are closed at its end and not before, if the text in it never
closes both of them. -/
theorem closes_frameEnd_iff {text : List Char} :
    Closes 2 (text ++ frameEnd) ↔ Paired 1 text := by
  have ending : frameEnd.count '}' = 2 ∧ frameEnd.count '{' = 0 := by decide
  constructor
  · rintro ⟨ends, early⟩
    refine ⟨?_, ?_⟩
    · rw [List.count_append, List.count_append] at ends
      omega
    · intro front start
      rcases (List.mem_inits _ _).mp start with ⟨rest, rfl⟩
      have counted := early front (rest ++ frameEnd) (List.append_assoc _ _ _) (by simp [frameEnd])
      omega
  · rintro ⟨even, ahead⟩
    constructor
    · rw [List.count_append, List.count_append]
      omega
    · intro front tail split left
      rcases List.append_eq_append_iff.mp split with ⟨more, rfl, cut⟩ | ⟨more, rfl, _⟩
      · -- all of the text and at most one of the braces behind it
        have short : more.count '}' < 2 := by
          have size := congrArg List.length cut
          have positive := List.length_pos_iff.mpr left
          have bound : more.count '}' ≤ more.length := List.count_le_length
          simp only [List.length_append, frameEnd, List.length_cons, List.length_nil] at size
          omega
        rw [List.count_append, List.count_append]
        omega
      · have counted := ahead front ((List.mem_inits _ _).mpr (List.prefix_append _ _))
        omega

/-! ## Texts of a query -/

/-- The texts in a query, from left to right. -/
def texts (query : Query) : List String :=
  query.leaves.flatMap fun leaf => leaf.payload.map Prod.snd

mutual

/-- If the braces of every text in a query come in pairs, then so do those of the query. -/
theorem paired_braces : ∀ query : Query,
    (∀ leaf ∈ query.leaves, ∀ entry ∈ leaf.payload, Paired 0 entry.2.toList) →
      Paired 0 query.braces
  | tag _, each | blockRef _, each => by
    have text := each _ List.mem_cons_self _ List.mem_cons_self
    exact paired_bracesOf_iff.mpr text
  | all children, each | any children, each =>
    ((paired_bracesEach children each).mono (Nat.zero_le 1)).enclosed
  | not child, each => ((paired_braces child each).mono (Nat.zero_le 1)).enclosed
  | between _ _, each => by
    have dates := each _ List.mem_cons_self
    have start := paired_bracesOf_iff.mpr (dates _ List.mem_cons_self)
    have finish := paired_bracesOf_iff.mpr
      (dates _ (List.mem_cons_of_mem _ List.mem_cons_self))
    exact ((start.append finish).mono (Nat.zero_le 1)).enclosed
  | search _, each | touchedBy _, each | createdBy _, each | editedBy _, each => by
    have text := each _ List.mem_cons_self _ List.mem_cons_self
    exact ((paired_bracesOf_iff.mpr text).mono (Nat.zero_le 1)).enclosed
  | dailyNotes, _ => paired_nil.enclosed

theorem paired_bracesEach : ∀ children : List Query,
    (∀ leaf ∈ leavesEach children, ∀ entry ∈ leaf.payload, Paired 0 entry.2.toList) →
      Paired 0 (bracesEach children)
  | [], _ => paired_nil
  | child :: children, each => by
    have first := paired_braces child fun leaf inFirst =>
      each leaf (List.mem_append_left _ inFirst)
    have rest := paired_bracesEach children fun leaf inRest =>
      each leaf (List.mem_append_right _ inRest)
    exact first.append rest

end

end BlockQuery.Query

/-- The texts of a query with its name. -/
def BlockQuery.NamedQuery.texts (named : BlockQuery.NamedQuery) : List String :=
  named.name.toList ++ named.query.texts

namespace BlockQuery.Query

open BlockQuery.Text

theorem paired_braces_named {named : NamedQuery}
    (each : ∀ text ∈ named.texts, Paired 0 text.toList) : Paired 0 named.braces := by
  have query : Paired 0 named.query.braces := by
    apply paired_braces
    intro leaf inQuery entry inLeaf
    apply each
    apply List.mem_append_right
    exact List.mem_flatMap.mpr ⟨leaf, inQuery, List.mem_map_of_mem inLeaf⟩
  apply Paired.append _ query
  cases found : named.name with
  | none => exact paired_nil
  | some name =>
      have text := each name (List.mem_append_left _ (by simp [found]))
      simpa using paired_bracesOf_iff.mpr text

/-! ## Blocks -/

/-- A text that starts and ends like a frame is a frame. -/
theorem exists_framed {s : List Char} (opens : frameStart <+: s) (closes : frameEnd <:+ s) :
    ∃ text, s = framed text := by
  rcases opens with ⟨inside, rfl⟩
  rcases closes with ⟨front, split⟩
  rcases List.append_eq_append_iff.mp split with ⟨shared, opening, closing⟩ | ⟨text, _, rfl⟩
  · -- the opening and the end of a frame have no character in common
    cases shared with
    | nil => exact ⟨[], congrArg (frameStart ++ ·) closing.symm⟩
    | cons c shared =>
        have inStart : c ∈ frameStart := by
          rw [opening]
          exact List.mem_append_right _ List.mem_cons_self
        have inEnd : c ∈ frameEnd := by
          rw [closing]
          exact List.mem_cons_self
        simp only [frameEnd, List.mem_cons, List.not_mem_nil, or_false, or_self] at inEnd
        subst inEnd
        exact absurd inStart (by decide)
  · exact ⟨text, rfl⟩

/-- Behind the brace of an operator stands a name. -/
theorem Expression.not_braces {text : List Char} {query : Query} (derived : Expression text query)
    (rest behind : List Char) : text ++ behind ≠ '{' :: '{' :: rest := by
  intro split
  cases derived with
  | tag page =>
      cases page
      cases split
  | blockRef block =>
      cases block
      cases split
  | @operator _ before name _ _ _ _ _ beforeBlank spelled =>
      rw [List.cons_append, List.cons.injEq, List.append_assoc, List.append_assoc] at split
      have trimmed := congrArg trimLeft split.2
      rw [trimLeft_append_solid beforeBlank (spelled.solid.append _)] at trimmed
      have noBrace := spelled.bracesOf_eq
      cases name with
      | nil => exact absurd rfl spelled.solid.ne_nil
      | cons c name =>
          have brace : c = '{' := (List.cons.inj trimmed).1
          rw [brace, bracesOf_cons_brace rfl] at noBrace
          cases noBrace

/-- A frame with nothing in it is no query. -/
theorem ne_nil_of_framed {text : List Char} {named : NamedQuery}
    (derived : NamedText (expressionText (framed text)) named) : text ≠ [] := by
  rintro rfl
  have whole : trimLeft (expressionText (framed [])) = framed [] := by decide
  generalize expressionText (framed []) = written at derived whole
  cases derived with
  | unnamed beforeBlank inner =>
      rw [trimLeft_append_solid beforeBlank (inner.solid.append _)] at whole
      exact inner.not_braces _ _ whole
  | named beforeBlank quotedName =>
      rw [trimLeft_append_solid beforeBlank (quotedName.solid.append _)] at whole
      cases quotedName
      cases whole

/-- A query is found as it was written exactly if its braces leave the frame open up to its
end. -/
theorem blocksIn_framed_iff {before text after : List Char} {named : NamedQuery}
    (derived : NamedText (expressionText (framed text)) named)
    (clearBefore : ¬ frameStart <:+: before) (clearAfter : ¬ frameStart <:+: after) :
    blocksIn (before ++ (framed text ++ after)) = [framed text] ↔ Paired 1 named.braces := by
  have inner := derived
  rw [expressionText_framed (ne_nil_of_framed derived)] at inner
  rw [framed, List.append_assoc, blocksIn_eq_singleton_iff clearBefore clearAfter,
    closes_frameEnd_iff, ← inner.bracesOf_eq, bracesOf_trim, paired_bracesOf_iff]

theorem blocks_eq_singleton_iff {document block : String} :
    blocks document = [block] ↔ blocksIn document.toList = [block.toList] := by
  rw [blocks, List.map_eq_singleton_iff]
  constructor
  · rintro ⟨found, same, rfl⟩
    rw [String.toList_ofList, same]
  · intro same
    exact ⟨block.toList, same, String.ofList_toList⟩

/-- A query block between texts without openings is found as it was written exactly if the
braces of its query leave the frame open up to its end.  They do if the braces of every text in
the query come in pairs. -/
theorem blocks_finds_written_iff (before block after : String) (named : NamedQuery)
    (opens : frameStart <+: block.toList) (closes : frameEnd <:+ block.toList)
    (parsed : parse block = .ok named) (clearBefore : ¬ frameStart <:+: before.toList)
    (clearAfter : ¬ frameStart <:+: after.toList) :
    (blocks (before ++ block ++ after) = [block] ↔ Paired 1 named.braces) ∧
      ((∀ text ∈ named.texts, Paired 0 text.toList) →
        blocks (before ++ block ++ after) = [block]) := by
  rcases exists_framed opens closes with ⟨text, written⟩
  rw [parse_eq_ok_iff_readNamed, readNamed_eq_ok_iff_namedText, written] at parsed
  have exact_iff : blocks (before ++ block ++ after) = [block] ↔ Paired 1 named.braces := by
    rw [blocks_eq_singleton_iff, String.toList_append, String.toList_append, written,
      List.append_assoc, blocksIn_framed_iff parsed clearBefore clearAfter]
  refine ⟨exact_iff, ?_⟩
  intro each
  exact exact_iff.mpr ((paired_braces_named each).mono (Nat.zero_le 1))

/-! ## Braces in texts -/

theorem frameStart_canonicalBlock (named : NamedQuery) :
    frameStart <+: (canonicalBlock named).toList := by
  rw [canonicalBlock, String.toList_ofList]
  exact List.prefix_append _ _

theorem frameEnd_canonicalBlock (named : NamedQuery) :
    frameEnd <:+ (canonicalBlock named).toList := by
  rw [canonicalBlock, String.toList_ofList]
  exact (List.suffix_append _ _).trans (List.suffix_append _ _)

/-- A query with braces in its name and in its texts. -/
def braced : NamedQuery :=
  ⟨.all [.tag "\x7ba\x7d", .search "\x7d \x7b"], some "\x7bopen\x7d"⟩

theorem braced_wellFormed : braced.WellFormed := by
  refine ⟨⟨by simp, ⟨⟨by decide, by decide⟩, by decide⟩, .inl (by decide), trivial⟩, ?_⟩
  rintro _ ⟨⟩
  decide

theorem blocks_finds_written_iff_braced :
    parse (canonicalBlock braced) = .ok braced ∧ Paired 1 braced.braces ∧
      blocks ("a " ++ canonicalBlock braced ++ " b") = [canonicalBlock braced] := by
  have parsed := parse_canonicalBlock braced_wellFormed
  have paired : Paired 1 braced.braces := by decide
  refine ⟨parsed, paired, ?_⟩
  exact (blocks_finds_written_iff "a " (canonicalBlock braced) " b" braced
    (frameStart_canonicalBlock braced) (frameEnd_canonicalBlock braced) parsed (by decide)
    (by decide)).1.mpr paired

/-- A search for a closing brace. -/
def closing : NamedQuery :=
  ⟨.search "\x7d", none⟩

theorem closing_wellFormed : closing.WellFormed := by
  refine ⟨.inl (by decide), ?_⟩
  rintro _ ⟨⟩

/-- The brace in a text closes the block too early. -/
theorem blocks_closing_ne :
    frameStart <+: (canonicalBlock closing).toList ∧
      frameEnd <:+ (canonicalBlock closing).toList ∧
      parse (canonicalBlock closing) = .ok closing ∧
      blocks (canonicalBlock closing) ≠ [canonicalBlock closing] := by
  have parsed := parse_canonicalBlock closing_wellFormed
  refine ⟨frameStart_canonicalBlock closing, frameEnd_canonicalBlock closing, parsed, ?_⟩
  rw [parse_eq_ok_iff_readNamed, readNamed_eq_ok_iff_namedText, canonicalBlock,
    String.toList_ofList] at parsed
  have clear : ¬ frameStart <:+: [] := by decide
  have found := blocksIn_framed_iff parsed clear clear
  rw [List.nil_append, List.append_nil] at found
  rw [Ne, blocks_eq_singleton_iff, canonicalBlock, String.toList_ofList, found]
  decide

end BlockQuery.Query
