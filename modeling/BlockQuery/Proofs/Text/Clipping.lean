import BlockQuery.Proofs.Text.Blank
import BlockQuery.Proofs.Text.Words
import BlockQuery.Text.Clip
import Mathlib.Data.List.Chain

/-!
# Clipped texts

A tidy text has no blanks but single spaces between its words.  The tidy texts are
those that collapsing leaves alone.  A tidy text that is cut anywhere and goes on with
the ellipsis is tidy again: a space at the cut then stands between a word and the
ellipsis.  Clipping a text twice is therefore the same as clipping it once.
-/

namespace BlockQuery.Text

/-! ## Tidy texts -/

/-- A text whose blanks are spaces, none of them at an end or beside another one. -/
structure IsTidy (s : List Char) : Prop where
  spaces : ∀ c ∈ s, isBlank c → c = ' '
  start : SolidStart s
  finish : ∀ c ∈ s.getLast?, isBlank c = false
  single : s.IsChain fun c d => isBlank c → isBlank d = false

theorem isTidy_nil : IsTidy [] where
  spaces _ inText := absurd inText List.not_mem_nil
  start _ first := by cases first
  finish _ last := by cases last
  single := .nil

theorem IsWord.isTidy {word : List Char} (isWord : IsWord word) : IsTidy word where
  spaces c inWord blank := by
    rw [isWord.solid c inWord] at blank
    cases blank
  start c first := isWord.solid c (List.mem_of_mem_head? first)
  finish c last := isWord.solid c (List.mem_of_mem_getLast? last)
  single := by
    apply List.Pairwise.isChain
    rw [List.pairwise_iff_forall_sublist]
    intro c d pair _
    exact isWord.solid d (pair.subset (by simp))

/-- A word goes in front of a tidy text with a space between them. -/
theorem IsTidy.word_append {word s : List Char} (isWord : IsWord word) (tidy : IsTidy s)
    (nonempty : s ≠ []) : IsTidy (word ++ ' ' :: s) where
  spaces c inText blank := by
    rw [List.mem_append, List.mem_cons] at inText
    obtain inWord | here | inRest := inText
    · exact isWord.isTidy.spaces c inWord blank
    · exact here
    · exact tidy.spaces c inRest blank
  start c first := by
    rw [List.head?_append_of_ne_nil word isWord.nonempty] at first
    exact isWord.isTidy.start c first
  finish c last := by
    apply tidy.finish c
    rwa [List.getLast?_append_of_ne_nil _ (List.cons_ne_nil _ _),
      List.getLast?_cons_of_ne_nil nonempty] at last
  single := by
    rw [List.isChain_append, List.isChain_cons]
    refine ⟨isWord.isTidy.single, ⟨fun d first _ => tidy.start d first, tidy.single⟩, ?_⟩
    intro c last d _ blank
    rw [isWord.isTidy.finish c last] at blank
    cases blank

theorem isTidy_intercalate {texts : List (List Char)} (each : ∀ text ∈ texts, IsWord text) :
    IsTidy ([' '].intercalate texts) := by
  induction texts with
  | nil => exact isTidy_nil
  | cons text texts ih =>
      rw [List.forall_mem_cons] at each
      cases texts with
      | nil =>
          rw [List.intercalate_singleton]
          exact each.1.isTidy
      | cons next texts =>
          have rest := ih each.2
          rw [List.intercalate_cons_cons, List.append_assoc, List.singleton_append]
          apply rest.word_append each.1
          intro empty
          have inside : ([] : List (List Char)) = next :: texts := by
            rw [← flatMap_words each.2, ← words_intercalate, empty, words_nil]
          cases inside

theorem isTidy_collapse (s : List Char) : IsTidy (collapse s) :=
  isTidy_intercalate fun _ => isWord_of_mem_words

theorem IsTidy.of_append {front s : List Char} (tidy : IsTidy (front ++ s)) (solid : SolidStart s) :
    IsTidy s where
  spaces c inText := tidy.spaces c (List.mem_append_right front inText)
  start := solid
  finish c last := by
    apply tidy.finish c
    rw [List.getLast?_append, last, Option.some_or]
    rfl
  single := (List.isChain_append.mp tidy.single).2.1

theorem isWord_singleton {c : Char} (solid : isBlank c = false) : IsWord [c] :=
  ⟨List.cons_ne_nil c [], by simpa using solid⟩

/-- Collapsing leaves a tidy text alone.  The recursion goes from each character that is not blank
to the next one. -/
theorem IsTidy.collapse_eq {s : List Char} (tidy : IsTidy s) : collapse s = s := by
  match s with
  | [] => rfl
  | [c] =>
      rw [collapse, words_singleton (tidy.start c rfl), List.intercalate_singleton]
  | [c, d] =>
      have solid : SolidStart [d] := by
        rintro _ ⟨⟩
        exact tidy.finish d rfl
      have shorter : IsTidy ([c] ++ [d]) := tidy
      have joined := collapse_append_solid (isWord_singleton (tidy.start c rfl)) (solid d rfl) []
      rwa [(shorter.of_append solid).collapse_eq] at joined
  | c :: d :: e :: rest =>
      have isWord := isWord_singleton (tidy.start c rfl)
      cases next : isBlank d with
      | false =>
          have solid : SolidStart (d :: e :: rest) := by
            rintro _ ⟨⟩
            exact next
          have shorter : IsTidy ([c] ++ d :: e :: rest) := tidy
          have joined := collapse_append_solid isWord next (e :: rest)
          rwa [(shorter.of_append solid).collapse_eq] at joined
      | true =>
          obtain rfl : d = ' ' := tidy.spaces d (by simp) next
          have solid : SolidStart (e :: rest) := by
            rintro _ ⟨⟩
            exact (List.isChain_cons_cons.mp (List.isChain_cons_cons.mp tidy.single).2).1 next
          have shorter : IsTidy ([c, ' '] ++ e :: rest) := tidy
          have joined := collapse_append_blanks isWord (solid e rfl) rest
            (List.cons_ne_nil ' ' []) (by simpa using next)
          rwa [(shorter.of_append solid).collapse_eq] at joined

theorem collapse_collapse (s : List Char) : collapse (collapse s) = collapse s :=
  (isTidy_collapse s).collapse_eq

/-! ## Clipping -/

theorem isBlank_ellipsis : isBlank ellipsis = false := by
  decide

/-- A tidy text that is cut goes on with the ellipsis as a tidy text. -/
theorem IsTidy.take_append_ellipsis {s : List Char} (tidy : IsTidy s) (count : Nat) :
    IsTidy (s.take count ++ [ellipsis]) where
  spaces c inText blank := by
    rw [List.mem_append, List.mem_singleton] at inText
    obtain kept | rfl := inText
    · exact tidy.spaces c (List.mem_of_mem_take kept) blank
    · rw [isBlank_ellipsis] at blank
      cases blank
  start c first := by
    rw [List.head?_append, Option.mem_def, Option.or_eq_some_iff] at first
    obtain kept | ⟨-, here⟩ := first
    · apply tidy.start c
      rw [List.head?_take] at kept
      split at kept
      · cases kept
      · exact kept
    · cases here
      exact isBlank_ellipsis
  finish c last := by
    rw [List.getLast?_concat] at last
    cases last
    exact isBlank_ellipsis
  single := by
    rw [List.isChain_append]
    refine ⟨tidy.single.take count, .singleton _, ?_⟩
    rintro c - _ ⟨⟩ -
    exact isBlank_ellipsis

section

variable {width : Int} (text : List Char)

/-- A line that fits is left as it is. -/
theorem clip_of_le (fits : ((collapse text).length : Int) ≤ width) :
    clip width text = collapse text :=
  if_pos fits

/-- A line that does not fit gives its last place to the ellipsis. -/
theorem clip_of_lt (positive : 1 ≤ width) (long : width < (collapse text).length) :
    clip width text = (collapse text).take (width - 1).toNat ++ [ellipsis] := by
  have counted : takeSigned (width - 1) (collapse text) =
      (collapse text).take (width - 1).toNat := if_pos (by omega)
  unfold clip
  dsimp only
  rw [if_neg (Int.not_le.mpr long), counted]

theorem length_clip_le (positive : 1 ≤ width) : ((clip width text).length : Int) ≤ width := by
  rcases Int.lt_or_le width (collapse text).length with long | fits
  · rw [clip_of_lt text positive long, List.length_append, List.length_singleton, List.length_take]
    omega
  · rwa [clip_of_le text fits]

theorem isTidy_clip (positive : 1 ≤ width) : IsTidy (clip width text) := by
  rcases Int.lt_or_le width (collapse text).length with long | fits
  · rw [clip_of_lt text positive long]
    exact (isTidy_collapse text).take_append_ellipsis _
  · rw [clip_of_le text fits]
    exact isTidy_collapse text

/-- A clipped text is tidy and fits. -/
theorem clip_clip (positive : 1 ≤ width) : clip width (clip width text) = clip width text := by
  have same := (isTidy_clip text positive).collapse_eq
  have short := length_clip_le text positive
  rw [← same] at short
  rw [clip_of_le _ short, same]

end

/-- What is clipped is the line of the text's words. -/
theorem clip_congr {text other : List Char} (same : collapse other = collapse text) (width : Int) :
    clip width other = clip width text := by
  unfold clip
  rw [same]

/-! ## Strings -/

theorem toList_collapseString (text : String) :
    (collapseString text).toList = collapse text.toList :=
  String.toList_ofList

theorem toList_clipString (width : Int) (text : String) :
    (clipString width text).toList = clip width text.toList :=
  String.toList_ofList

/-- Clipping to a width of at least one gives a tidy text of at most that width: the line of all
words if it fits, and otherwise the start of that line and the ellipsis.  It depends on the line
only and changes nothing the second time. -/
theorem clipString_bounded_tidy_idempotent {width : Int} (positive : 1 ≤ width) (text : String) :
    ((clipString width text).length : Int) ≤ width ∧
      IsTidy (clipString width text).toList ∧
      (((collapseString text).length : Int) ≤ width →
        clipString width text = collapseString text) ∧
      (width < (collapseString text).length →
        (clipString width text).toList =
          (collapseString text).toList.take (width - 1).toNat ++ [ellipsis]) ∧
      clipString width (collapseString text) = clipString width text ∧
      (∀ other, collapseString other = collapseString text →
        clipString width other = clipString width text) ∧
      clipString width (clipString width text) = clipString width text := by
  have line := toList_collapseString text
  have clipped := toList_clipString width text
  rw [← String.length_toList, ← String.length_toList, clipped, line]
  refine ⟨length_clip_le _ positive, isTidy_clip _ positive, ?_, clip_of_lt _ positive, ?_, ?_, ?_⟩
  · intro fits
    rw [clipString, clip_of_le _ fits, collapseString]
  · rw [clipString, line, clip_congr (collapse_collapse _), clipString]
  · intro other same
    have lines : collapse other.toList = collapse text.toList := by
      rw [← toList_collapseString, same, line]
    rw [clipString, clip_congr lines, clipString]
  · rw [clipString, clipped, clip_clip _ positive, clipString]

/-- Three words with blanks of several kinds around them, cut behind a space. -/
theorem clipString_bounded_tidy_idempotent_behindSpace :
    clipString 5 "\u2003one\t\n two\u00a0red " = "one …" ∧
      clipString 5 (clipString 5 "\u2003one\t\n two\u00a0red ") =
        clipString 5 "\u2003one\t\n two\u00a0red " :=
  ⟨by decide +kernel,
    (clipString_bounded_tidy_idempotent (by decide) "\u2003one\t\n two\u00a0red ").2.2.2.2.2.2⟩

end BlockQuery.Text
