import BlockQuery.Query.Framing
import BlockQuery.Text.Letter

/-!
# Query blocks in documents

Blocks are found from left to right. After the opening of a block its braces are
counted, so that the braces of operators inside the query do not end it early.
An opening whose braces never balance takes the rest of the document with it.
-/

namespace BlockQuery.Query

open BlockQuery.Text

/-- The text up to the brace that brings `depth + 1` open braces to zero, and what
follows. -/
def balanced : Nat → List Char → Option (List Char × List Char)
  | _, [] => none
  | depth, c :: rest =>
    if c = '{' then
      (balanced (depth + 1) rest).map fun (body, after) => (c :: body, after)
    else if c = '}' then
      match depth with
      | 0 => some ([c], rest)
      | depth + 1 => (balanced depth rest).map fun (body, after) => (c :: body, after)
    else
      (balanced depth rest).map fun (body, after) => (c :: body, after)

theorem balanced_length {depth : Nat} {s body rest : List Char}
    (found : balanced depth s = some (body, rest)) : rest.length < s.length := by
  fun_induction balanced depth s generalizing body rest with
  | case1 => simp at found
  | case3 => simp at found; simp [← found.2]
  | case2 _ _ ih | case4 _ _ _ ih | case5 _ _ _ _ _ ih =>
    obtain ⟨⟨inner, after⟩, inner_found, pair_eq⟩ := Option.map_eq_some_iff.1 found
    cases pair_eq
    have := ih inner_found
    simp only [List.length_cons]
    omega

theorem length_of_dropStart? {start text after : List Char}
    (found : dropStart? start text = some after) : after.length ≤ text.length := by
  rw [dropStart?_eq_some_iff.mp found, List.length_append]
  exact Nat.le_add_left _ _

/-- The query blocks of a document, as they stand in it. -/
def blocksIn (text : List Char) : List (List Char) :=
  match text with
  | [] => []
  | c :: rest =>
    match opened : dropStart? frameStart (c :: rest) with
    | none => blocksIn rest
    | some inside =>
      match closed : balanced 1 inside with
      | none => []
      | some (body, after) =>
        have : after.length < (c :: rest).length :=
          Nat.lt_of_lt_of_le (balanced_length closed) (length_of_dropStart? opened)
        (frameStart ++ body) :: blocksIn after
termination_by text.length
decreasing_by
  · exact Nat.lt_succ_self _
  · exact this

/-- The query blocks of a document. -/
def blocks (text : String) : List String :=
  (blocksIn text.toList).map String.ofList

/-- Whether a text starts, after blanks, with the opening of a query block in any
letter case. -/
def isBlock (text : String) : Bool :=
  frameStart.isPrefixOf ((trimLeft text.toList).map lower)

end BlockQuery.Query
