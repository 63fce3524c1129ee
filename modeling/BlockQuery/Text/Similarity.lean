/-!
# Similarity of words

Two words are as similar as the part of them that lies in common blocks. The
longest common block is taken first, then the blocks to its left and to its right
in the same way. Of two blocks of one length the one further left counts, in the
first word and then in the second.
-/

namespace BlockQuery.Text

/-- The number of characters that two texts have in common at the start. -/
def commonStart : List Char → List Char → Nat
  | a :: as, b :: bs => if a = b then commonStart as bs + 1 else 0
  | _, _ => 0

/-- A block that two texts have in common: where it starts in each of them, and its length. -/
structure CommonBlock where
  first : Nat
  second : Nat
  length : Nat

/-- The longest common block of two texts. -/
def longestBlock (a b : List Char) : CommonBlock :=
  let blocks := (List.range a.length).flatMap fun i =>
    (List.range b.length).map fun j => ⟨i, j, commonStart (a.drop i) (b.drop j)⟩
  blocks.foldl (fun best block => if best.length < block.length then block else best) ⟨0, 0, 0⟩

/-- The number of characters in common blocks. The fuel bounds how often a block is taken out of
both texts; the length of the first text is enough. -/
def blockCharacters : Nat → List Char → List Char → Nat
  | 0, _, _ => 0
  | fuel + 1, a, b =>
    let block := longestBlock a b
    if block.length = 0 then
      0
    else
      block.length + blockCharacters fuel (a.take block.first) (b.take block.second) +
        blockCharacters fuel (a.drop (block.first + block.length))
          (b.drop (block.second + block.length))

/-- The part of two words that lies in common blocks: 0 for words without a common character, 1
for equal words. -/
def similarity (a b : String) : Rat :=
  let (a, b) := (a.toList, b.toList)
  2 * (blockCharacters a.length a b : Rat) / ((a.length + b.length : Nat) : Rat)

/-- The similarity from which on two words are close. -/
def closeSimilarity : Rat := 3 / 5

/-- How many close words are kept. -/
def mostClose : Nat := 3

/-- The words that are closest to the given one, the closest first; of two equally close words the
later one in the alphabet comes first. -/
def closeWords (word : String) (candidates : List String) : List String :=
  let scored := candidates.map fun candidate => (similarity candidate word, candidate)
  let close := scored.filter fun entry => decide (closeSimilarity ≤ entry.1)
  let ranked := close.mergeSort fun s t => decide (t.1 < s.1 ∨ (s.1 = t.1 ∧ ¬ s.2 < t.2))
  (ranked.take mostClose).map Prod.snd

end BlockQuery.Text
