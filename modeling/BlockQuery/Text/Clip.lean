import BlockQuery.Text.Blank

/-!
# Clipping

A text is shown on one line and cut to a width; an ellipsis stands for what was
cut off. A width below one counts from the end of the text.
-/

namespace BlockQuery.Text

/-- The mark for what was cut off. -/
def ellipsis : Char := '…'

/-- The first characters of a text. A negative number counts the characters left out. -/
def takeSigned (count : Int) (text : List Char) : List Char :=
  if 0 ≤ count then text.take count.toNat else text.take (text.length - count.natAbs)

/-- The words of a text with one space between them, cut to a width. -/
def clip (width : Int) (text : List Char) : List Char :=
  let line := collapse text
  if (line.length : Int) ≤ width then line else takeSigned (width - 1) line ++ [ellipsis]

/-- A clipped string. -/
def clipString (width : Int) (text : String) : String :=
  String.ofList (clip width text.toList)

end BlockQuery.Text
