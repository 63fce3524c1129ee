/-!
# Lower case

The vocabulary of the program is ASCII, so only the characters whose lower-case
form is an ASCII letter matter when texts are compared without regard to case:
the capital letters and the Kelvin sign.
-/

namespace BlockQuery.Text

/-- The lower-case form of a character, where that form is an ASCII letter. -/
def lower (c : Char) : Char :=
  if c.toNat = 0x212A then 'k' else c.toLower

/-- The ASCII letters, in either case. -/
def isLetter (c : Char) : Bool :=
  c.isAlpha

end BlockQuery.Text
