import BlockQuery.Terminal.Color
import BlockQuery.Text.Blank

/-!
# Styles

A style is written as words: attributes, which `not` turns off, a colour, a
background behind `on`, and a target behind `link`. Styles that are written
differently but have the same effect have the same normal form.
-/

namespace BlockQuery.Terminal

/-- What can be turned on or off in a style. -/
inductive Attribute
  | bold | dim | italic | underline | blink | blink2 | reverse | conceal | strike | underline2
  | frame | encircle | overline
deriving DecidableEq, Repr

namespace Attribute

/-- The attributes, in the order in which they are written, with their names. The first name is the
one that is written. -/
def every : List (Attribute × List String) :=
  [(bold, ["bold", "b"]), (dim, ["dim", "d"]), (italic, ["italic", "i"]),
    (underline, ["underline", "u"]), (blink, ["blink"]), (blink2, ["blink2"]),
    (reverse, ["reverse", "r"]), (conceal, ["conceal", "c"]), (strike, ["strike", "s"]),
    (underline2, ["underline2", "uu"]), (frame, ["frame"]), (encircle, ["encircle"]),
    (overline, ["overline", "o"])]

/-- The attribute of a name. -/
def ofName? (name : String) : Option Attribute :=
  (every.find? fun entry => entry.2.contains name).map Prod.fst

end Attribute

/-- What a text looks like. -/
structure Style where
  /-- The attributes that are turned on or off, the last one first. -/
  attributes : List (Attribute × Bool) := []
  color : Option String := none
  background : Option String := none
  link : Option String := none

namespace Style

/-- Adds the meaning of words to a style. -/
def addWords (style : Style) : List (List Char) → Except StyleError Style
  | [] => .ok style
  | word :: rest =>
    match String.ofList (Text.lowerCase word), rest with
    | "on", color :: rest => do
      addWords { style with background := some (← readColor color) } rest
    | "not", name :: rest =>
      match Attribute.ofName? (String.ofList name) with
      | some attr => addWords { style with attributes := (attr, false) :: style.attributes } rest
      | none => .error .unknownWord
    | "link", target :: rest => addWords { style with link := some (String.ofList target) } rest
    | "on", [] | "not", [] | "link", [] => .error .unknownWord
    | name, rest =>
      match Attribute.ofName? name with
      | some attr => addWords { style with attributes := (attr, true) :: style.attributes } rest
      | none => do
        addWords { style with color := some (← readColor word) } rest

/-- Reads a style. The word `none` alone stands for the style without any effect. -/
def read (text : List Char) : Except StyleError Style :=
  match Text.words text with
  | [['n', 'o', 'n', 'e']] => .ok {}
  | words => addWords {} words

/-- A style in its normal form. -/
def text (style : Style) : String :=
  let attributes := Attribute.every.filterMap fun (attr, names) =>
    (style.attributes.lookup attr).map fun isOn =>
      if isOn then names.headD "" else "not " ++ names.headD ""
  let words := attributes ++ style.color.toList ++
    (style.background.map ("on " ++ ·)).toList ++ (style.link.map ("link " ++ ·)).toList
  if words.isEmpty then "none" else " ".intercalate words

end Style

/-- The normal form of a style, or the text itself in small letters if it is no style. -/
def normalStyle (text : List Char) : Except StyleError String :=
  match Style.read text with
  | .ok style => .ok style.text
  | .error .unknownWord => .ok (String.ofList (Text.lowerCase (Text.trim text)))
  | .error .notNumber => .error .notNumber

end BlockQuery.Terminal
