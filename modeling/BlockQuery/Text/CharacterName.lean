import BlockQuery.Text.CharacterName.Alphabets
import BlockQuery.Text.CharacterName.OldScripts
import BlockQuery.Text.CharacterName.Pictures
import BlockQuery.Text.CharacterName.Signs
import BlockQuery.Text.CharacterName.Syllabaries
import BlockQuery.Text.Digit
import BlockQuery.Text.Find

/-!
# Names of characters

Every character has a name, and some have others beside it. Most names are listed;
the names of ideographs, of Hangul syllables and of a few other characters follow
rules. Small letters count as capital ones, apart from ideographs and syllables.
-/

namespace BlockQuery.Text

namespace CharacterName

/-- The names of controls, abbreviations, and corrected names. -/
def others : List String :=
  [":ACK,ACKNOWLEDGE,ALERT,ALM,APC,APPLICATION PROGRAM COMMAND,BACKSPACE,BEL,BOM,BPH,",
    "BREAK PERMITTED HERE,BS,BYTE ORDER MARK,BYZANTINE MUSICAL SYMBOL FTHORA SKLIRON CHROMA VASIS,",
    "CAN,CANCEL,CANCEL CHARACTER,CARRIAGE RETURN,CCH,CGJ,CHARACTER TABULATION,",
    "CONTROL SEQUENCE INTRODUCER,CR,CSI,DATA LINK ESCAPE,DC1~4,DCS,DEL,DELETE,DLE,ENQ,ENQUIRY,EOL,",
    "EOM,EOT,EPA,ESA,ESC,ESCAPE,ETB,ETX,FF,FILE SEPARATOR,FORM FEED,FS,FSI,FVS1~4,GROUP SEPARATOR,",
    "GS,HENTAIGANA LETTER E-1,HIGH OCTET PRESET,HOP,HORIZONTAL TABULATION,HT,HTJ,HTS,IND,INDEX,",
    "KANNADA LETTER LLLA,LEFTWARDS TRIANGLE-HEADED ARROW WITH DOUBLE VERTICAL STROKE,LF,LRE,LRI,",
    "LRM,LRO,MESSAGE WAITING,MMSP,MVS,MW,MYANMAR LETTER KHAMTI LLA,NAK,NBH,NBSP,",
    "NEGATIVE ACKNOWLEDGE,NEL,NEW LINE,NEXT LINE,NL,NNBSP,NO BREAK HERE,NUL,NULL,",
    "OPERATING SYSTEM COMMAND,OSC,PAD,PADDING CHARACTER,PDF,PDI,PLD,PLU,PM,",
    "PRESENTATION FORM FOR VERTICAL RIGHT WHITE LENTICULAR BRACKET,PRIVACY MESSAGE,PU1,PU2,",
    "RECORD SEPARATOR,RI,RIGHTWARDS TRIANGLE-HEADED ARROW WITH DOUBLE VERTICAL STROKE,RLE,RLI,RLM,",
    "RLO,RS,SCI,SET TRANSMIT STATE,SGC,SHY,SI,SINGLE-SHIFT-2,SINGLE-SHIFT-3,SO,SOH,SOS,SP,SPA,SS2,",
    "SS3,SSA,ST,STRING TERMINATOR,STS,STX,SUB,SUBSTITUTE,SYN,SYNCHRONOUS IDLE,",
    "SYRIAC SUBLINEAR COLON SKEWED LEFT,TAB,TIBETAN MARK BKA- SHOG GI MGO RGYAN,UNIT SEPARATOR,US,",
    "VS100~256,VS10~99,VS1~9,VT,VTS,WEIERSTRASS ELLIPTIC FUNCTION,WJ,YI SYLLABLE ITERATION MARK,",
    "ZWJ,ZWNBSP,ZWNJ,ZWSP;CHARACTER TABULATION :SET,WITH JUSTIFICATION;",
    "CUNEIFORM SIGN NU11 :OVER NU11 BUR OVER BUR,TENU;DEVICE CONTROL :FOUR,ONE,STRING,THREE,TWO;",
    "END OF :GUARDED AREA,LINE,MEDIUM,PROTECTED AREA,SELECTED AREA,TEXT,TRANSMISSION,",
    "TRANSMISSION BLOCK;HANGUL JONGSEONG :SSANGYESIEUNG,YESIEUNG-KHIEUKH,YESIEUNG-KIYEOK,",
    "YESIEUNG-SSANGKIYEOK;HORIZONTAL TABULATION :SET,WITH JUSTIFICATION;",
    "INFORMATION SEPARATOR :FOUR,ONE,THREE,TWO;LAO LETTER :FO FAY,FO FON,LO,RO;",
    "LATIN :CAPITAL LETTER GHA,SMALL LETTER GHA;LINE :FEED,TABULATION,TABULATION SET;",
    "LOCKING-SHIFT :ONE,ZERO;MEDEFAIDRIN CAPITAL LETTER :H,NG;MEDEFAIDRIN SMALL LETTER :H,NG;",
    "MICR :DASH SYMBOL,ON US SYMBOL;PARTIAL LINE :BACKWARD,DOWN,FORWARD,UP;PRIVATE :USE ONE,",
    "USE TWO,USE-1,USE-2;REVERSE :INDEX,LINE FEED;SHIFT :IN,OUT;SINGLE :CHARACTER INTRODUCER,",
    "GRAPHIC CHARACTER INTRODUCER,SHIFT THREE,SHIFT TWO;START OF :GUARDED AREA,HEADING,",
    "PROTECTED AREA,SELECTED AREA,STRING,TEXT;VERTICAL :TABULATION,TABULATION SET"]

/-! ### Listed names -/

/-- Whether a text is an ending as it is listed. `A08~12` stands for the endings from `A08` to
`A12`. -/
def isEnding (text listed : List Char) : Bool :=
  match listed.dropWhile (· != '~') with
  | _ :: last =>
    let first := listed.takeWhile (· != '~')
    let stem := first.take (first.length - last.length)
    match dropStart? stem text with
    | some digits =>
      digits.length == last.length && digits.all Char.isDigit &&
        decide (decimal (first.drop stem.length) ≤ decimal digits) &&
        decide (decimal digits ≤ decimal last)
    | none => false
  | [] => text == listed

/-- Whether a name belongs to a group: a text in front of a colon that all names start with, and
their endings. -/
def isInGroup (name group : List Char) : Bool :=
  match dropStart? (group.takeWhile (· != ':')) name with
  | some ending =>
    (splitOn ',' ((group.dropWhile (· != ':')).drop 1)).any (isEnding ending)
  | none => false

/-- What the small letters and other signs of the tables stand for. -/
def abbreviated : List (Char × String) :=
  [('a', " WITH "), ('b', " LETTER "), ('c', " FORM"), ('d', " SIGN"), ('e', " ARROW"),
    ('f', " ABOVE"), ('g', "ISOLATED"), ('h', " AND "), ('i', "RIGHT"), ('j', " BELOW"),
    ('k', " SYMBOL"), ('l', "DOUBLE"), ('m', "SMALL"), ('n', " MARK"), ('o', "FINAL"),
    ('p', "INITIAL"), ('q', "STROKE"), ('r', "THREE"), ('s', "LEFT"), ('t', " THOUSAND"),
    ('u', "VERTICAL"), ('v', "HORIZONTAL"), ('w', " HUNDRED"), ('x', "TRIANGLE"),
    ('y', "SIGNWRITING "), ('z', " BRACKET"), ('!', "ONE"), ('#', "CIRCLE"), ('$', "WARDS"),
    ('%', "DOT"), ('&', "EIGHT"), ('*', "MIDDLE "), ('+', " CAPITAL"), ('/', "POINTING "),
    ('<', " TIMES "), ('=', "SQUARE"), ('>', "ARABIC"), ('?', "ALEF MAKSURA "), ('@', "SEVEN"),
    ('[', "HOOK"), (']', "BLACK"), ('^', " PLUS "), ('_', "FOUR"), ('|', "TWO"), ('.', " DIGIT ")]

/-- What a character of a table stands for. -/
def spellOut (c : Char) : List Char :=
  if c.isUpper || c.isDigit then [c]
  else ((abbreviated.lookup c).map String.toList).getD [c]

/-- Whether a name is listed in a table, whose lines make up one text. -/
def isListed (name : List Char) (table : List String) : Bool :=
  (splitOn ';' ((String.join table).toList.flatMap spellOut)).any (isInGroup name)

/-! ### Names by rule -/

/-- The number that hexadecimal digits with capital letters stand for. -/
def code? (digits : List Char) : Option Nat :=
  digits.foldlM (fun sum c =>
    if c.isDigit then some (16 * sum + (c.toNat - '0'.toNat))
    else if 'A' ≤ c ∧ c ≤ 'F' then some (16 * sum + (c.toNat - 'A'.toNat + 10))
    else none) 0

/-- Whether hexadecimal digits stand for a number in one of the ranges. -/
def isCodeIn (ranges : List (Nat × Nat)) (digits : List Char) : Bool :=
  (code? digits).any fun code => ranges.any fun (first, last) => first ≤ code && code ≤ last

/-- The starts of names that go on with the code of the character, and the codes. -/
def coded : List (String × List (Nat × Nat)) :=
  [("CJK COMPATIBILITY IDEOGRAPH-", [(0xF900, 0xFA6D), (0xFA70, 0xFAD9), (0x2F800, 0x2FA1D)]),
    ("KHITAN SMALL SCRIPT CHARACTER-", [(0x18B00, 0x18CD5)]),
    ("NUSHU CHARACTER-", [(0x1B170, 0x1B2FB)])]

/-- Whether a name ends in the code of the character. -/
def isCoded (name : List Char) : Bool :=
  coded.any fun (start, ranges) =>
    (dropStart? start.toList name).any fun digits =>
      digits.head? != some '0' && isCodeIn ranges digits

/-- The codes of the ideographs that are named by them. -/
def ideographRanges : List (Nat × Nat) :=
  [(0x3400, 0x4DBF), (0x4E00, 0x9FFF), (0x20000, 0x2A6DF), (0x2A700, 0x2B738),
    (0x2B740, 0x2B81D), (0x2B820, 0x2CEA1), (0x2CEB0, 0x2EBE0), (0x30000, 0x3134A)]

/-- Whether a name is that of an ideograph; its code has four or five digits. -/
def isIdeograph (name : List Char) : Bool :=
  (dropStart? "CJK UNIFIED IDEOGRAPH-".toList name).any fun digits =>
    (digits.length == 4 || digits.length == 5) && isCodeIn ideographRanges digits

/-- The first sounds of Hangul syllables. -/
def firstSounds : List String :=
  ["G", "GG", "N", "D", "DD", "R", "M", "B", "BB", "S", "SS", "", "J", "JJ", "C", "K", "T", "P",
    "H"]

/-- The middle sounds of Hangul syllables. -/
def middleSounds : List String :=
  ["A", "AE", "YA", "YAE", "EO", "E", "YEO", "YE", "O", "WA", "WAE", "OE", "YO", "U", "WEO", "WE",
    "WI", "YU", "EU", "YI", "I"]

/-- The last sounds of Hangul syllables. -/
def lastSounds : List String :=
  ["", "G", "GG", "GS", "N", "NJ", "NH", "D", "L", "LG", "LM", "LB", "LS", "LT", "LP", "LH", "M",
    "B", "BS", "S", "SS", "NG", "J", "C", "K", "T", "P", "H"]

/-- What follows the longest of some sounds at the front of a text. -/
def dropSound? (sounds : List String) (text : List Char) : Option (List Char) :=
  (sounds.filterMap fun sound => dropStart? sound.toList text).foldl (fun shortest rest =>
    if shortest.all fun best => decide (rest.length < best.length) then some rest else shortest)
    none

/-- Whether a name is that of a Hangul syllable: a first, a middle and a last sound. -/
def isSyllable (name : List Char) : Bool :=
  let rest := dropStart? "HANGUL SYLLABLE ".toList name >>= dropSound? firstSounds >>=
    dropSound? middleSounds >>= dropSound? lastSounds
  rest == some []

/-- Whether a name is that of a Braille pattern: some of the dots from 1 to 8, in order. -/
def isBraille (name : List Char) : Bool :=
  (dropStart? "BRAILLE PATTERN DOTS-".toList name).any fun dots =>
    !dots.isEmpty && (dots.all fun c => '1' ≤ c && c ≤ '8') &&
      (dots.zip dots.tail).all fun (a, b) => a < b

end CharacterName

/-- Whether a text is the name of a character. -/
def isCharacterName (name : List Char) : Bool :=
  let capital := name.map Char.toUpper
  CharacterName.isIdeograph name || CharacterName.isSyllable name ||
    CharacterName.isCoded capital || CharacterName.isBraille capital ||
    [CharacterName.others, CharacterName.alphabets, CharacterName.signs,
      CharacterName.syllabaries, CharacterName.pictures, CharacterName.oldScripts].any
      (CharacterName.isListed capital)

end BlockQuery.Text
