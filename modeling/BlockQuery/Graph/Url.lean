import BlockQuery.Text.Digit
import BlockQuery.Text.Find
import BlockQuery.Text.Quoted

/-!
# URLs

A URL is split into its scheme, host, path, parameters, query and fragment, and a
reference is resolved against a base: what the reference lacks is taken from the
base, and the dot segments of its path are removed.
-/

namespace BlockQuery.Graph

/-- The parts of a URL. -/
structure Url where
  scheme : List Char
  host : List Char
  path : List Char
  parameters : List Char
  query : List Char
  fragment : List Char
deriving DecidableEq, Repr

/-- Why a text is not a URL. -/
inductive UrlError
  /-- A bracket around the host lacks its partner. -/
  | unbalancedHost
  /-- Something stands between the brackets and the ends of the host. -/
  | misplacedBrackets
  | badFutureAddress
  /-- An address of the fourth version stands in brackets. -/
  | bracketedOldAddress
  /-- What stands in brackets is not an address. -/
  | badAddress (text : String)
  /-- A character of the host stands for one that ends a host. -/
  | ambiguousHost (host : String)
deriving DecidableEq, Repr

/-- The wording of a URL error. -/
def UrlError.message : UrlError → String
  | unbalancedHost | misplacedBrackets => "Invalid IPv6 URL"
  | badFutureAddress => "IPvFuture address is invalid"
  | bracketedOldAddress => "An IPv4 address cannot be in brackets"
  | badAddress text => s!"{Text.quoted text} does not appear to be an IPv4 or IPv6 address"
  | ambiguousHost host =>
    s!"netloc '{host}' contains invalid characters under NFKC normalization"

namespace Url

/-! ### Schemes -/

/-- The schemes with relative references. -/
def relativeSchemes : List String :=
  ["", "ftp", "http", "gopher", "nntp", "imap", "wais", "file", "https", "shttp", "mms",
   "prospero", "rtsp", "rtspu", "sftp", "svn", "svn+ssh", "ws", "wss"]

/-- The schemes with a host. -/
def hostSchemes : List String :=
  ["", "ftp", "http", "gopher", "nntp", "telnet", "imap", "wais", "file", "mms", "https",
   "shttp", "snews", "prospero", "rtsp", "rtspu", "rsync", "svn", "svn+ssh", "sftp",
   "nfs", "git", "git+ssh", "ws", "wss"]

/-- The schemes with parameters behind the path. -/
def parameterSchemes : List String :=
  ["", "ftp", "hdl", "prospero", "http", "imap", "https", "shttp", "rtsp", "rtspu",
   "sip", "sips", "mms", "sftp", "tel"]

/-- Whether a scheme is one of the given ones. -/
def isScheme (scheme : List Char) (schemes : List String) : Bool :=
  schemes.contains (String.ofList scheme)

/-- Whether a character may stand in a scheme. -/
def isSchemeChar (c : Char) : Bool :=
  c.isAlphanum || c == '+' || c == '-' || c == '.'

/-- The scheme of a text in lower case and what follows it; without one, the given scheme. -/
def splitScheme (given text : List Char) : List Char × List Char :=
  match Text.cut? [':'] text with
  | some (name, rest) =>
    if name.head?.any Char.isAlpha && name.all isSchemeChar then
      (name.map Char.toLower, rest)
    else
      (given, text)
  | none => (given, text)

/-! ### Hosts -/

/-- Whether a text is an address of four numbers up to 255 without leading zeros. -/
def isOldAddress (text : List Char) : Bool :=
  let parts := Text.splitOn '.' text
  parts.length == 4 && parts.all fun part =>
    !part.isEmpty && part.length ≤ 3 && part.all Char.isDigit &&
      (part.length == 1 || part.head? != some '0') && Text.decimal part ≤ 255

/-- Whether a text is a group of up to four hexadecimal digits. -/
def isGroup (text : List Char) : Bool :=
  !text.isEmpty && text.length ≤ 4 && text.all fun c =>
    c.isDigit || ('a' ≤ c.toLower && c.toLower ≤ 'f')

/-- The groups of an address, an old address at the end counting as two groups. -/
def addressGroups (text : List Char) : Option (List (List Char)) :=
  let parts := Text.splitOn ':' text
  if parts.length < 3 then
    none
  else
    match parts.getLast? with
    | some last =>
      if last.contains '.' then
        if isOldAddress last then some (parts.dropLast ++ [['0'], ['0']]) else none
      else
        some parts
    | none => none

/-- Whether groups, one run of which may be left out, make up eight groups. -/
def areGroups (groups : List (List Char)) : Bool :=
  let inner := (groups.drop 1).dropLast
  let first := groups.headD []
  let last := groups.getLast?.getD []
  match inner.count [] with
  | 0 => groups.length == 8 && groups.all isGroup
  | 1 =>
    let leading := inner.takeWhile (· != [])
    let trailing := inner.reverse.takeWhile (· != [])
    let startOk := if first.isEmpty then leading.isEmpty else isGroup first
    let endOk := if last.isEmpty then trailing.isEmpty else isGroup last
    let missing := groups.count []
    groups.length ≤ 9 && startOk && endOk && (leading ++ trailing).all isGroup &&
      groups.length - missing < 8
  | _ => false

/-- Whether a text is an address of the sixth version, possibly with a zone. -/
def isAddress (text : List Char) : Bool :=
  let (address, zoneOk) := match Text.cut? ['%'] text with
    | some (address, zone) => (address, !zone.isEmpty && !zone.contains '%')
    | none => (text, true)
  zoneOk && !address.contains '/' && (addressGroups address).any areGroups

/-- Whether a text is an address of a version to come: a `v`, a number, a point and more. -/
def isFutureAddress (text : List Char) : Bool :=
  match Text.cut? ['.'] (text.drop 1) with
  | some (version, rest) =>
    !version.isEmpty && !rest.isEmpty && !rest.contains '\n' && version.all fun c =>
      c.isDigit || ('a' ≤ c.toLower && c.toLower ≤ 'f')
  | none => false

/-- Checks what stands in brackets in a host. -/
def checkAddress (text : List Char) : Except UrlError Unit :=
  if text.head? = some 'v' then
    if isFutureAddress text then .ok () else .error .badFutureAddress
  else if isOldAddress text then
    .error .bracketedOldAddress
  else if isAddress text then
    .ok ()
  else
    .error (.badAddress (String.ofList text))

/-- The host without the user in front of its last at sign. -/
def withoutUser (host : List Char) : List Char :=
  (host.reverse.takeWhile (· != '@')).reverse

/-- Checks a host with brackets. An address in brackets fills the host up to its port; without
one behind the user, the host itself has to be an address. -/
def checkBracketed (host : List Char) : Except UrlError Unit :=
  match Text.cut? ['['] (withoutUser host) with
  | some ([], bracketed) =>
    let port := (bracketed.dropWhile (· != ']')).drop 1
    if port = [] ∨ port.head? = some ':' then
      checkAddress (bracketed.takeWhile (· != ']'))
    else
      .error .misplacedBrackets
  | some _ => .error .misplacedBrackets
  | none => checkAddress ((withoutUser host).takeWhile (· != ':'))

/-- Checks the brackets in a host. -/
def checkBrackets (host : List Char) : Except UrlError Unit :=
  match host.contains '[', host.contains ']' with
  | true, true => checkBracketed host
  | false, false => .ok ()
  | _, _ => .error .unbalancedHost

/-- The codes of the characters whose compatible forms have a slash, a question mark, a hash sign,
an at sign or a colon. -/
def ambiguousCodes : List Nat :=
  [0x2047, 0x2048, 0x2049, 0x2100, 0x2101, 0x2105, 0x2106, 0x2A74, 0xFE13, 0xFE16, 0xFE55, 0xFE56,
    0xFE5F, 0xFE6B, 0xFF03, 0xFF0F, 0xFF1A, 0xFF1F, 0xFF20]

/-- Checks a host. -/
def checkHost (host : List Char) : Except UrlError Unit := do
  checkBrackets host
  if host.any fun c => ambiguousCodes.contains c.toNat then
    throw (.ambiguousHost (String.ofList host))

/-! ### Splitting -/

/-- The texts before and after the first occurrence of a character; without one, nothing is
after. -/
def before (mark : Char) (text : List Char) : List Char × List Char :=
  (Text.cut? [mark] text).getD (text, [])

/-- The path and the parameters of its last segment. -/
def splitParameters (path : List Char) : List Char × List Char :=
  let tail := (path.reverse.takeWhile (· != '/')).reverse
  let front := path.take (path.length - tail.length)
  let (segment, parameters) := before ';' tail
  (front ++ segment, parameters)

/-- Whether a character is dropped at the front of a URL: a control or the space. -/
def isLeadingJunk (c : Char) : Bool :=
  c.toNat ≤ 0x20

/-- Whether a character is dropped anywhere in a URL. -/
def isLineJunk (c : Char) : Bool :=
  c == '\t' || c == '\r' || c == '\n'

/-- Splits a text; without a scheme it has the given one. -/
def split (given text : List Char) : Except UrlError Url := do
  let cleaned := (text.dropWhile isLeadingJunk).filter (!isLineJunk ·)
  let (scheme, rest) := splitScheme given cleaned
  let isHostChar (c : Char) : Bool := !(c == '/' || c == '?' || c == '#')
  let (host, rest) := match Text.dropStart? ['/', '/'] rest with
    | some rest => (rest.takeWhile isHostChar, rest.dropWhile isHostChar)
    | none => ([], rest)
  checkHost host
  let (rest, fragment) := before '#' rest
  let (rest, query) := before '?' rest
  let (path, parameters) :=
    if isScheme scheme parameterSchemes then splitParameters rest else (rest, [])
  return { scheme, host, path, parameters, query, fragment }

/-! ### Writing -/

/-- A part behind its mark, nothing when it is empty. -/
def marked (mark : Char) (part : List Char) : List Char :=
  if part = [] then [] else mark :: part

/-- A URL as text. -/
def write (url : Url) : List Char :=
  let path := url.path ++ marked ';' url.parameters
  let rooted := if path ≠ [] ∧ path.head? ≠ some '/' then '/' :: path else path
  let hasHost := url.host ≠ [] ∨
    (url.scheme ≠ [] ∧ isScheme url.scheme hostSchemes ∧ path.take 2 ≠ ['/', '/'])
  let located := if hasHost then ['/', '/'] ++ url.host ++ rooted else path
  let named := if url.scheme = [] then located else url.scheme ++ ':' :: located
  named ++ marked '?' url.query ++ marked '#' url.fragment

/-! ### Resolving references -/

/-- The segments of a path without its dot segments; `kept` are the segments before it, last
one first. -/
def removeDots (kept : List (List Char)) : List (List Char) → List (List Char)
  | [] => kept.reverse
  | segment :: rest =>
    if segment = ['.', '.'] then removeDots (kept.drop 1) rest
    else if segment = ['.'] then removeDots kept rest
    else removeDots (segment :: kept) rest

/-- The segments without the empty ones between the first and the last. -/
def dropInnerEmpty (segments : List (List Char)) : List (List Char) :=
  match segments with
  | first :: rest =>
    match rest.getLast? with
    | some last => first :: rest.dropLast.filter (· != []) ++ [last]
    | none => [first]
  | [] => []

/-- The segments of a relative path below a base path. -/
def joinSegments (base path : List Char) : List (List Char) :=
  if path.head? = some '/' then
    Text.splitOn '/' path
  else
    let parts := Text.splitOn '/' base
    let folders := if parts.getLast? = some [] then parts else parts.dropLast
    dropInnerEmpty (folders ++ Text.splitOn '/' path)

/-- The path of a reference that has one, below a base path. -/
def joinPath (base path : List Char) : List Char :=
  let segments := joinSegments base path
  let kept := removeDots [] segments
  let last := segments.getLast?.getD []
  let closed := if last = ['.'] ∨ last = ['.', '.'] then kept ++ [[]] else kept
  let joined := ['/'].intercalate closed
  if joined = [] then ['/'] else joined

/-- A reference resolved against a base of the same scheme, both split. -/
def resolveParts (base reference : Url) : Url :=
  if reference.host ≠ [] then
    reference
  else if reference.path = [] ∧ reference.parameters = [] then
    { reference with
      host := base.host
      path := base.path
      parameters := base.parameters
      query := if reference.query = [] then base.query else reference.query }
  else
    { reference with host := base.host, path := joinPath base.path reference.path }

/-- A reference resolved against a base. -/
def join (base reference : List Char) : Except UrlError (List Char) :=
  if base = [] then
    .ok reference
  else if reference = [] then
    .ok base
  else do
    let baseUrl ← split [] base
    let url ← split baseUrl.scheme reference
    if url.scheme ≠ baseUrl.scheme ∨ ¬ isScheme url.scheme relativeSchemes then
      return reference
    else
      return (resolveParts baseUrl url).write

end Url

end BlockQuery.Graph
