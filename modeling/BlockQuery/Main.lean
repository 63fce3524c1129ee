import BlockQuery.Command.Program
import Std.Time

/-!
# The command line

The program on a real system: files, terminal, environment and clock. Nothing here
can open a connection or start a pager, so posts are reported as failed and paged
text is printed.
-/

namespace BlockQuery.Command.Machine

open Files

/-- The system's error for a step on a path, by what kind of failure it was. -/
def fileError (path : Path) : IO.Error → FileError
  | .noFileOrDirectory .. => .notFound path
  | .alreadyExists .. => .alreadyThere path
  | .inappropriateType .. => .notDirectory path
  | .invalidArgument _ 36 _ => .nameTooLong path
  | error => .other (toString error)

/-- A step on a path. -/
def step {α : Type} (path : Path) (action : IO α) : ExceptT FileError IO α :=
  ExceptT.mk do
    try
      return .ok (← action)
    catch error =>
      return .error (fileError path error)

/-- What stands at a path. -/
def kindAt (path : Path) : ExceptT FileError IO (Option Kind) :=
  ExceptT.mk do
    try
      let data ← ((← IO.currentDir) / path.text).metadata
      return .ok (some (if data.type == .dir then .directory else .file))
    catch error =>
      match fileError path error with
      | .notFound _ | .notDirectory _ => return .ok none
      | error => return .error error

/-- The access rights of a mode. -/
def rightsOf (mode : Nat) : IO.FileRight :=
  let rights (shift : Nat) : IO.AccessRight :=
    { read := mode.testBit (shift + 2), write := mode.testBit (shift + 1)
      execution := mode.testBit shift }
  { user := rights 6, group := rights 3, other := rights 0 }

/-- A new empty file in a directory, readable by its owner only. -/
def createTemporary (folder : Path) (start finish : String) : ExceptT FileError IO Path := do
  let bytes ← step folder (IO.getRandomBytes 8)
  let tag := String.join (bytes.toList.map fun byte => toString byte.toNat)
  let path := folder.child (start ++ tag ++ finish)
  step path do
    IO.FS.writeFile path.text ""
    IO.setAccessRights path.text (rightsOf 0o600)
  return path

/-- The text of a file. -/
def readFile (path : Path) : ExceptT FileError IO String := do
  if (← kindAt path) = some .directory then
    throw (.isDirectory path)
  step path (IO.FS.readFile path.text)

/-- Gives a file another path. -/
def renameFile (source target : Path) : ExceptT FileError IO Unit := do
  if target = Path.root then
    throw (.busy source target)
  if (← kindAt target) = some .directory then
    throw (.replacesDirectory source target)
  step source (IO.FS.rename source.text target.text)

/-- The files of the system. -/
def files : FileSystem IO where
  kind? := kindAt
  read := readFile
  makeDirectory path := step path (IO.FS.createDir path.text)
  setMode path mode := step path (IO.setAccessRights path.text (rightsOf mode))
  createTemporary := createTemporary
  write path content := step path (IO.FS.writeFile path.text content)
  rename := renameFile
  remove path := do
    try IO.FS.removeFile path.text catch _ => pure ()

/-- The environment variables that the program looks at. -/
def variableNames : List String :=
  [Settings.graphVariable, Settings.tokenVariable, "NO_COLOR", "PAGER", "LESSCHARSET", "LINES",
    "HOME"]

/-- The environment. -/
def environment : IO (String → Option String) := do
  let found ← variableNames.filterMapM fun name => do
    return (← IO.getEnv name).map (name, ·)
  return fun name => found.lookup name

/-- How local time runs on the system; universal time if that is not known. -/
def localTime : IO Calendar.LocalTime := do
  try
    let rules ← Std.Time.Database.defaultGetLocalZoneRules
    return .ofOffsets fun instant =>
      let second := Std.Time.Timestamp.ofSecondsSinceUnixEpoch (.ofInt instant)
      (rules.findLocalTimeTypeForTimestamp second).gmtOffset.second.val
  catch _ =>
    return .universal

/-- The system's clock, in local time. -/
def clock : IO Calendar.Clock := do
  let localTime ← localTime
  let instant ← Std.Time.Timestamp.now
  let micros := instant.toNanosecondsSinceUnixEpoch.val / 1000
  let ahead := localTime.ahead (micros / Calendar.secondMicros)
  match Calendar.Moment.ofLocalMicros? (micros + ahead * Calendar.secondMicros) none with
  | some now => return { now, localTime }
  | none => throw (IO.userError "the clock is outside the calendar")

/-- Prints text on a channel. -/
def print (channel : Channel) (text : String) : IO Unit := do
  let stream ← match channel with
    | .output => IO.getStdout
    | .errors => IO.getStderr
  stream.putStr text
  stream.flush

/-- The whole standard input. -/
partial def readInput (stream : IO.FS.Stream) (sofar : String) : IO String := do
  let line ← stream.getLine
  if line.isEmpty then
    return sofar
  readInput stream (sofar ++ line)

/-- Spends a delay, if it can be spent. -/
def sleep (delay : Graph.Delay) : IO (Except Graph.DelayError Unit) := do
  match delay.check, delay with
  | .ok _, .seconds value => IO.sleep (UInt32.ofNat (value * 1000).floor.toNat)
  | _, _ => pure ()
  return delay.check

/-- The way to a server: there is none. -/
def transport : Graph.Transport IO where
  post _ _ := pure (.failed "no network access")
  sleep := sleep

/-- The system as a host. -/
def host : IO (Host IO) := do
  let environment ← environment
  let working := Path.fromFolder Path.root (← IO.currentDir).toString
  let home := ((environment "HOME").map (Path.fromFolder Path.root)).getD Path.root
  let stdin ← IO.getStdin
  return {
    files := files
    around := { working, home, environment }
    clock := ← clock
    isTerminal := ← (← IO.getStdout).isTty
    input := readInput stdin ""
    print := print
    page := fun _ => pure false
    transport := fun _ => transport }

end BlockQuery.Command.Machine

/-- Runs the program on the arguments of the command line. -/
def main (arguments : List String) : IO UInt32 := do
  let host ← BlockQuery.Command.Machine.host
  match ← BlockQuery.Command.Program.run host arguments with
  | .exit code => return UInt32.ofNat code
  | .crash _ => return 1
