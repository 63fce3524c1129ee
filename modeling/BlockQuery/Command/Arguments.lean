import BlockQuery.Text.Integer
import BlockQuery.Text.Quoted
import BlockQuery.Text.Similarity

/-!
# Arguments

The arguments of a command are options and words. An option has a long or a short
name and may take a value: `--limit 5`, `--limit=5`, `-l 5`, `-l5`. Short options
without values can be joined: `-qv`. Two dashes end the options. First all
arguments are told apart; only then are the values looked at, in the order in
which their options first appear, and the last value of an option counts.
-/

namespace BlockQuery.Command

/-- Why arguments are refused. -/
inductive ArgumentError
  /-- No option has this name; some have a close one. -/
  | noSuchOption (name : String) (close : List String)
  | needsValue (name : String)
  | takesNoValue (name : String)
  /-- The value of the option or word with this label is refused. -/
  | invalidValue (label problem : String)
  | missingWord (label : String)
  | extraWords (words : List String)
  /-- No command has this name; some have a close one. -/
  | noSuchCommand (name : String) (close : List String)
  | missingCommand
deriving DecidableEq, Repr

namespace ArgumentError

/-- A question that offers close names, in the order of the alphabet. -/
def suggestion : List String → String
  | [] => ""
  | [name] => s!" Did you mean {Text.quoted name}?"
  | names =>
    let listed := ", ".intercalate ((names.mergeSort fun s t => decide (¬ t < s)).map Text.quoted)
    s!" (Did you mean one of: {listed}?)"

/-- The wording of a refusal. -/
def message : ArgumentError → String
  | noSuchOption name close => s!"No such option {Text.quoted name}.{suggestion close}"
  | needsValue name => s!"Option {Text.quoted name} requires an argument."
  | takesNoValue name => s!"Option {Text.quoted name} does not take a value."
  | invalidValue label problem => s!"Invalid value for {label}: {problem}"
  | missingWord label => s!"Missing argument '{label}'."
  | extraWords [word] => s!"Got unexpected extra argument ({word})"
  | extraWords words =>
    let listed := " ".intercalate words
    s!"Got unexpected extra arguments ({listed})"
  | noSuchCommand name close => s!"No such command {Text.quoted name}.{suggestion close}"
  | missingCommand => "Missing command."

/-- Whether a refusal is shown below the usage of the command. -/
def showsUsage : ArgumentError → Bool
  | needsValue _ | takesNoValue _ => false
  | _ => true

end ArgumentError

/-- An option: what it is about, its names, and the value that it stands for. Without such a value
the option takes the one that follows it. -/
structure OptionSpec (κ : Type) where
  key : κ
  names : List String
  fixed : Option String := none

/-- The options of a command line, with values, and its words. -/
structure Arguments (κ : Type) where
  options : List (κ × String) := []
  words : List String := []

variable {κ : Type}

/-- An option that stands for itself. -/
def flag (key : κ) (names : List String) : OptionSpec κ :=
  ⟨key, names, some ""⟩

/-- An option that takes a value. -/
def valued (key : κ) (names : List String) : OptionSpec κ :=
  ⟨key, names, none⟩

/-- What one argument gives: options with their values, and the option, under the name that it is
written with, whose value is the next argument. -/
structure Taken (κ : Type) where
  options : List (κ × String) := []
  waiting : Option (κ × String) := none

/-- The option of a name. -/
def specOf? (specs : List (OptionSpec κ)) (name : String) : Option (OptionSpec κ) :=
  specs.find? fun spec => spec.names.contains name

/-- Whether a name or an argument has two dashes at the start. -/
def isLong (text : String) : Bool :=
  text.startsWith "--"

/-- The long names of options. -/
def longNames (specs : List (OptionSpec κ)) : List String :=
  specs.flatMap fun spec => spec.names.filter isLong

/-- Whether an argument is an option. A single dash is a word. -/
def isOption (argument : String) : Bool :=
  argument.startsWith "-" && argument != "-"

/-- The joined short options of an argument. -/
def takeShort (specs : List (OptionSpec κ)) : List Char → Except ArgumentError (Taken κ)
  | [] => .ok {}
  | c :: rest =>
    let name := String.ofList ['-', c]
    match specOf? specs name with
    | none => .error (.noSuchOption name [])
    | some ⟨key, _, some value⟩ =>
      (takeShort specs rest).map fun taken =>
        { taken with options := (key, value) :: taken.options }
    | some ⟨key, _, none⟩ =>
      if rest = [] then
        .ok { waiting := some (key, name) }
      else
        .ok { options := [(key, String.ofList rest)] }

/-- A name and the value behind an equals sign. -/
def splitValue (argument : String) : String × Option String :=
  match argument.toList.dropWhile (· != '=') with
  | _ :: value => (String.ofList (argument.toList.takeWhile (· != '=')), some (String.ofList value))
  | [] => (argument, none)

/-- The options of an argument. -/
def takeOption (specs : List (OptionSpec κ)) (argument : String) :
    Except ArgumentError (Taken κ) :=
  if isLong argument then
    let (name, value) := splitValue argument
    match specOf? specs name, value with
    | none, _ => .error (.noSuchOption name (Text.closeWords name (longNames specs)))
    | some ⟨key, _, none⟩, none => .ok { waiting := some (key, name) }
    | some ⟨key, _, none⟩, some value => .ok { options := [(key, value)] }
    | some ⟨key, _, some value⟩, none => .ok { options := [(key, value)] }
    | some ⟨_, _, some _⟩, some _ => .error (.takesNoValue name)
  else
    takeShort specs (argument.toList.drop 1)

/-- Tells options and words apart. When they are not `mixed`, the first word ends the options. -/
def readArguments (specs : List (OptionSpec κ)) (mixed : Bool) :
    List String → Except ArgumentError (Arguments κ)
  | [] => .ok {}
  | argument :: rest =>
    if argument = "--" then
      .ok { words := rest }
    else if isOption argument then
      match takeOption specs argument with
      | .error error => .error error
      | .ok ⟨options, none⟩ =>
        (readArguments specs mixed rest).map fun read =>
          { read with options := options ++ read.options }
      | .ok ⟨options, some (key, name)⟩ =>
        match rest with
        | [] => .error (.needsValue name)
        | value :: rest =>
          (readArguments specs mixed rest).map fun read =>
            { read with options := options ++ (key, value) :: read.options }
    else if mixed then
      (readArguments specs mixed rest).map fun read => { read with words := argument :: read.words }
    else
      .ok { words := argument :: rest }
termination_by arguments => arguments.length

namespace Arguments

variable [DecidableEq κ]

/-- The options in the order in which they first appear, each with its last value. -/
def settled (arguments : Arguments κ) : List (κ × String) :=
  (arguments.options.map Prod.fst).eraseDups.filterMap fun key =>
    (arguments.options.reverse.lookup key).map (key, ·)

/-- Changes a value by every option in turn. -/
def apply {α : Type} (arguments : Arguments κ)
    (change : κ → String → α → Except ArgumentError α) (start : α) : Except ArgumentError α :=
  arguments.settled.foldlM (fun value option => change option.1 option.2 value) start

/-- Refuses words behind the given number. -/
def refuseExtra (arguments : Arguments κ) (count : Nat) : Except ArgumentError Unit :=
  match arguments.words.drop count with
  | [] => .ok ()
  | extra => .error (.extraWords extra)

/-- The words, of which there is at least one. -/
def someWords (arguments : Arguments κ) (label : String) : Except ArgumentError (List String) :=
  match arguments.words with
  | [] => .error (.missingWord label)
  | words => .ok words

end Arguments

/-! ### Values -/

/-- The label of an option in messages: its names. -/
def optionLabel (names : List String) : String :=
  " / ".intercalate (names.map fun name => s!"'{name}'")

/-- A whole number; `kind` says what is expected. -/
def readNumber (label kind value : String) : Except ArgumentError Int :=
  match Text.readInteger value.toList with
  | .ok number => .ok number
  | .error _ => .error (.invalidValue label s!"{Text.quoted value} is not a valid {kind}.")

/-- A number of matches that is positive, or -1 for all of them. -/
def acceptLimit (label : String) (limit : Int) : Except ArgumentError Int :=
  if limit ≠ -1 ∧ limit < 1 then
    .error (.invalidValue label "must be positive or -1 for unbounded")
  else
    .ok limit

/-- A number of matches, as written. -/
def readLimit (label value : String) : Except ArgumentError Int := do
  acceptLimit label (← readNumber label "integer" value)

/-- A number that is not negative. -/
def readCount (label value : String) : Except ArgumentError Int := do
  let count ← readNumber label "integer range" value
  if count < 0 then
    .error (.invalidValue label s!"{count} is not in the range x>=0.")
  else
    .ok count

/-- One of several named values. -/
def readChoice {α : Type} (label : String) (choices : List (String × α)) (value : String) :
    Except ArgumentError α :=
  match choices.lookup value with
  | some chosen => .ok chosen
  | none =>
    let names := ", ".intercalate (choices.map fun choice => s!"'{choice.1}'")
    .error (.invalidValue label s!"{Text.quoted value} is not one of {names}.")

end BlockQuery.Command
