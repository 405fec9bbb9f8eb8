import Multiplex.Word

/-!
# Arguments of the command line

The words of a command line are read one after the other.  An option takes its
value from the same word or from the next one; switches may be bundled in one
word.  A value from the next word is only looked at when another option or switch
follows or the words end, so a word that is no argument at all is reported first.
Asking for the help or the version ends the reading.
-/

namespace Multiplex.CommandLine

/-! ## Options and switches -/

/-- The options with a value. -/
inductive Setting
  | config
  | exchanges
  | connections
  | closeAfter
  deriving DecidableEq, Repr, Inhabited

namespace Setting

/-- All options with a value. -/
def all : List Setting := [config, exchanges, connections, closeAfter]

/-- The long name. -/
def name : Setting → String
  | config => "config"
  | exchanges => "exchanges"
  | connections => "connections"
  | closeAfter => "close-after"

/-- The short name, if there is one. -/
def letter? : Setting → Option Char
  | config => some 'c'
  | exchanges => some 'e'
  | connections => none
  | closeAfter => none

/-- How the value is called. -/
def valueName : Setting → String
  | config => "CONFIG"
  | exchanges => "EXCHANGES"
  | connections => "CONNECTIONS"
  | closeAfter => "CLOSE_AFTER"

/-- How the option is written in a complaint. -/
def usage (setting : Setting) : String := "--" ++ setting.name ++ " <" ++ setting.valueName ++ ">"

end Setting

/-- The options without a value. -/
inductive Switch
  | verbose
  | help
  | version
  deriving DecidableEq, Repr, Inhabited

namespace Switch

/-- All options without a value. -/
def all : List Switch := [verbose, help, version]

/-- The long name. -/
def name : Switch → String
  | verbose => "verbose"
  | help => "help"
  | version => "version"

/-- The short name. -/
def letter : Switch → Char
  | verbose => 'v'
  | help => 'h'
  | version => 'V'

/-- How the switch is written in a complaint. -/
def usage (switch : Switch) : String := "--" ++ switch.name

end Switch

/-! ## Complaints -/

/-- What is wrong with a number. -/
inductive NumberFault
  | empty
  | digit
  | tooLarge
  deriving DecidableEq, Repr, Inhabited

/-- The wording of a number fault. -/
def NumberFault.message : NumberFault → String
  | .empty => "cannot parse integer from empty string"
  | .digit => "invalid digit found in string"
  | .tooLarge => "number too large to fit in target type"

/-- What is wrong with a command line. -/
inductive UsageError
  | unexpectedArgument (word : String)
  | unexpectedValue (value : String) (switch : Switch)
  | missingValue (setting : Setting)
  | invalidNumber (value : String) (setting : Setting) (fault : NumberFault)
  | repeatedSetting (setting : Setting)
  | repeatedSwitch (switch : Switch)
  deriving DecidableEq, Repr, Inhabited

/-- The wording of a usage error. -/
def UsageError.message : UsageError → String
  | .unexpectedArgument word => "unexpected argument '" ++ word ++ "' found"
  | .unexpectedValue value switch =>
    "unexpected value '" ++ value ++ "' for '" ++ switch.usage ++
      "' found; no more were expected"
  | .missingValue setting =>
    "a value is required for '" ++ setting.usage ++ "' but none was supplied"
  | .invalidNumber value setting fault =>
    "invalid value '" ++ value ++ "' for '" ++ setting.usage ++ "': " ++ fault.message
  | .repeatedSetting setting =>
    "the argument '" ++ setting.usage ++ "' cannot be used multiple times"
  | .repeatedSwitch switch => "the argument '" ++ switch.usage ++ "' cannot be used multiple times"

/-! ## Numbers -/

/-- Reads digits from left to right, up to the first one that is at fault.  The
number has to fit into a word of 64 bits. -/
def readDigits (number : Nat) : List Char → Except NumberFault Nat
  | [] => .ok number
  | c :: cs =>
    if c.isDigit then
      let number := number * 10 + (c.toNat - '0'.toNat)
      if number < Word.bound64 then readDigits number cs else .error .tooLarge
    else .error .digit

/-- Reads a number, with a plus sign if one likes. -/
def readNumber (text : String) : Except NumberFault Nat :=
  match text.toList with
  | [] => .error .empty
  | ['+'] => .error .digit
  | '+' :: cs => readDigits 0 cs
  | cs => readDigits 0 cs

/-! ## Arguments -/

/-- The arguments of a run. -/
structure Arguments where
  config : Option String := none
  exchanges : Option Nat := none
  connections : Option Nat := none
  closeAfter : Option Nat := none
  verbose : Bool := false
  deriving DecidableEq, Repr, Inhabited

namespace Arguments

/-- Whether an option was given. -/
def has (arguments : Arguments) : Setting → Bool
  | .config => arguments.config.isSome
  | .exchanges => arguments.exchanges.isSome
  | .connections => arguments.connections.isSome
  | .closeAfter => arguments.closeAfter.isSome

/-- Sets an option that takes a number. -/
def setNumber (arguments : Arguments) (setting : Setting) (number : Nat) : Arguments :=
  match setting with
  | .config => arguments
  | .exchanges => { arguments with exchanges := some number }
  | .connections => { arguments with connections := some number }
  | .closeAfter => { arguments with closeAfter := some number }

/-- Sets an option, which must not have been given before. -/
def set (arguments : Arguments) (setting : Setting) (value : String) :
    Except UsageError Arguments :=
  if arguments.has setting then .error (.repeatedSetting setting)
  else if setting = .config then
    if value.isEmpty then .error (.missingValue setting)
    else .ok { arguments with config := some value }
  else
    match readNumber value with
    | .ok number => .ok (arguments.setNumber setting number)
    | .error fault => .error (.invalidNumber value setting fault)

end Arguments

/-! ## Reading the words -/

/-- An option whose value was not looked at yet, and the value if it was read. -/
structure Pending where
  setting : Setting
  value : Option String
  deriving DecidableEq, Repr, Inhabited

/-- How far the reading has come. -/
structure Reading where
  arguments : Arguments := {}
  pending : Option Pending := none
  deriving DecidableEq, Repr, Inhabited

/-- What a command line asks for. -/
inductive Invocation
  | run (arguments : Arguments)
  | help
  | version
  deriving DecidableEq, Repr, Inhabited

/-- What a word leads to: the reading goes on, or it ends. -/
abbrev Outcome := Except UsageError (Reading ⊕ Invocation)

namespace Reading

/-- Looks at the value that is pending. -/
def settle (reading : Reading) : Except UsageError Arguments :=
  match reading.pending with
  | none => .ok reading.arguments
  | some ⟨setting, none⟩ => .error (.missingValue setting)
  | some ⟨setting, some value⟩ => reading.arguments.set setting value

/-- An option whose value stands in the next word. -/
def awaitValue (reading : Reading) (setting : Setting) : Outcome :=
  reading.settle.map fun arguments => .inl ⟨arguments, some ⟨setting, none⟩⟩

/-- An option with its value. -/
def setValue (reading : Reading) (setting : Setting) (value : String) : Outcome :=
  (reading.settle.bind fun arguments => arguments.set setting value).map fun arguments =>
    .inl ⟨arguments, none⟩

/-- A switch.  The help and the version end the reading. -/
def turnOn (reading : Reading) (switch : Switch) : Outcome :=
  match reading.settle, switch with
  | .error error, _ => .error error
  | .ok _, .help => .ok (.inr .help)
  | .ok _, .version => .ok (.inr .version)
  | .ok arguments, .verbose =>
    if arguments.verbose then .error (.repeatedSwitch .verbose)
    else .ok (.inl ⟨{ arguments with verbose := true }, none⟩)

/-- A word behind two hyphens. -/
def readLong (reading : Reading) (word : List Char) : Outcome :=
  let name := String.ofList (word.takeWhile (· != '='))
  let value? := match word.dropWhile (· != '=') with
    | [] => none
    | _ :: value => some (String.ofList value)
  match Setting.all.find? fun setting => setting.name == name with
  | some setting =>
    match value? with
    | none => reading.awaitValue setting
    | some value => reading.setValue setting value
  | none =>
    match Switch.all.find? fun switch => switch.name == name with
    | some switch =>
      match value? with
      | none => reading.turnOn switch
      | some value => .error (.unexpectedValue value switch)
    | none => .error (.unexpectedArgument ("--" ++ name))

/-- The letters behind one hyphen.  The letter of an option takes the rest of the
word as its value, with or without a sign `=`. -/
def readLetters (reading : Reading) : List Char → Outcome
  | [] => .ok (.inl reading)
  | letter :: letters =>
    match Setting.all.find? fun setting => setting.letter? == some letter with
    | some setting =>
      match letters with
      | [] => reading.awaitValue setting
      | '=' :: value => reading.setValue setting (String.ofList value)
      | value => reading.setValue setting (String.ofList value)
    | none =>
      match Switch.all.find? fun switch => switch.letter == letter with
      | none => .error (.unexpectedArgument ("-" ++ String.singleton letter))
      | some switch =>
        match reading.turnOn switch with
        | .ok (.inl reading) => reading.readLetters letters
        | result => result

/-- A word without hyphen: a value, if an option waits for one. -/
def readPlain (reading : Reading) (word : String) : Outcome :=
  match reading.pending with
  | some ⟨setting, none⟩ => .ok (.inl { reading with pending := some ⟨setting, some word⟩ })
  | _ => .error (.unexpectedArgument word)

/-- Reads one word. -/
def readWord (reading : Reading) (word : String) : Outcome :=
  match word.toList with
  | '-' :: '-' :: cs => reading.readLong cs
  | ['-'] => reading.readPlain word
  | '-' :: cs => reading.readLetters cs
  | _ => reading.readPlain word

/-- Reads the remaining words.  Behind two hyphens alone no word has a meaning. -/
def readWords (reading : Reading) : List String → Except UsageError Invocation
  | [] => reading.settle.map Invocation.run
  | "--" :: [] => reading.settle.map Invocation.run
  | "--" :: word :: _ => .error (.unexpectedArgument word)
  | word :: words =>
    match reading.readWord word with
    | .error error => .error error
    | .ok (.inr invocation) => .ok invocation
    | .ok (.inl reading) => reading.readWords words

end Reading

/-- Reads a command line. -/
def parse (words : List String) : Except UsageError Invocation :=
  ({} : Reading).readWords words

end Multiplex.CommandLine
