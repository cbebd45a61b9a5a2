/-
# The command line

There are two levels: the words before the name of a command, and those after it. The option that
names the file with the settings may stand at either level, once at each; the inner one counts, then
the outer one, then the environment. The value of an option and the path of a command are checked
when the next argument begins or the level ends, and a command is read to its end before the last
value in front of it is checked; this decides which of two errors is reported.
-/

import Refetch.Text.Blank

namespace Refetch

/-- What the program is to do. -/
inductive Command where
  /-- Prints the value behind a path. -/
  | get (path : String)
  /-- Prints the value behind a path whenever it changes. -/
  | watch (path : String)
  /-- Prints what the server says about itself. -/
  | health
  deriving DecidableEq, Repr

/-- What a command line says. -/
structure CommandLine where
  /-- The file with the settings. -/
  config : Option String
  command : Command
  deriving DecidableEq, Repr

/-- Why a command line says nothing to be done. -/
inductive UsageError where
  | help
  | version
  /-- There is nothing at all on the command line. -/
  | nothingGiven
  | missingCommand
  | missingPath
  | unknownArgument
  | unknownCommand
  /-- The value of an option is missing or empty. -/
  | emptyValue
  /-- A value is given to an option that takes none. -/
  | unwantedValue
  | blankPath
  /-- An option is given twice at one level. -/
  | repeatedOption
  deriving DecidableEq, Repr

/-- The wording of what is wrong with a command line. -/
def UsageError.message : UsageError → String
  | .help | .nothingGiven | .missingCommand =>
    "usage: [--config <file>] (get <path> | watch <path> | health)"
  | .version => "0.1.0"
  | .missingPath => "a path is missing"
  | .unknownArgument => "unexpected argument"
  | .unknownCommand => "unrecognized command"
  | .emptyValue => "a value is missing"
  | .unwantedValue => "unexpected value"
  | .blankPath => "path must not be empty"
  | .repeatedOption => "an option cannot be used twice"

/-- Is the answer what was asked for, and no failure. -/
def UsageError.isAnswer (e : UsageError) : Bool := e = .help || e = .version

/-- The path of a request that a word stands for: without blanks around it and with a slash in
front. A blank word stands for none. -/
def apiPath? (word : String) : Option String :=
  let trimmed := Text.trim word
  match trimmed.toList with
  | [] => none
  | '/' :: _ => some trimmed
  | _ => some ("/" ++ trimmed)

namespace CommandLine

/-- A word of the command line by its first characters. -/
inductive Word where
  /-- Two hyphens: no later word is an option. -/
  | escape
  /-- Two hyphens and a name, and a value after an equals sign. -/
  | long (name : String) (value : Option String)
  /-- A hyphen and letters, of which there is at least one. -/
  | short (first : Char)
  | plain
  deriving DecidableEq, Repr

def Word.of (word : String) : Word :=
  match word.toList with
  | '-' :: '-' :: [] => .escape
  | '-' :: '-' :: rest =>
    let name := String.ofList (rest.takeWhile (· ≠ '='))
    match rest.dropWhile (· ≠ '=') with
    | _ :: value => .long name (some (String.ofList value))
    | [] => .long name none
  | '-' :: first :: _ => .short first
  | _ => .plain

/-- The names of the commands. -/
inductive Verb where
  | get
  | watch
  | health
  deriving DecidableEq, Repr

def Verb.named? (word : String) : Option Verb :=
  [("get", Verb.get), ("watch", .watch), ("health", .health)].lookup word

def Verb.takesPath (verb : Verb) : Bool := verb ≠ .health

/-- The word that asks for help where a command is expected. -/
def helpWord : String := "help"

/-- What has been read but not checked. -/
inductive Pending where
  /-- The option for the settings, and its value if it has come. -/
  | config (value : Option String)
  | path (word : String)
  deriving DecidableEq, Repr

/-- A level of the command line as far as it has been read. -/
structure Level where
  pending : Option Pending := none
  /-- The value of the option for the settings. -/
  config : Option String := none
  path : Option String := none
  /-- Two hyphens have come. -/
  escaped : Bool := false
  deriving DecidableEq, Repr

namespace Level

/-- Takes the value of the option for the settings. -/
def takeConfig (level : Level) (value : String) : Except UsageError Level :=
  if level.config.isSome then .error .repeatedOption
  else if value = "" then .error .emptyValue
  else .ok { level with config := some value }

/-- Checks what is pending. -/
def settle (level : Level) : Except UsageError Level :=
  let settled := { level with pending := none }
  match level.pending with
  | none => .ok settled
  | some (.config none) => .error .emptyValue
  | some (.config (some value)) => settled.takeConfig value
  | some (.path word) => match apiPath? word with
    | some path => .ok { settled with path := some path }
    | none => .error .blankPath

/-- Is the next word the value of an option, unless it is an option itself. -/
def awaitsValue (level : Level) : Bool := level.pending = some (.config none) && !level.escaped

/-- Has the path of a command come. -/
def hasPath (level : Level) : Bool :=
  level.path.isSome || match level.pending with
    | some (.path _) => true
    | _ => false

/-- Fails with an error, after what is pending has been checked. -/
def fail (level : Level) (e : UsageError) : Except UsageError Level := do
  let _ ← level.settle
  throw e

/-- Takes a word with two hyphens and a name. The version may be asked for in front of a command
only. -/
def takeLong (level : Level) (top : Bool) (name : String) (value : Option String) :
    Except UsageError Level :=
  let isSwitch := name = "help" ∨ (top ∧ name = "version")
  match value with
  | some value =>
    if name = "config" then level.settle.bind (·.takeConfig value)
    else throw (if isSwitch then .unwantedValue else .unknownArgument)
  | none =>
    if name = "config" then do
      return { ← level.settle with pending := some (.config none) }
    else if name = "help" then level.fail .help
    else if isSwitch then level.fail .version
    else throw .unknownArgument

/-- Takes a word with one hyphen and letters, the first of which decides. -/
def takeShort (level : Level) (top : Bool) (first : Char) : Except UsageError Level :=
  if first = 'h' then level.fail .help
  else if top ∧ first = 'V' then level.fail .version
  else throw .unknownArgument

/-- Takes a word; `plain` says what becomes of a word that is neither an option nor the value of
one. -/
def take (level : Level) (top : Bool) (plain : Level → String → Except UsageError Level)
    (word : String) : Except UsageError Level :=
  if level.escaped then plain level word
  else match Word.of word with
    | .escape => .ok { level with escaped := true }
    | .long name value => level.takeLong top name value
    | .short first => level.takeShort top first
    | .plain =>
      if level.awaitsValue then .ok { level with pending := some (.config (some word)) }
      else plain level word

/-- The end of a level: what is pending is checked, and so is the environment unless the option has
been given. -/
def finish (level : Level) (environment : Option String) : Except UsageError Level := do
  let level ← level.settle
  if level.config.isNone && environment = some "" then throw .emptyValue
  return level

end Level

/-- A word after the name of a command that is no option: its path, of which there is one. -/
def takePath (takesPath : Bool) (level : Level) (word : String) : Except UsageError Level :=
  if takesPath && !level.hasPath then do
    return { ← level.settle with pending := some (.path word) }
  else throw .unknownArgument

/-- The path that a command must have. -/
def needPath (level : Level) : Except UsageError String :=
  match level.path with
  | some path => .ok path
  | none => .error .missingPath

/-- Reads the words after the name of a command. -/
def readCommand (environment : Option String) (verb : Verb) (words : List String) :
    Except UsageError (Option String × Command) := do
  let take (level : Level) (word : String) := level.take false (takePath verb.takesPath) word
  let level ← (← words.foldlM take {}).finish environment
  let command ← match verb with
    | .get => (needPath level).map .get
    | .watch => (needPath level).map .watch
    | .health => pure .health
  return (level.config, command)

/-- A word in front of a command that is neither an option nor a command. The name of a command
after two hyphens is told from other words. -/
def refuseWord (level : Level) (word : String) : Except UsageError Level :=
  if level.escaped && ((Verb.named? word).isSome || word = helpWord) then throw .unknownArgument
  else throw .unknownCommand

/-- The words after `help` may name a command to be explained. -/
def helpOn (words : List String) : UsageError :=
  match words with
  | [] => .help
  | [word] => if (Verb.named? word).isSome ∨ word = helpWord then .help else .unknownCommand
  | _ => .unknownCommand

/-- Reads the words from a place in front of the name of a command on. -/
def readFrom (environment : Option String) (level : Level) :
    List String → Except UsageError CommandLine
  | [] => do
    let level ← level.finish environment
    if level.config.isNone && environment.isNone then throw .nothingGiven else throw .missingCommand
  | word :: words =>
    let verb? := if level.escaped || level.awaitsValue then none else Verb.named? word
    match verb? with
    | some verb => do
      let (inner, command) ← readCommand environment verb words
      let level ← level.finish environment
      return { config := inner <|> level.config <|> environment, command }
    | none =>
      if word = helpWord && !level.escaped && !level.awaitsValue then throw (helpOn words)
      else do readFrom environment (← level.take true refuseWord word) words

/-- The environment variable that may name the file with the settings. -/
def configVariable : String := "STALEWISE_CONFIG"

/-- Reads the words of a command line after the name of the program. The environment may name the
file with the settings. -/
def read (environment : Option String) (words : List String) : Except UsageError CommandLine :=
  readFrom environment {} words

end CommandLine

end Refetch
