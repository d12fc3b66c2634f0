/-
# BoardCompiler.CommandLine — requests as arguments

`CommandLine.read` reads the arguments of the program: flags, the name of a
command, and the flags, options and values of that command. The flags `-v` and
`-q` may stand before or after the command; given after it, `-v` counts only there.
Short options may share a dash, `--` makes values of all that follows, and every
option but `-v` is given at most once to each of the two.
-/
import BoardCompiler.Command

namespace BoardCompiler.CommandLine

set_option autoImplicit false

inductive UsageError where
  | unknownOption (text : String)
  | unexpectedValue (text : String)
  | unknownCommand (text : String)
  | missingValue (option : String)
  | emptyValue
  | repeated (option : String)
  | missingCommand
  | missingName
  deriving DecidableEq, Repr

def UsageError.message : UsageError → String
  | unknownOption text => "unexpected option '" ++ text ++ "'"
  | unexpectedValue text => "unexpected value '" ++ text ++ "'"
  | unknownCommand text => "unknown command '" ++ text ++ "'"
  | missingValue option => "'" ++ option ++ "' needs a value"
  | emptyValue => "a path must not be empty"
  | repeated option => "'" ++ option ++ "' is given twice"
  | missingCommand => "a command is missing"
  | missingName => "the name of the project is missing"

/-- Why arguments are not read to their end. -/
inductive Stop where
  | help
  | version
  | usage (error : UsageError)
  deriving DecidableEq, Repr

inductive Switch where
  | verbose
  | quiet
  | help
  | version
  | output
  | noReferences
  deriving DecidableEq, Repr

def Switch.name : Switch → String
  | verbose => "verbose"
  | quiet => "quiet"
  | help => "help"
  | version => "version"
  | output => "output"
  | noReferences => "no-references"

def Switch.letter? : Switch → Option Char
  | verbose => some 'v'
  | quiet => some 'q'
  | help => some 'h'
  | version => some 'V'
  | output => some 'o'
  | noReferences => none

/-- The values that a command takes. -/
inductive Values where
  | none
  | one
  | paths
  deriving DecidableEq, Repr

/-- What a command can be given. -/
structure Grammar where
  switches : List Switch
  values : Values
  deriving DecidableEq, Repr

/-- What a command has been given so far. -/
structure Given where
  verbose : Nat
  quiet : Bool
  noReferences : Bool
  output : Option String
  values : List String
  /-- An option whose value comes next. -/
  awaitsOutput : Bool
  /-- Whether all that follows are values. -/
  onlyValues : Bool
  deriving DecidableEq, Repr

def Given.nothing : Given := ⟨0, false, false, none, [], false, false⟩

namespace Given

def usage {α : Type} (e : UsageError) : Except Stop α := .error (.usage e)

/-- One more switch without a value. -/
def turnOn (g : Given) : Switch → Except Stop Given
  | .verbose => .ok { g with verbose := g.verbose + 1 }
  | .quiet => if g.quiet then usage (.repeated "--quiet") else .ok { g with quiet := true }
  | .noReferences =>
    if g.noReferences then usage (.repeated "--no-references")
    else .ok { g with noReferences := true }
  | .output => .ok { g with awaitsOutput := true }
  | .help => .error .help
  | .version => .error .version

def setOutput (g : Given) (text : String) : Except Stop Given :=
  if text.isEmpty then usage .emptyValue
  else if g.output.isSome then usage (.repeated "--output")
  else .ok { g with output := some text, awaitsOutput := false }

/-- The letters after a single dash. The rest after `-o` is its value. -/
def addLetters (switches : List Switch) : Given → List Char → Except Stop Given
  | g, [] => .ok g
  | g, c :: rest =>
    match switches.find? fun s => s.letter? = some c with
    | none => usage (.unknownOption (String.ofList ['-', c]))
    | some .output =>
      match rest with
      | [] => g.turnOn .output
      | '=' :: text => g.setOutput (String.ofList text)
      | text => g.setOutput (String.ofList text)
    | some s => do addLetters switches (← g.turnOn s) rest

/-- What stands after two dashes: a name, or a name and a value. -/
def addName (switches : List Switch) (g : Given) (text : List Char) : Except Stop Given :=
  let (name, rest) := text.span (· ≠ '=')
  match switches.find? fun s => s.name = String.ofList name with
  | none => usage (.unknownOption ("--" ++ String.ofList name))
  | some .output =>
    match rest with
    | [] => g.turnOn .output
    | _ :: value => g.setOutput (String.ofList value)
  | some s =>
    match rest with
    | [] => g.turnOn s
    | _ :: value => usage (.unexpectedValue (String.ofList value))

/-- One more value. -/
def addValue (values : Values) (g : Given) (argument : String) : Except Stop Given :=
  match values with
  | .none => usage (.unexpectedValue argument)
  | .one =>
    if g.values.isEmpty then .ok { g with values := [argument] }
    else usage (.unexpectedValue argument)
  | .paths =>
    if argument.isEmpty then usage .emptyValue
    else .ok { g with values := g.values ++ [argument] }

/-- One argument. -/
def add (grammar : Grammar) (g : Given) (argument : String) : Except Stop Given :=
  if g.onlyValues then g.addValue grammar.values argument
  else
    let awaited := fun (next : Except Stop Given) =>
      if g.awaitsOutput then usage (.missingValue "--output") else next
    match argument.toList with
    | ['-', '-'] => awaited (.ok { g with onlyValues := true })
    | '-' :: '-' :: text => awaited (g.addName grammar.switches text)
    | '-' :: c :: rest => awaited (g.addLetters grammar.switches (c :: rest))
    | _ => if g.awaitsOutput then g.setOutput argument else g.addValue grammar.values argument

/-- All arguments of a command. -/
def ofArguments (grammar : Grammar) (arguments : List String) : Except Stop Given := do
  let g ← arguments.foldlM (add grammar) nothing
  if g.awaitsOutput then usage (.missingValue "--output") else return g

end Given

open Given (usage)

inductive CommandName where
  | init
  | check
  | list
  | compile
  | types
  deriving DecidableEq, Repr

namespace CommandName

def ofText? (text : String) : Option CommandName :=
  ([("init", init), ("check", check), ("list", list), ("compile", compile), ("types", types)].find?
    fun entry => entry.1 = text).map (·.2)

def grammar : CommandName → Grammar
  | init => ⟨[.verbose, .quiet, .help], .one⟩
  | check => ⟨[.verbose, .quiet, .help, .noReferences], .paths⟩
  | list => ⟨[.verbose, .quiet, .help], .paths⟩
  | compile => ⟨[.verbose, .quiet, .help, .output, .noReferences], .paths⟩
  | types => ⟨[.verbose, .quiet, .help], .none⟩

/-- The command that has been given all this. -/
def command (name : CommandName) (g : Given) : Except Stop Command :=
  let paths := g.values.map Path.mk
  match name with
  | init =>
    match g.values with
    | [] => usage .missingName
    | value :: _ => .ok (.init value)
  | check => .ok (.check paths g.noReferences)
  | list => .ok (.list paths)
  | compile => .ok (.compile paths (g.output.map Path.mk) g.noReferences)
  | types => .ok .types

end CommandName

/-- What follows the word `help`: at most one command, or `help` itself. -/
def readHelp : List String → Stop
  | [] => .help
  | [word] => if word = "help" || (CommandName.ofText? word).isSome then .help
    else .usage (.unknownCommand word)
  | word :: _ :: _ => .usage (.unknownCommand word)

/-- The command and what it has been given, with what stands before it. -/
def readCommand (before : Given) (name : CommandName) (arguments : List String) :
    Except Stop Invocation := do
  let g ← Given.ofArguments name.grammar arguments
  let verbose := if g.verbose = 0 then before.verbose else g.verbose
  return ⟨verbose, before.quiet || g.quiet, ← name.command g⟩

/-- What stands before a command, and its name. -/
def outerGrammar : Grammar := ⟨[.verbose, .quiet, .help, .version], .one⟩

/-- The arguments from some place on, with what stands before it. -/
def readFrom (before : Given) : List String → Except Stop Invocation
  | [] => usage .missingCommand
  | argument :: rest =>
    match before.add outerGrammar argument with
    | .error stop => .error stop
    | .ok g =>
      match g.values with
      | [] => readFrom g rest
      | word :: _ =>
        if g.onlyValues then usage (.unexpectedValue word)
        else if word = "help" then .error (readHelp rest)
        else
          match CommandName.ofText? word with
          | some name => readCommand before name rest
          | none => usage (.unknownCommand word)

/-- The request of some arguments. -/
def read (arguments : List String) : Except Stop Invocation := readFrom .nothing arguments

/-- What `--version` prints. -/
def versionText : String := "boardc 0.1.0"

/-- What `--help` prints. -/
def helpText : List String :=
  ["Board description compiler", "", "Usage: boardc [OPTIONS] <COMMAND>", "", "Commands:",
   "  init NAME                  Create a new board project",
   "  check [FILES]              Validate a board and summarize every entity",
   "  list [FILES]               List entities without checking reference existence",
   "  compile [-o PATH] [FILES]  Compile a board and write descriptors as JSON",
   "  types                      List registered peripheral and device types", "", "Options:",
   "  -v, --verbose              Increase log verbosity (-v, -vv, -vvv)",
   "  -q, --quiet                Silence all log output",
   "      --no-references        Skip checking that device references name defined peripherals",
   "  -h, --help                 Print help",
   "  -V, --version              Print version"]

/-- How a run of the program ends. -/
structure Ending where
  code : Nat
  output : String
  log : List Log.Entry
  /-- The text for the standard error, the log apart. -/
  errors : String

namespace Ending

def ofStop : Stop → Ending
  | .help => ⟨0, Text.unlines helpText, [], ""⟩
  | .version => ⟨0, Text.unlines [versionText], [], ""⟩
  | .usage e => ⟨2, "", [], "error: " ++ e.message ++ "\n"⟩

def ofExecution (e : Execution) : Ending :=
  match e.error with
  | none => ⟨0, Text.unlines e.output, e.log, ""⟩
  | some error => ⟨1, "", e.log, "error: " ++ error.message ++ "\n"⟩

end Ending

/-- The program with its arguments in a working directory. -/
def run {m : Type → Type} [Monad m] [FileStore m] (arguments : List String) (working : Path) :
    m Ending := do
  match read arguments with
  | .error stop => return .ofStop stop
  | .ok invocation => return .ofExecution (← invocation.run working)

end BoardCompiler.CommandLine
