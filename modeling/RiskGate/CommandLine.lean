import RiskGate.Config.OfToml
import RiskGate.Config.ToJson
import RiskGate.Simulation.Run

/-!
# The command line

    risk-engine [-c FILE] check
    risk-engine [-c FILE] simulate [OPTIONS]
    risk-engine help [COMMAND]

An option's value follows it as the next argument, or in the same one: after an
equals sign, or directly after a one-letter name.  A value in an argument of its
own must not look like an option.  No option is given twice, and no argument is
left over.

A request for help is granted as soon as it is met, unless something before it
is wrong.  The one exception is the file before a command, which is looked at
only after the command.
-/

namespace RiskGate.CommandLine

open Simulation (Options)

/-! ## Commands -/

/-- What is to be done. -/
inductive Command where
  | check
  | simulate (options : Options)

/-- The topics of the help. -/
inductive Topic where
  | program
  | check
  | simulate
  | help
deriving DecidableEq, Repr

/-- What arguments ask for. -/
inductive Intent where
  | run (settingsFile : Option String) (command : Command)
  | help (topic : Topic)
  | misuse

/-- An argument whose form tells an option from other text. -/
inductive Token where
  /-- Two dashes, after which nothing is an option. -/
  | escape
  /-- A long name, and the value after an equals sign. -/
  | long (name : List Char) (value : Option (List Char))
  /-- A one-letter name, and what stands after it. -/
  | short (name : Char) (rest : List Char)
  | plain (text : List Char)

/-- The form of an argument. -/
def Token.ofText : List Char → Token
  | ['-', '-'] => escape
  | '-' :: '-' :: rest =>
      let name := rest.takeWhile (· != '=')
      match rest.dropWhile (· != '=') with
      | _ :: value => long name (some value)
      | [] => long name none
  | '-' :: c :: rest => short c rest
  | text => plain text

/-- The value in the same argument as a one-letter name. -/
def attached : List Char → Option (List Char)
  | [] => none
  | '=' :: value => some value
  | value => some value

/-- The value of an option: the attached one, or the next argument.  Gives also
the arguments left. -/
def optionValue (value : Option (List Char)) (args : List (List Char)) :
    Option (List Char × List (List Char)) :=
  match value with
  | some value => some (value, args)
  | none =>
      match args with
      | next :: rest =>
          match Token.ofText next with
          | .plain text => some (text, rest)
          | _ => none
      | [] => none

/-- The arguments ask for help and nothing before that is wrong. -/
def isHelp : Token → Bool
  | .long name none => name == "help".toList
  | .short 'h' _ => true
  | _ => false

/-! ## Simulations -/

/-- The options of a simulation given so far. -/
structure Given where
  requests : Option Nat := none
  businesses : Option Nat := none
  batchSize : Option Nat := none
  failureRate : Option Float := none
  latency : Option Nat := none

/-- The options that were given, and defaults for the others. -/
def Given.options (given : Given) : Options :=
  let base : Options := {}
  { requests := given.requests.getD base.requests
    businesses := given.businesses.getD base.businesses
    batchSize := given.batchSize.getD base.batchSize
    failureRate := given.failureRate.getD base.failureRate
    latency := given.latency.getD base.latency }

/-- The value of an option that was not given before. -/
def once {α : Type} (old new : Option α) : Option (Option α) :=
  match old, new with
  | none, some value => some (some value)
  | _, _ => none

/-- A number of 64 bits. -/
def readWord (text : List Char) : Option Nat := Decimal.readNat UInt64.size text

/-- Take the value of an option in. -/
def Given.set (name : String) (text : List Char) (given : Given) : Option Given :=
  match name with
  | "requests" =>
      (once given.requests (readWord text)).map fun value => { given with requests := value }
  | "businesses" =>
      (once given.businesses (readWord text)).map fun value => { given with businesses := value }
  | "batch-size" =>
      (once given.batchSize (readWord text)).map fun value => { given with batchSize := value }
  | "failure-rate" =>
      (once given.failureRate (Decimal.readFloat text)).map fun value =>
        { given with failureRate := value }
  | "latency-ms" =>
      (once given.latency (readWord text)).map fun value => { given with latency := value }
  | _ => none

/-- The long name of an option of a simulation. -/
def longName : Char → Option String
  | 'r' => some "requests"
  | 'b' => some "businesses"
  | _ => none

/-- The option that a token names, and the value attached to it. -/
def namedOption : Token → Option (String × Option (List Char))
  | .long name value => some (String.ofList name, value)
  | .short name rest => (longName name).map fun name => (name, attached rest)
  | _ => none

/-- What the arguments after a command ask for; the first argument bounds their
number. -/
def readSimulate (file : Option String) : Nat → Given → List (List Char) → Intent
  | 0, _, _ => .misuse
  | _, given, [] => .run file (.simulate given.options)
  | count + 1, given, arg :: args =>
      let token := Token.ofText arg
      if isHelp token then .help .simulate
      else
        match token with
        | .escape => if args.isEmpty then .run file (.simulate given.options) else .misuse
        | _ =>
            match namedOption token with
            | none => .misuse
            | some (name, value) =>
                match optionValue value args with
                | none => .misuse
                | some (text, rest) =>
                    match given.set name text with
                    | none => .misuse
                    | some given => readSimulate file count given rest

/-- What the arguments after the check command ask for. -/
def readCheck (file : Option String) : List (List Char) → Intent
  | [] => .run file .check
  | arg :: args =>
      let token := Token.ofText arg
      if isHelp token then .help .check
      else
        match token with
        | .escape => if args.isEmpty then .run file .check else .misuse
        | _ => .misuse

/-- What the arguments after the help command ask for. -/
def readHelp : List (List Char) → Intent
  | [] => .help .program
  | [arg] =>
      match String.ofList arg with
      | "check" => .help .check
      | "simulate" => .help .simulate
      | "help" => .help .help
      | _ => .misuse
  | _ => .misuse

/-! ## The program -/

/-- The settings file given so far. -/
structure FileOption where
  /-- The file that was given and looked at. -/
  settled : Option String := none
  /-- A file that was given last and not looked at. -/
  pending : Option (List Char) := none

/-- Look at the file that was given last: there must be only one, and its name
must not be empty. -/
def FileOption.settle (file : FileOption) : Option FileOption :=
  match file.pending with
  | none => some file
  | some text =>
      if text.isEmpty || file.settled.isSome then none
      else some ⟨some (String.ofList text), none⟩

/-- Check the file after the command, unless the command is a request for
help. -/
def Intent.withFile (file : FileOption) (request : Option String → Intent) : Intent :=
  match file.settle with
  | some file => request file.settled
  | none =>
      match request none with
      | .help topic => .help topic
      | _ => .misuse

/-- Read the file option. -/
def readFile (attached : Option (List Char)) (args : List (List Char)) (file : FileOption) :
    Option (FileOption × List (List Char)) := do
  let file ← file.settle
  let (text, rest) ← optionValue attached args
  let file := { file with pending := some text }
  if attached.isSome then
    let file ← file.settle
    return (file, rest)
  else return (file, rest)

/-- What arguments ask for; the first argument bounds their number. -/
def readProgram : Nat → FileOption → List (List Char) → Intent
  | 0, _, _ => .misuse
  | _, _, [] => .misuse
  | count + 1, file, arg :: args =>
      let token := Token.ofText arg
      let next (attached : Option (List Char)) : Intent :=
        match readFile attached args file with
        | none => .misuse
        | some (file, rest) => readProgram count file rest
      if isHelp token then
        match file.settle with
        | some _ => .help .program
        | none => .misuse
      else
        match token with
        | .long name value => if name == "config".toList then next value else .misuse
        | .short 'c' rest => next (attached rest)
        | .plain text =>
            match String.ofList text with
            | "check" => Intent.withFile file fun file => readCheck file args
            | "simulate" =>
                Intent.withFile file fun file => readSimulate file (args.length + 1) {} args
            | "help" => readHelp args
            | _ => .misuse
        | _ => .misuse

/-- What arguments ask for. -/
def read (args : List String) : Intent :=
  readProgram (args.length + 1) {} (args.map String.toList)

/-! ## Help -/

/-- The text of a topic. -/
def Topic.lines : Topic → List String
  | program => [
      "Resilient risk-scoring execution engine",
      "",
      "Usage: risk-engine [OPTIONS] <COMMAND>",
      "",
      "Commands:",
      "  check     Validate a configuration file and print the effective settings",
      "  simulate  Drive the engine with simulated traffic",
      "  help      Print this message or the help of the given subcommand(s)",
      "",
      "Options:",
      "  -c, --config <CONFIG>  TOML configuration file; defaults are used when omitted",
      "  -h, --help             Print help"]
  | check => [
      "Validate a configuration file and print the effective settings",
      "",
      "Usage: risk-engine check",
      "",
      "Options:",
      "  -h, --help  Print help"]
  | simulate => [
      "Drive the engine with simulated traffic",
      "",
      "Usage: risk-engine simulate [OPTIONS]",
      "",
      "Options:",
      "  -r, --requests <REQUESTS>          Number of single requests to send [default: 200]",
      "  -b, --businesses <BUSINESSES>      Distinct businesses to draw requests from (controls cache hit",
      "                                     rate) [default: 50]",
      "      --batch-size <BATCH_SIZE>      Items per batch call [default: 20]",
      "      --failure-rate <FAILURE_RATE>  Probability that a backend call fails [default: 0.05]",
      "      --latency-ms <LATENCY_MS>      Mean simulated backend latency [default: 20]",
      "  -h, --help                         Print help"]
  | help => [
      "Print this message or the help of the given subcommand(s)",
      "",
      "Usage: risk-engine help [COMMAND]...",
      "",
      "Arguments:",
      "  [COMMAND]...  Print help for the subcommand(s)"]

def Topic.text (topic : Topic) : String :=
  String.join (topic.lines.map (· ++ "\n"))

/-! ## Answers -/

/-- What the program prints. -/
inductive Output where
  | nothing
  | text (text : String)
  | document (value : Json.Value)

/-- The printed form of an output. -/
def Output.toText : Output → String
  | .nothing => ""
  | .text lines => lines
  | .document value => value.pretty ++ "\n"

/-- How the program ends. -/
structure Ending where
  exitCode : Nat
  output : Output := .nothing

/-- The file to be read for a request. -/
def Intent.file? : Intent → Option String
  | .run file _ => file
  | _ => none

/-- Answer a request, given the bytes of its file if there is such a file. -/
def Intent.answer (bytes : Option ByteArray) : Intent → Ending
  | .misuse => ⟨2, .nothing⟩
  | .help topic => ⟨0, .text topic.text⟩
  | .run file command =>
      let loaded : Except Config.LoadFailure Config.Settings :=
        match file with
        | none => .ok {}
        | some _ => Config.ofFile bytes
      match loaded, command with
      | .error _, _ => ⟨1, .nothing⟩
      | .ok settings, .check => ⟨0, .document settings.toJson⟩
      | .ok settings, .simulate options => ⟨0, .document (Simulation.report settings options)⟩

end RiskGate.CommandLine
