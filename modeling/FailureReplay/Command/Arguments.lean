import FailureReplay.Command.Invocation

/-!
# Command-line arguments

Options may be long (`--output FILE`, `--output=FILE`) or short (`-o FILE`,
`-oFILE`, `-o=FILE`), short flags may be combined, and `--` ends the options. An
option given twice at one level, an unknown name, a missing or empty value and a
surplus positional argument are usage errors.
-/

namespace FailureReplay

namespace Arguments

/-- Why a command line is not carried out. -/
inductive Stop where
  | usage
  | version
  | help
  deriving DecidableEq, Repr

inductive Item where
  | flag (flag : Flag)
  | setting (setting : Setting)
  deriving DecidableEq, Repr

/-- The options and positional arguments of one level of the command line. -/
structure Grammar where
  items : List (String × Option Char × Item)
  positional : Bool
  /-- Names that end this level. -/
  commands : List String

def Grammar.long? (g : Grammar) (name : Text) : Option Item :=
  (g.items.find? fun (long, _, _) => long.toList == name).map fun (_, _, item) => item

def Grammar.short? (g : Grammar) (name : Char) : Option Item :=
  (g.items.find? fun (_, short, _) => short == some name).map fun (_, _, item) => item

/-- What one level was given. -/
structure Given where
  flags : List Flag := []
  settings : List (Setting × Text) := []
  positionals : List Text := []
  deriving DecidableEq, Repr

def Given.addFlag (given : Given) : Flag → Except Stop Given
  | .version => .error .version
  | .help => .error .help
  | flag =>
    if flag ∈ given.flags then .error .usage else .ok { given with flags := flag :: given.flags }

def Given.addSetting (given : Given) (setting : Setting) (value : Text) : Except Stop Given :=
  if value.isEmpty || (given.settings.lookup setting).isSome then .error .usage
  else .ok { given with settings := (setting, value) :: given.settings }

def Given.addPositional (g : Grammar) (given : Given) (value : Text) : Except Stop Given :=
  if g.positional && given.positionals.isEmpty && !value.isEmpty then
    .ok { given with positionals := [value] }
  else .error .usage

/-- Read a long option; a setting without an attached value waits for the next argument. -/
def readLong (g : Grammar) (given : Given) (body : Text) :
    Except Stop (Given × Option Setting) := do
  match g.long? (body.takeWhile (· != '=')), body.dropWhile (· != '=') with
  | some (.flag flag), [] => return (← given.addFlag flag, none)
  | some (.setting setting), [] => return (given, some setting)
  | some (.setting setting), _ :: value => return (← given.addSetting setting value, none)
  | _, _ => .error .usage

/-- Read combined short options; the first setting takes the rest as its value. -/
def readShort (g : Grammar) (given : Given) : Text → Except Stop (Given × Option Setting)
  | [] => .ok (given, none)
  | c :: rest =>
    match g.short? c with
    | none => .error .usage
    | some (.flag flag) => do readShort g (← given.addFlag flag) rest
    | some (.setting setting) =>
      match rest with
      | [] => .ok (given, some setting)
      | '=' :: value => do return (← given.addSetting setting value, none)
      | value => do return (← given.addSetting setting value, none)

/-- Read one argument that is neither a command nor the end of the options. -/
def readArgument (g : Grammar) (given : Given) : Text → Except Stop (Given × Option Setting)
  | '-' :: '-' :: body => readLong g given body
  | '-' :: c :: rest => readShort g given (c :: rest)
  | value => do return (← given.addPositional g value, none)

/-- An argument that can only be an option. -/
def isOption : Text → Bool
  | '-' :: _ :: _ => true
  | _ => false

/-- Read the arguments of one level, up to a command. -/
def readLevel (g : Grammar) (given : Given) : List Text → Except Stop (Given × List Text)
  | [] => .ok (given, [])
  | argument :: rest =>
    if g.commands.any fun name => name.toList == argument then .ok (given, argument :: rest)
    else if argument = ['-', '-'] then do
      return (← rest.foldlM (fun given value => given.addPositional g value) given, [])
    else do
      match ← readArgument g given argument with
      | (given, none) => readLevel g given rest
      | (given, some setting) =>
        match rest with
        | value :: rest =>
          if isOption value then .error .usage
          else readLevel g (← given.addSetting setting value) rest
        | [] => .error .usage

def sharedItems : List (String × Option Char × Item) :=
  [("verbose", some 'v', .flag .verbose), ("quiet", some 'q', .flag .quiet),
   ("config", none, .setting .config), ("help", some 'h', .flag .help)]

def topLevel : Grammar where
  items := ("version", some 'V', .flag .version) :: sharedItems
  positional := false
  commands := ["normalize", "signature", "generate", "help"]

def normalizeLevel : Grammar where
  items := ("output", some 'o', .setting .output) :: sharedItems
  positional := true
  commands := []

def signatureLevel : Grammar where
  items := ("json", none, .flag .json) :: sharedItems
  positional := true
  commands := []

def generateLevel : Grammar where
  items :=
    [("source", none, .setting .source), ("report", none, .setting .report),
     ("output", some 'o', .setting .output),
     ("normalized-output", none, .setting .normalizedOutput), ("json", none, .flag .json)] ++
    sharedItems
  positional := false
  commands := []

def defaultOutput : Text := "GeneratedTest.java".toList

def Given.value? (given : Given) (setting : Setting) : Option Text := given.settings.lookup setting

def normalizeAction? (given : Given) : Option Action :=
  given.positionals.head?.map fun source => .normalize source (given.value? .output)

def signatureAction? (given : Given) : Option Action :=
  given.positionals.head?.map fun source => .signature source (Flag.json ∈ given.flags)

def generateAction? (given : Given) : Option Action := do
  let source ← given.value? .source
  let report ← given.value? .report
  return .generate source report ((given.value? .output).getD defaultOutput)
    (given.value? .normalizedOutput) (Flag.json ∈ given.flags)

/-- Read a command's own level; options given there win over those before the command. -/
def readCommand (top : Given) (g : Grammar) (action? : Given → Option Action)
    (arguments : List Text) : Except Stop Invocation := do
  let (given, _) ← readLevel g {} arguments
  match action? given with
  | none => .error .usage
  | some action =>
    return { verbose := Flag.verbose ∈ top.flags ∨ Flag.verbose ∈ given.flags
             quiet := Flag.quiet ∈ top.flags ∨ Flag.quiet ∈ given.flags
             config? := (given.value? .config).or (top.value? .config)
             action }

/-- The request for help on the whole program or on one command. -/
def helpStop (topics : List Text) : Stop :=
  match topics with
  | [] => .help
  | [topic] => if topLevel.commands.any fun name => name.toList == topic then .help else .usage
  | _ => .usage

def parse (arguments : List Text) : Except Stop Invocation := do
  let (top, rest) ← readLevel topLevel {} arguments
  match rest with
  | [] => .error .usage
  | command :: rest =>
    if command = "normalize".toList then readCommand top normalizeLevel normalizeAction? rest
    else if command = "signature".toList then readCommand top signatureLevel signatureAction? rest
    else if command = "generate".toList then readCommand top generateLevel generateAction? rest
    else .error (helpStop rest)

end Arguments
end FailureReplay
