import ApiTypes.Command.Help
import ApiTypes.Command.Log
import ApiTypes.Document.Build

/-!
# The command line

A `Request` is what a command line asks for: help, or an `Invocation` of a command.
`Request.ofArguments?` reads it from the arguments: options before the word of a command,
that word, and options after it.  An option is long, as in `--out FILE` and `--out=FILE`, or
a letter, as in `-o FILE`, `-oFILE` and `-o=FILE`; letters without a value may stand
together.  The reading goes no further than an option for help.  It gives nothing for a
command line that is not of this form.
-/

namespace ApiTypes

/-- The options of the command line. -/
inductive Flag where
  | verbose
  | quiet
  | input
  | maxDepth
  | includeExcluded
  | out
  | name
  | help
deriving DecidableEq

/-- How many values an option takes. -/
inductive Arity where
  | none
  | one
  | many
deriving DecidableEq

namespace Flag

/-- The long form of an option, without the hyphens. -/
def long : Flag → String
  | verbose => "verbose"
  | quiet => "quiet"
  | input => "input"
  | maxDepth => "max-depth"
  | includeExcluded => "include-excluded"
  | out => "out"
  | name => "name"
  | help => "help"

/-- The letter of an option, if it has one. -/
def letter? : Flag → Option Char
  | verbose => some 'v'
  | quiet => some 'q'
  | input => some 'i'
  | out => some 'o'
  | help => some 'h'
  | _ => none

end Flag

/-- The options that are known in a part of the command line, with the values that they
take. -/
abbrev Grammar := List (Flag × Arity)

/-- An option with the values that it was given. -/
structure Given where
  flag : Flag
  values : List String
deriving DecidableEq

/-- The options that were given, in order. -/
abbrev Options := List Given

namespace Options

/-- The test for an option that was given. -/
def has (options : Options) (flag : Flag) : Bool :=
  options.any (·.flag == flag)

/-- The values of an option, all times that it was given. -/
def valuesOf (options : Options) (flag : Flag) : List String :=
  (options.filter (·.flag == flag)).flatMap Given.values

/-- The test for options each given once, except those that take many values. -/
def eachOnce (grammar : Grammar) (options : Options) : Bool :=
  grammar.all fun known =>
    known.2 == .many || (options.filter (·.flag == known.1)).length ≤ 1

/-- The test for two options that exclude one another. -/
def conflict (options : Options) : Bool :=
  options.has .verbose && options.has .quiet

/-- The depth that is asked for, or the usual one; it has to fit 64 bits. -/
def maxDepth? (options : Options) : Option Nat :=
  match (options.valuesOf .maxDepth).head? with
  | none => some defaultMaxDepth
  | some text => (Text.natural? text.toList).filter (· < 0x10000000000000000)

/-- The path that an option asks for, if any; it may not be empty. -/
def path? (options : Options) (flag : Flag) : Option (Option String) :=
  match (options.valuesOf flag).head? with
  | none => some none
  | some path => if path = "" then none else some (some path)

end Options

/-- An option that waits for more values, with those that it has. -/
structure Pending where
  flag : Flag
  arity : Arity
  values : List String

namespace Grammar

/-- The option that was complete, or an error when it has no value. -/
def close : Option Pending → Option Options
  | none => some []
  | some pending =>
    if pending.values.isEmpty then none else some [⟨pending.flag, pending.values⟩]

/-- The options of an argument of letters. -/
def readLetters (grammar : Grammar) : List Char → Option (Options × Option Pending)
  | [] => some ([], none)
  | c :: rest =>
    match grammar.find? fun known => known.1.letter? == some c with
    | none => none
    | some (.help, _) => some ([⟨.help, []⟩], none)
    | some (flag, .none) => do
      let (given, pending) ← readLetters grammar rest
      return (⟨flag, []⟩ :: given, pending)
    | some (flag, arity) =>
      match rest with
      | [] => some ([], some ⟨flag, arity, []⟩)
      | '=' :: value => some ([⟨flag, [.ofList value]⟩], none)
      | value => some ([⟨flag, [.ofList value]⟩], none)

/-- The option of an argument in the long form. -/
def readLong (grammar : Grammar) (s : List Char) : Option (Options × Option Pending) :=
  let name := s.takeWhile (· ≠ '=')
  let value := s.dropWhile (· ≠ '=')
  match grammar.find? fun known => known.1.long.toList == name with
  | none => none
  | some (flag, .none) => if value.isEmpty then some ([⟨flag, []⟩], none) else none
  | some (flag, arity) =>
    if value.isEmpty then some ([], some ⟨flag, arity, []⟩)
    else some ([⟨flag, [.ofList (value.drop 1)]⟩], none)

/-- The kinds of argument. -/
inductive Argument where
  | separator
  | long (s : List Char)
  | letters (s : List Char)
  | plain
deriving DecidableEq

/-- The kind of an argument; a hyphen alone is a plain one. -/
def kindOf (argument : String) : Argument :=
  match argument.toList with
  | ['-', '-'] => .separator
  | '-' :: '-' :: rest => .long rest
  | ['-'] => .plain
  | '-' :: rest => .letters rest
  | _ => .plain

/-- The options of arguments, given an option that waits for values, up to the word of a
command or an option for help.  Nothing may follow two hyphens. -/
def read (grammar : Grammar) (commands : List String) (pending : Option Pending) :
    List String → Option (Options × List String)
  | [] => (close pending).map fun given => (given, [])
  | argument :: rest =>
    if pending.isNone && commands.contains argument then some ([], argument :: rest)
    else
      let continueWith : Option (Options × Option Pending) → Option (Options × List String)
        | none => none
        | some (given, next) => do
          let closed ← close pending
          if Options.has given .help then return (closed ++ given, [])
          else
            let (more, rest) ← read grammar commands next rest
            return (closed ++ given ++ more, rest)
      match kindOf argument with
      | .separator => if rest.isEmpty then (close pending).map fun given => (given, []) else none
      | .long s => continueWith (readLong grammar s)
      | .letters s => continueWith (readLetters grammar s)
      | .plain =>
        match pending with
        | none => none
        | some pending =>
          let values := pending.values ++ [argument]
          if pending.arity = .one then do
            let (more, rest) ← read grammar commands none rest
            return (⟨pending.flag, values⟩ :: more, rest)
          else read grammar commands (some { pending with values := values }) rest

end Grammar

/-! ### What is asked for -/

/-- What the command `model` is given. -/
structure ModelRequest where
  inputs : List String
  options : ModelOptions
  out : Option String

/-- What the command `definition` is given. -/
structure DefinitionRequest where
  input : String
  name : String
  maxDepth : Nat
  out : Option String

/-- A command with what it is given. -/
inductive Command where
  | model (request : ModelRequest)
  | definition (request : DefinitionRequest)

/-- What a command line asks for. -/
structure Invocation where
  verbose : Bool
  quiet : Bool
  command : Command

/-- What a command line asks for. -/
inductive Request where
  | help (topic : Topic)
  | command (invocation : Invocation)

/-- The options of each command and those before it. -/
def commonGrammar : Grammar :=
  [(.verbose, .none), (.quiet, .none), (.help, .none)]

/-- The options of the command `model`. -/
def modelGrammar : Grammar :=
  commonGrammar ++ [(.input, .many), (.maxDepth, .one), (.includeExcluded, .none), (.out, .one)]

/-- The options of the command `definition`. -/
def definitionGrammar : Grammar :=
  commonGrammar ++ [(.input, .one), (.name, .one), (.maxDepth, .one), (.out, .one)]

/-- The invocation of a command with the options before its word and those after it. -/
def Invocation.ofCommand (command : Command) (common options : Options) : Invocation where
  verbose := common.has .verbose || options.has .verbose
  quiet := common.has .quiet || options.has .quiet
  command := command

/-- The threshold of the log for every part of the program: the one of the setting, if there
is one that makes sense, or else what the options ask for. -/
def Invocation.logFilter (invocation : Invocation) (setting : Option String) : LogFilter :=
  match setting.bind LogFilter.ofText? with
  | some filter => filter
  | none =>
    if invocation.quiet then [⟨[], some .error⟩]
    else if invocation.verbose then [⟨[], some .debug⟩]
    else [⟨[], some .warn⟩]

namespace Request

/-- The request of the word `model` with the options before it and the arguments after it. -/
def model? (common : Options) (arguments : List String) : Option Request := do
  let (options, _) ← modelGrammar.read [] none arguments
  let maxDepth ← options.maxDepth?
  let out ← options.path? .out
  let inputs := options.valuesOf .input
  if !options.eachOnce modelGrammar then none
  else if options.has .help then return .help .model
  else if common.conflict || options.conflict || inputs.isEmpty then none
  else
    let request : ModelRequest := ⟨inputs, ⟨maxDepth, options.has .includeExcluded⟩, out⟩
    return .command (.ofCommand (.model request) common options)

/-- The request of the word `definition` with the options before it and the arguments after
it. -/
def definition? (common : Options) (arguments : List String) : Option Request := do
  let (options, _) ← definitionGrammar.read [] none arguments
  let maxDepth ← options.maxDepth?
  let out ← options.path? .out
  let input? ← options.path? .input
  if !options.eachOnce definitionGrammar then none
  else if options.has .help then return .help .definition
  else if common.conflict || options.conflict then none
  else
    let request : DefinitionRequest :=
      ⟨← input?, ← (options.valuesOf .name).head?, maxDepth, out⟩
    return .command (.ofCommand (.definition request) common options)

/-- What arguments ask for. -/
def ofArguments? (arguments : List String) : Option Request := do
  let (common, rest) ← commonGrammar.read ["model", "definition", "help"] none arguments
  if !common.eachOnce commonGrammar then none
  else if common.has .help then return .help .program
  else
    match rest with
    | "help" :: words => return .help (← Topic.ofWords? words)
    | "model" :: arguments => model? common arguments
    | "definition" :: arguments => definition? common arguments
    | _ => none

end Request

end ApiTypes
