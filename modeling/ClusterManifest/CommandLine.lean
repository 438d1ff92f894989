import ClusterManifest.Command

/-! The command line: the name of a command, and its options in any order. The options before
the name belong to the program itself, which has none but the one for help. Help is given only
where all options are known, and even where there are arguments too many. -/

namespace ClusterManifest.CommandLine

inductive Verb
  | create
  | validate
  | «show»
  deriving DecidableEq, Repr

def Verb.ofWord? : String → Option Verb
  | "create" => some .create
  | "validate" => some .validate
  | "show" => some .show
  | _ => none

inductive Request
  | run (verb : Verb) (directory : Option String)
  | help
  /-- The command line is wrong. -/
  | misuse
  deriving DecidableEq, Repr

structure Options where
  directory : Option String
  help : Bool
  /-- There are arguments, which no command takes. -/
  extra : Bool
  deriving DecidableEq, Repr

namespace Options

def none : Options := ⟨Option.none, false, false⟩

def isOption (word : String) : Bool := word.startsWith "-" && word != "-"

def directoryIn? (word : String) : Option String :=
  let start := "--dir=".toList
  if start.isPrefixOf word.toList then some (String.ofList (word.toList.drop start.length))
  else Option.none

def read? : Options → List String → Option Options
  | options, [] => some options
  | options, "--" :: words => some { options with extra := options.extra || !words.isEmpty }
  | options, "--dir" :: directory :: words =>
    read? { options with directory := some directory } words
  | options, "--debug" :: words => read? options words
  | options, "--help" :: words => read? { options with help := true } words
  | options, word :: words =>
    match directoryIn? word with
    | some directory => read? { options with directory := some directory } words
    | Option.none =>
      if isOption word then Option.none else read? { options with extra := true } words

end Options

def requestOf (verb : Verb) (words : List String) : Request :=
  match Options.none.read? words with
  | none => .misuse
  | some options =>
    if options.help then .help
    else if options.extra then .misuse
    else .run verb options.directory

def named : List String → Request
  | [] => .misuse
  | word :: words =>
    match Verb.ofWord? word with
    | some verb => requestOf verb words
    | none => .misuse

/-- What the words of a command line ask for. `help` tells whether help was asked for before
them. -/
def readFrom (help : Bool) : List String → Request
  | "--help" :: words => readFrom true words
  | "--" :: words => if help then .help else named words
  | [] => if help then .help else .misuse
  | word :: words =>
    if Options.isOption word then .misuse else if help then .help else named (word :: words)

def read (words : List String) : Request := readFrom false words

def helpCode : Nat := 0

def misuseCode : Nat := 2

def perform [Console.LiteralReader] (host : Host) : Request → Action Nat
  | .help => .done helpCode
  | .misuse => .done misuseCode
  | .run .create directory => Command.create host directory host.environment
  | .run .validate directory => Command.validate host directory
  | .run .show directory => Command.preview host directory host.environment

example : read ["create", "--dir", "a", "--dir=b"] = .run .create (some "b") := by decide +kernel
example : read ["--", "show"] = .run .show none := by decide +kernel
example : read ["show", "x", "--help"] = .help ∧ read ["show", "x"] = .misuse := by decide +kernel

end ClusterManifest.CommandLine
