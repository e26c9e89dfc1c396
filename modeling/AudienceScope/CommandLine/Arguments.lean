import AudienceScope.Generator

/-!
Reading the command line. Options may stand before or behind the name of the command as far as they
belong to all commands. Every refusal is alike: the arguments are not accepted.
-/

set_option autoImplicit false

namespace AudienceScope.CommandLine

inductive OutputFormat where
  | text
  | json
deriving DecidableEq

namespace OutputFormat

def ofName? : String → Option OutputFormat
  | "text" => some text
  | "json" => some json
  | _ => none

end OutputFormat

/-- How results are shown; none of it changes what is computed or written. -/
structure Presentation where
  output : OutputFormat
  quiet : Bool
  verbose : Bool
deriving DecidableEq

structure Inputs where
  document : String
  audiences : List String
  config : Option String
deriving DecidableEq

inductive Command where
  | filter (inputs : Inputs) (generator : Option Generator)
  | prune (inputs : Inputs) (out : Option String)
  | generators
deriving DecidableEq

structure Invocation where
  presentation : Presentation
  command : Command
deriving DecidableEq

inductive CommandName where
  | filter
  | prune
  | generators
deriving DecidableEq

namespace CommandName

def text : CommandName → String
  | filter => "filter"
  | prune => "prune"
  | generators => "generators"

def all : List CommandName := [filter, prune, generators]

def ofName? (name : String) : Option CommandName :=
  all.find? fun command => command.text = name

end CommandName

inductive Request where
  | version
  | help (topic : Option CommandName)
  | helpOnHelp
  | run (invocation : Invocation)
deriving DecidableEq

inductive Switch where
  | quiet
  | verbose
  | version
  | help
deriving DecidableEq

inductive Setting where
  | output
  | audience
  | config
  | generator
  | out
deriving DecidableEq

inductive Flag where
  | switch (switch : Switch)
  | setting (setting : Setting)
deriving DecidableEq

/-- The options of a command, or of the program when no command is named yet. -/
def longFlag? (command : Option CommandName) (name : String) : Option Flag :=
  match name, command with
  | "output", _ => some (.setting .output)
  | "quiet", _ => some (.switch .quiet)
  | "verbose", _ => some (.switch .verbose)
  | "help", _ => some (.switch .help)
  | "version", none => some (.switch .version)
  | "audience", some .filter => some (.setting .audience)
  | "audience", some .prune => some (.setting .audience)
  | "config", some .filter => some (.setting .config)
  | "config", some .prune => some (.setting .config)
  | "generator", some .filter => some (.setting .generator)
  | "out", some .prune => some (.setting .out)
  | _, _ => none

def shortFlag? (command : Option CommandName) (letter : Char) : Option Flag :=
  match letter, command with
  | 'v', _ => some (.switch .verbose)
  | 'h', _ => some (.switch .help)
  | 'V', none => some (.switch .version)
  | 'a', some .filter => some (.setting .audience)
  | 'a', some .prune => some (.setting .audience)
  | _, _ => none

/-- What was read at one place of the command line: before the command's name, or behind it. -/
structure Collected where
  output : Option OutputFormat
  quiet : Bool
  verbose : Bool
  audiences : List String
  config : Option String
  generator : Option Generator
  out : Option String
  document : Option String

namespace Collected

def empty : Collected := ⟨none, false, false, [], none, none, none, none⟩

def once {α : Type} (old new : Option α) : Option (Option α) :=
  match old, new with
  | none, some value => some (some value)
  | _, _ => none

def path? (value : String) : Option String := if value.isEmpty then none else some value

def set (collected : Collected) (setting : Setting) (value : String) : Option Collected :=
  match setting with
  | .audience => some { collected with audiences := collected.audiences ++ [value] }
  | .output =>
    (once collected.output (OutputFormat.ofName? value)).map fun output =>
      { collected with output }
  | .config => (once collected.config (path? value)).map fun config => { collected with config }
  | .generator =>
    (once collected.generator (Generator.ofName? value)).map fun generator =>
      { collected with generator }
  | .out => (once collected.out (path? value)).map fun out => { collected with out }

def setDocument (collected : Collected) (value : String) : Option Collected :=
  (once collected.document (path? value)).map fun document => { collected with document }

end Collected

inductive Information where
  | version
  | help

/-- After an argument: more arguments, the first of which may be the value of an option, or a
request for information. -/
inductive Progress where
  | more (collected : Collected) (awaiting : Option Setting)
  | stop (information : Information)

def turn (collected : Collected) : Switch → Option Progress
  | .quiet =>
    if collected.quiet then none else some (.more { collected with quiet := true } none)
  | .verbose =>
    if collected.verbose then none else some (.more { collected with verbose := true } none)
  | .version => some (.stop .version)
  | .help => some (.stop .help)

def take (collected : Collected) (setting : Setting) (value : List Char) : Option Progress :=
  (collected.set setting (String.ofList value)).map fun next => .more next none

def readLong (command : Option CommandName) (collected : Collected) (argument : List Char) :
    Option Progress :=
  let name := argument.takeWhile (· ≠ '=')
  match longFlag? command (String.ofList name), argument.drop name.length with
  | some (.switch switch), [] => turn collected switch
  | some (.setting setting), [] => some (.more collected (some setting))
  | some (.setting setting), _ :: value => take collected setting value
  | _, _ => none

/-- Letters in one argument. The letters behind an option are its value, with or without an equals
sign. -/
def readShort (command : Option CommandName) : Collected → List Char → Option Progress
  | collected, [] => some (.more collected none)
  | collected, letter :: rest =>
    match shortFlag? command letter with
    | some (.switch switch) =>
      match turn collected switch with
      | some (.more next _) => readShort command next rest
      | other => other
    | some (.setting setting) =>
      match rest with
      | [] => some (.more collected (some setting))
      | '=' :: value => take collected setting value
      | value => take collected setting value
    | none => none

/-- Whether an argument is an option and no plain value; a lone dash is a value. -/
def isOption (argument : List Char) : Bool :=
  match argument with
  | '-' :: _ :: _ => true
  | _ => false

def readOption (command : Option CommandName) (collected : Collected) (argument : List Char) :
    Option Progress :=
  match argument with
  | '-' :: '-' :: name => readLong command collected name
  | '-' :: letters => readShort command collected letters
  | _ => none

def readPlain (takesDocument : Bool) : Collected → List String → Option Collected
  | collected, [] => some collected
  | collected, argument :: rest =>
    if takesDocument then
      match collected.setDocument argument with
      | some next => readPlain takesDocument next rest
      | none => none
    else none

abbrev Reading := Except Information Collected

def readCommand (command : CommandName) :
    Collected → Option Setting → List String → Option Reading
  | collected, none, [] => some (.ok collected)
  | _, some _, [] => none
  | collected, awaiting, argument :: rest =>
    let chars := argument.toList
    if chars = ['-', '-'] then
      if awaiting.isSome then none
      else (readPlain (command ≠ .generators) collected rest).map .ok
    else if isOption chars then
      if awaiting.isSome then none
      else
        match readOption (some command) collected chars with
        | none => none
        | some (.stop information) => some (.error information)
        | some (.more next awaiting) => readCommand command next awaiting rest
    else
      match awaiting with
      | some setting =>
        match collected.set setting argument with
        | some next => readCommand command next none rest
        | none => none
      | none =>
        if command = .generators then none
        else
          match collected.setDocument argument with
          | some next => readCommand command next none rest
          | none => none

/-! ### Requests -/

def presentationOf (outer inner : Collected) : Presentation where
  output := (inner.output.or outer.output).getD .text
  quiet := outer.quiet || inner.quiet
  verbose := outer.verbose || inner.verbose

def commandOf (command : CommandName) (collected : Collected) : Option Command :=
  let inputs? := collected.document.map fun document =>
    (⟨document, collected.audiences, collected.config⟩ : Inputs)
  match command with
  | .filter => inputs?.map fun inputs => .filter inputs collected.generator
  | .prune => inputs?.map fun inputs => .prune inputs collected.out
  | .generators => some .generators

/-- What is collected before the name of a command; `held` is the last option whose value stands in
an argument of its own. It is looked at when the next option comes or when the command is read. -/
structure Preamble where
  collected : Collected
  held : Option (Setting × String)

namespace Preamble

def empty : Preamble := ⟨.empty, none⟩

def settle (preamble : Preamble) : Option Collected :=
  match preamble.held with
  | none => some preamble.collected
  | some (setting, value) => preamble.collected.set setting value

end Preamble

/-- The arguments behind the name of a command. Information that is asked for there is given
whatever is held. -/
def requestOf (preamble : Preamble) (command : CommandName) (arguments : List String) :
    Option Request :=
  match readCommand command .empty none arguments with
  | none => none
  | some (.error .version) => some .version
  | some (.error .help) => some (.help (some command))
  | some (.ok inner) =>
    match preamble.settle, commandOf command inner with
    | some outer, some command => some (.run ⟨presentationOf outer inner, command⟩)
    | _, _ => none

def helpOf : List String → Option Request
  | [] => some (.help none)
  | ["help"] => some .helpOnHelp
  | [name] => (CommandName.ofName? name).map fun command => .help (some command)
  | _ => none

def readProgram : Preamble → Option Setting → List String → Option Request
  | _, _, [] => none
  | preamble, awaiting, argument :: rest =>
    let chars := argument.toList
    match awaiting with
    | some setting =>
      if isOption chars then none
      else readProgram { preamble with held := some (setting, argument) } none rest
    | none =>
      if isOption chars then
        match preamble.settle.bind (readOption none · chars) with
        | none => none
        | some (.stop .version) => some .version
        | some (.stop .help) => some (.help none)
        | some (.more next awaiting) => readProgram ⟨next, none⟩ awaiting rest
      else if argument = "help" then helpOf rest
      else
        match CommandName.ofName? argument with
        | some command => requestOf preamble command rest
        | none => none

def request? (arguments : List String) : Option Request := readProgram .empty none arguments

end AudienceScope.CommandLine
