import AudienceScope.CommandLine.Files
import AudienceScope.CommandLine.Usage
import AudienceScope.Config
import AudienceScope.Document.Decode
import AudienceScope.Log.Filter
import AudienceScope.Report

/-!
Runs of the program. A run reads the configuration, resolves the settings, reads the document,
filters it, and for pruning into a file writes that file; it stops at the first stage that fails.
Nothing is written or printed before all earlier stages have succeeded. What the readers of the two
formats say of a text they refuse is passed on as they word it, see `Wording`.
-/

set_option autoImplicit false

namespace AudienceScope.CommandLine

open Log (Event)

/-- The first stage that failed, and why. A text that was refused is kept. -/
inductive Failure where
  | configUnreadable (path : String) (error : FileError)
  | configInvalid (path source : String) (error : ConfigError)
  | settings (error : Settings.Error)
  | documentUnreadable (path : String) (error : FileError)
  | documentInvalid (source : String) (error : Json.ReadError)
  | dangling (reference : DanglingReference)
  | unwritable (path : String) (error : FileError)
deriving DecidableEq

/-- How the readers word what they find in a text: all that is said of a refused configuration, and
the line and the column that are told with an error in a document. -/
structure Wording where
  config : String → ConfigError → String
  place : String → Json.ReadError → Option (Nat × Nat)

namespace Wording

def configReason : ConfigError → String
  | .notToml => "TOML parse error"
  | .mismatch reason => "TOML parse error: " ++ reason.message

def plain : Wording := ⟨fun _ error => configReason error, fun _ _ => none⟩

def placeText : Option (Nat × Nat) → String
  | none => ""
  | some (line, column) => " at line " ++ toString line ++ " column " ++ toString column

end Wording

namespace Failure

def describe (action path reason : String) : String := action ++ " '" ++ path ++ "': " ++ reason

def message (wording : Wording) : Failure → String
  | configUnreadable path error => describe "error reading config" path error.message
  | configInvalid path source error => describe "invalid config" path (wording.config source error)
  | settings error => error.message
  | documentUnreadable path error => describe "error reading IR file" path error.message
  | documentInvalid source error =>
    "invalid IR document: " ++ error.message ++ Wording.placeText (wording.place source error)
  | dangling reference => "filter error: " ++ reference.message
  | unwritable path error => describe "error writing" path error.message

end Failure

/-- A stage may fail; either way it tells events. -/
abbrev Stage (m : Type → Type) (α : Type) := ExceptT Failure (StateT (List Event) m) α

variable {m : Type → Type} [Monad m]

def tell (events : List Event) : Stage m Unit := modify (· ++ events)

def operate {α : Type} (action : m α) : Stage m α := ExceptT.lift (StateT.lift action)

def orFail {ε α : Type} (failure : ε → Failure) : Except ε α → Stage m α
  | .ok value => pure value
  | .error error => throw (failure error)

def defaultConfig : String := "sdkscope.toml"

def loadConfig (files : Files m) (path : String) : Stage m Config := do
  let source ← orFail (.configUnreadable path) (← operate (files.read path))
  orFail (.configInvalid path source) (Config.ofText source)

def discoverConfig (files : Files m) : Option String → Stage m (Option Config)
  | some path => do return some (← loadConfig files path)
  | none => do
    if ← operate (files.isFile defaultConfig) then
      tell [⟨.debug, .config, "using default config file", [("path", defaultConfig)]⟩]
      return some (← loadConfig files defaultConfig)
    else return none

def loadDocument (files : Files m) (path : String) : Stage m Document := do
  let source ← orFail (.documentUnreadable path) (← operate (files.read path))
  orFail (.documentInvalid source) (Document.ofText source)

def filterDocument (document : Document) (selection : Selection) : Stage m Manifest := do
  tell (document.filterEvents selection)
  orFail .dangling (document.filter selection)

structure Filtered where
  document : Document
  settings : Settings
  manifest : Manifest

def filterInputs (files : Files m) (inputs : Inputs) (generator : Option Generator) :
    Stage m Filtered := do
  let config ← discoverConfig files inputs.config
  let settings ← orFail .settings (Settings.resolve inputs.audiences generator config)
  let document ← loadDocument files inputs.document
  let manifest ← filterDocument document settings.selection
  return ⟨document, settings, manifest⟩

inductive Yield where
  | report (report : Report)
  | document (document : Document)
  | written (path : String)
  | generators

def fileText (document : Document) : String := document.pretty ++ "\n"

def writeDocument (files : Files m) (path : String) (document : Document) : Stage m Unit := do
  orFail (.unwritable path) (← operate (files.write path (fileText document)))
  tell [⟨.info, .prune, "wrote pruned IR", [("path", path)]⟩]

def perform (files : Files m) : Command → Stage m Yield
  | .filter inputs generator => do
    let filtered ← filterInputs files inputs generator
    return .report (Report.of filtered.document filtered.settings.selection
      filtered.settings.generator filtered.manifest)
  | .prune inputs out => do
    let filtered ← filterInputs files inputs none
    let pruned := filtered.manifest.prune filtered.document
    match out with
    | none => return .document pruned
    | some path =>
      writeDocument files path pruned
      return .written path
  | .generators => return .generators

/-- How a run ends: the exit code, the lines on standard output, the events told, and the lines on
standard error besides. -/
structure Outcome where
  code : UInt8
  output : List String
  events : List Event
  notices : List String

def errorLine (presentation : Presentation) (message : String) : String :=
  match presentation.output with
  | .text => message
  | .json => (Json.object [("error", .text message)]).compact

def unlessQuiet (presentation : Presentation) (lines : List String) : List String :=
  if presentation.quiet then [] else lines

/-- What a yield shows on standard output. A pruned document is shown even when quiet is asked
for. -/
def outputOf (presentation : Presentation) : Yield → List String
  | .report report =>
    unlessQuiet presentation
      (match presentation.output with
      | .text => report.lines
      | .json => [report.toJson.pretty])
  | .document document => [document.pretty]
  | .written _ => []
  | .generators =>
    let names := Generator.all.map Generator.name
    unlessQuiet presentation
      (match presentation.output with
      | .text => names
      | .json => [(Json.texts names).compact])

def noticesOf (presentation : Presentation) : Yield → List String
  | .written path => unlessQuiet presentation ["wrote " ++ path]
  | _ => []

def present (wording : Wording) (presentation : Presentation) (events : List Event) :
    Except Failure Yield → Outcome
  | .ok result => ⟨0, outputOf presentation result, events, noticesOf presentation result⟩
  | .error failure =>
    ⟨1, [], events, unlessQuiet presentation [errorLine presentation (failure.message wording)]⟩

def runInvocation (files : Files m) (wording : Wording) (invocation : Invocation) : m Outcome := do
  let (result, events) ← (perform files invocation.command).run.run []
  return present wording invocation.presentation events result

def inform (lines : List String) : Outcome := ⟨0, lines, [], []⟩

def runRequest (files : Files m) (wording : Wording) : Request → m Outcome
  | .version => return inform [versionLine]
  | .help topic => return inform (Usage.lines topic)
  | .helpOnHelp => return inform Usage.helpLines
  | .run invocation => runInvocation files wording invocation

def textOf (lines : List String) : String := String.join (lines.map (· ++ "\n"))

def Outcome.standardOutput (outcome : Outcome) : String := textOf outcome.output

/-- Events that the filter lets through stand before everything else. -/
def Outcome.standardError (outcome : Outcome) (filter : Log.Filter) : String :=
  textOf (filter.lines outcome.events ++ outcome.notices)

def Request.logFilter (given : Option String) : Request → Log.Filter
  | .run invocation => Log.Filter.choose given invocation.presentation.verbose
  | _ => Log.Filter.choose given false

end AudienceScope.CommandLine
