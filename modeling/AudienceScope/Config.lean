import AudienceScope.Decimal.Shortest
import AudienceScope.Generator
import AudienceScope.Graph.Closure
import AudienceScope.Text.Character
import AudienceScope.Toml.Reader

/-!
The configuration file and the settings of a run. Values of the command line win over those of the
file, and asking for no audience is asking for all.
-/

set_option autoImplicit false

namespace AudienceScope

structure FilterSection where
  audiences : List String
  generator : Option Generator
deriving DecidableEq

namespace FilterSection

def empty : FilterSection := ⟨[], none⟩

end FilterSection

structure Config where
  filter : FilterSection
deriving DecidableEq

inductive ConfigError where
  | notToml
  | mismatch (reason : Mismatch)
deriving DecidableEq

namespace Toml.Node

def floatFormat : Decimal.Format := ⟨.up, none, none⟩

/-- What a value is, without looking into it. A date counts as a table. -/
def found : Node → Found
  | .text value => .text value
  | .integer value => .integer value
  | .float value => .fraction (String.ofList (Decimal.text floatFormat value))
  | .boolean value => .boolean value
  | .list _ | .tables _ _ => .sequence
  | .moment | .inline _ | .table _ _ => .map

def items? : Node → Option (List Node)
  | .list items => some items
  | .tables earlier last => some ((earlier ++ [last]).map (Node.table .headed))
  | _ => none

/-- The key under which a date shows up where a table is expected. -/
def momentKey : String := "$__toml_private_datetime"

def entries? : Node → Option Entries
  | .inline entries | .table _ entries => some entries
  | .moment => some [(momentKey, .moment)]
  | _ => none

end Toml.Node

namespace Config

def refuse {α : Type} (expected : String) (node : Toml.Node) : Except Mismatch α :=
  .error (.wrongType node.found expected)

def readText (node : Toml.Node) : Except Mismatch String :=
  match node with
  | .text value => .ok value
  | _ => refuse "a string" node

def readAudiences (node : Toml.Node) : Except Mismatch (List String) :=
  match node.items? with
  | some items => items.mapM readText
  | none => refuse "a sequence" node

def readGenerator (node : Toml.Node) : Except Mismatch Generator := do
  let name ← readText node
  match Generator.ofName? name with
  | some generator => .ok generator
  | none => .error (.refused (Generator.unknownMessage name))

def readFilterEntry (content : FilterSection) (entry : String × Toml.Node) :
    Except Mismatch FilterSection :=
  match entry with
  | ("audiences", node) =>
    (readAudiences node).map fun audiences => { content with audiences }
  | ("generator", node) =>
    (readGenerator node).map fun generator => { content with generator := some generator }
  | (key, _) => .error (.unknownField key ["audiences", "generator"])

/-- Reads a section written as a list of its values; further items are not looked at. -/
def readFilterItems (items : List Toml.Node) : Except Mismatch FilterSection :=
  match items with
  | [] => .ok .empty
  | [audiences] => (readAudiences audiences).map fun audiences => ⟨audiences, none⟩
  | audiences :: generator :: _ => do
    let audiences ← readAudiences audiences
    return ⟨audiences, some (← readGenerator generator)⟩

def readFilter (node : Toml.Node) : Except Mismatch FilterSection :=
  match node.entries?, node.items? with
  | some entries, _ => entries.foldlM readFilterEntry .empty
  | none, some items => readFilterItems items
  | none, none => refuse "struct FilterConfig" node

def readEntry (config : Config) (entry : String × Toml.Node) : Except Mismatch Config :=
  match entry with
  | ("filter", node) => (readFilter node).map fun filter => { config with filter }
  | (key, _) => .error (.unknownField key ["filter"])

def empty : Config := ⟨.empty⟩

/-- Reads a configuration. The whole text has to be TOML before its content is looked at. -/
def ofText (source : String) : Except ConfigError Config :=
  match Toml.parse? source with
  | none => .error .notToml
  | some entries =>
    match entries.foldlM readEntry empty with
    | .ok config => .ok config
    | .error reason => .error (.mismatch reason)

def toJson (config : Config) : Json :=
  .object [("filter", .object
    [("audiences", Json.texts config.filter.audiences),
      ("generator", match config.filter.generator with
        | some generator => .text generator.name
        | none => .null)])]

end Config

/-! ### Settings -/

structure Settings where
  selection : Selection
  generator : Option Generator
deriving DecidableEq

namespace Settings

/-- An audience without a visible character in its name is refused. -/
inductive Error where
  | emptyAudience
deriving DecidableEq

namespace Error

def message : Error → String
  | emptyAudience => "audience names cannot be empty"

end Error

/-- The values of the command line where it gives some, else those of the configuration. -/
def resolve (audiences : List String) (generator : Option Generator) (config : Option Config) :
    Except Error Settings :=
  let configured := match config with
    | some config => config.filter
    | none => .empty
  let chosen := if audiences.isEmpty then configured.audiences else audiences
  if chosen.any Text.isBlank then .error .emptyAudience
  else .ok ⟨Selection.ofNames chosen, generator.or configured.generator⟩

end Settings

end AudienceScope
