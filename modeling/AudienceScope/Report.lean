import AudienceScope.Manifest
import AudienceScope.Generator
import AudienceScope.Graph.Closure

/-!
Reports on what a manifest keeps of a document: counts of each kind, the tag of the manifest, and
findings worth showing.
-/

set_option autoImplicit false

namespace AudienceScope

structure KindCount where
  retained : Nat
  total : Nat
deriving DecidableEq

namespace KindCount

def excluded (count : KindCount) : Nat := count.total - count.retained

def toJson (count : KindCount) : Json :=
  .object [("retained", Json.natural count.retained), ("total", Json.natural count.total)]

def readSize : Json.Reading Nat := Json.readNatural 0x10000000000000000 "usize"

end KindCount

structure DeclarationCounts where
  types : KindCount
  errors : KindCount
  services : KindCount
  endpoints : KindCount
deriving DecidableEq

namespace DeclarationCounts

def total (counts : List Nat) : Nat := counts.foldr (· + ·) 0

/-- Counts declarations, not identifiers: a repeated declaration counts each time, an identifier
without a declaration never, and endpoints only in services that are kept. -/
def of (document : Document) (manifest : Manifest) : DeclarationCounts where
  types := ⟨document.types.countP manifest.keepsType, document.types.length⟩
  errors := ⟨document.errors.countP manifest.keepsError, document.errors.length⟩
  services := ⟨document.services.countP manifest.keepsService, document.services.length⟩
  endpoints :=
    { retained := total ((document.services.filter manifest.keepsService).map fun service =>
        service.endpoints.countP (manifest.keepsEndpoint service.name))
      total := total (document.services.map fun service => service.endpoints.length) }

def byKind (counts : DeclarationCounts) : List (DeclarationKind × KindCount) :=
  [(.type, counts.types), (.error, counts.errors), (.service, counts.services),
    (.endpoint, counts.endpoints)]

def toJson (counts : DeclarationCounts) : Json :=
  .object
    [("types", counts.types.toJson), ("errors", counts.errors.toJson),
      ("services", counts.services.toJson), ("endpoints", counts.endpoints.toJson)]

end DeclarationCounts

inductive Finding where
  | nothingVisible (audiences : List String)
  | excluded (kind : DeclarationKind) (count : KindCount)
deriving DecidableEq

namespace Finding

def isWarning : Finding → Bool
  | nothingVisible _ => true
  | excluded _ _ => false

def message : Finding → String
  | nothingVisible audiences =>
    "No declarations are visible to audience(s): " ++ String.intercalate ", " audiences
  | excluded kind count =>
    toString count.excluded ++ " of " ++ toString count.total ++ " " ++ kind.text ++
      "(s) excluded"

def toJson (finding : Finding) : Json :=
  .object
    [("severity", .text (if finding.isWarning then "Warning" else "Info")),
      ("message", .text finding.message)]

def exclusions (counts : DeclarationCounts) : List Finding :=
  (counts.byKind.filter fun entry => 0 < entry.2.excluded).map fun entry =>
    .excluded entry.1 entry.2

/-- An empty manifest for chosen audiences is the only finding; else each kind of which something is
left out is one. -/
def list (selection : Selection) (counts : DeclarationCounts) (manifest : Manifest) :
    List Finding :=
  match selection with
  | .only audiences =>
    if manifest.isEmpty then [.nothingVisible audiences] else exclusions counts
  | .all => exclusions counts

end Finding

structure Report where
  apiName : String
  generator : Option Generator
  selection : Selection
  counts : DeclarationCounts
  etag : String
  retained : Manifest
  findings : List Finding

namespace Report

def of (document : Document) (selection : Selection) (generator : Option Generator)
    (manifest : Manifest) : Report :=
  let counts := DeclarationCounts.of document manifest
  { apiName := document.apiName
    generator
    selection
    counts
    etag := manifest.etag
    retained := manifest
    findings := Finding.list selection counts manifest }

def toJson (report : Report) : Json :=
  .object
    ([("api_name", .text report.apiName)] ++
      Json.optionalMember "generator" (report.generator.map (.text ·.name)) ++
      [("selection", report.selection.toJson),
        ("counts", report.counts.toJson),
        ("etag", .text report.etag),
        ("retained", report.retained.toJson),
        ("findings", .list (report.findings.map Finding.toJson))])

def kindLines {kind : DeclarationKind} (label : String) (count : KindCount) (ids : IdSet kind) :
    List String :=
  ("  " ++ label ++ ": " ++ toString count.retained ++ " of " ++ toString count.total ++
    " retained") :: ids.toList.map fun id => "    " ++ id.text

def findingLine (finding : Finding) : String :=
  "  " ++ (if finding.isWarning then "WARNING" else "info") ++ ": " ++ finding.message

def lines (report : Report) : List String :=
  let audiences := match report.selection with
    | .all => "(all)"
    | .only audiences => String.intercalate ", " audiences
  let generator := match report.generator with
    | some generator => ["  Generator: " ++ generator.name]
    | none => []
  let findings := if report.findings.isEmpty then [] else "" :: report.findings.map findingLine
  ["Audience Filter Report", "======================", "", "  API: " ++ report.apiName,
      "  Audiences: " ++ audiences] ++
    generator ++ [""] ++
    kindLines "Types" report.counts.types report.retained.types ++
    kindLines "Errors" report.counts.errors report.retained.errors ++
    kindLines "Services" report.counts.services report.retained.services ++
    kindLines "Endpoints" report.counts.endpoints report.retained.endpoints ++
    findings ++ ["", "  etag: " ++ report.etag]

end Report

end AudienceScope
