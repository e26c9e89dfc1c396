import AudienceScope.Document.Encode
import AudienceScope.Ident
import AudienceScope.Json.Record
import AudienceScope.Sha256

/-!
Manifests: the identifiers of the declarations that are kept, and the pruning of a document to them.
The tag of a manifest is the digest of its identifiers, kind by kind in ascending order.
-/

set_option autoImplicit false

namespace AudienceScope

structure Manifest where
  types : IdSet .type
  errors : IdSet .error
  services : IdSet .service
  endpoints : IdSet .endpoint
deriving DecidableEq

namespace Manifest

def everything (document : Document) : Manifest where
  types := .ofList (document.types.map fun declaration => declaration.name.typeId)
  errors := .ofList (document.errors.map fun declaration => declaration.name.errorId)
  services := .ofList (document.services.map fun service => service.name.id)
  endpoints := .ofList (document.services.flatMap fun service =>
    service.endpoints.map service.name.endpointId)

def isEmpty (manifest : Manifest) : Bool :=
  manifest.types.isEmpty && manifest.errors.isEmpty && manifest.services.isEmpty &&
    manifest.endpoints.isEmpty

def keepsType (manifest : Manifest) (declaration : TypeDeclaration) : Bool :=
  manifest.types.contains declaration.name.typeId

def keepsError (manifest : Manifest) (declaration : ErrorDeclaration) : Bool :=
  manifest.errors.contains declaration.name.errorId

def keepsService (manifest : Manifest) (service : Service) : Bool :=
  manifest.services.contains service.name.id

def keepsEndpoint (manifest : Manifest) (service : ServiceName) (endpoint : Endpoint) : Bool :=
  manifest.endpoints.contains (service.endpointId endpoint)

def pruneService (manifest : Manifest) (service : Service) : Service :=
  { service with endpoints := service.endpoints.filter (manifest.keepsEndpoint service.name) }

def prune (manifest : Manifest) (document : Document) : Document where
  apiName := document.apiName
  types := document.types.filter manifest.keepsType
  errors := document.errors.filter manifest.keepsError
  services := (document.services.filter manifest.keepsService).map manifest.pruneService

def idTexts {kind : DeclarationKind} (ids : IdSet kind) : Json :=
  Json.texts (ids.toList.map Id.text)

def toJson (manifest : Manifest) : Json :=
  .object
    [("types", idTexts manifest.types),
      ("errors", idTexts manifest.errors),
      ("services", idTexts manifest.services),
      ("endpoints", idTexts manifest.endpoints)]

/-- Texts taken as identifiers. Order and repetition do not count. -/
def idsOf {kind : DeclarationKind} (texts : List String) : IdSet kind :=
  .ofList (texts.map Id.mk)

def record : Json.Record (List String × List String × List String × List String × Unit) :=
  .required "types" (Json.readList Json.readText)
    (.required "errors" (Json.readList Json.readText)
      (.required "services" (Json.readList Json.readText)
        (.required "endpoints" (Json.readList Json.readText) .nil)))

def read : Json.Reading Manifest := fun origin tree =>
  (record.read "struct FilteredIr" origin tree).map
    fun (types, errors, services, endpoints, ()) =>
      ⟨idsOf types, idsOf errors, idsOf services, idsOf endpoints⟩

def utf8 (text : String) : List UInt8 := text.toUTF8.toList

/-- A section: its name and its identifiers, each ended by a zero byte, and an end mark that occurs
in no UTF-8 text. -/
def etagSection (name : String) (ids : List String) : List UInt8 :=
  utf8 name ++ 0x00 :: (ids.flatMap (fun id => utf8 id ++ [0x00]) ++ [0xff])

def etagInput (manifest : Manifest) : List UInt8 :=
  etagSection "types" (manifest.types.toList.map Id.text) ++
    etagSection "errors" (manifest.errors.toList.map Id.text) ++
    etagSection "services" (manifest.services.toList.map Id.text) ++
    etagSection "endpoints" (manifest.endpoints.toList.map Id.text)

def etag (manifest : Manifest) : String := Sha256.hexDigest manifest.etagInput

end Manifest

end AudienceScope
