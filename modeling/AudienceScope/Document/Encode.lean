import AudienceScope.Document.Declaration
import AudienceScope.Json.Printer

/-!
Documents as JSON values. Members stand in declaration order; lists are always written, absent
optional members never.
-/

set_option autoImplicit false

namespace AudienceScope

open Json

def Json.optionalMember (name : String) (value? : Option Json) : List (String × Json) :=
  match value? with
  | some value => [(name, value)]
  | none => []

namespace QualifiedName

def members (name : QualifiedName) : List (String × Json) :=
  [("path", Json.texts name.path), ("name", .text name.name)]

def toJson (name : QualifiedName) : Json := .object name.members

end QualifiedName

namespace ServiceName

def toJson (service : ServiceName) : Json := .object [("path", Json.texts service.path)]

end ServiceName

def Json.tagged (tag : String) (members : List (String × Json)) : Json :=
  .object (("_type", .text tag) :: members)

namespace Literal

def toJson : Literal → Json
  | string value => Json.tagged "string" [("string", .text value)]
  | boolean value => Json.tagged "boolean" [("boolean", .boolean value)]

end Literal

namespace TypeReference

def container (tag : String) (members : List (String × Json)) : Json :=
  Json.tagged "container" [("container", Json.tagged tag members)]

def toJson : TypeReference → Json
  | named name => Json.tagged "named" name.members
  | primitive kind => Json.tagged "primitive" [("primitive", .text kind.text)]
  | unknown => Json.tagged "unknown" []
  | void => Json.tagged "void" []
  | list item => container "list" [("list", item.toJson)]
  | optional item => container "optional" [("optional", item.toJson)]
  | set item => container "set" [("set", item.toJson)]
  | map key value => container "map" [("keyType", key.toJson), ("valueType", value.toJson)]
  | literal value => container "literal" [("literal", value.toJson)]

end TypeReference

namespace TypeDeclaration

def toJson (declaration : TypeDeclaration) : Json :=
  .object
    ([("name", declaration.name.toJson),
      ("descendants", .list (declaration.descendants.map QualifiedName.toJson)),
      ("audiences", Json.texts declaration.audiences)] ++
      Json.optionalMember "shape" (declaration.shape.map CanonicalJson.value) ++
      Json.optionalMember "docs" (declaration.docs.map .text))

end TypeDeclaration

namespace ErrorDeclaration

def toJson (declaration : ErrorDeclaration) : Json :=
  .object
    ([("name", declaration.name.toJson)] ++
      Json.optionalMember "type" (declaration.payload.map TypeReference.toJson) ++
      Json.optionalMember "statusCode"
        (declaration.statusCode.map fun code => Json.natural code.toNat))

end ErrorDeclaration

namespace ResponseError

def toJson (response : ResponseError) : Json :=
  .object
    ([("error", response.error.toJson)] ++
      Json.optionalMember "docs" (response.docs.map .text))

end ResponseError

namespace Endpoint

def toJson (endpoint : Endpoint) : Json :=
  .object
    ([("name", .text endpoint.name),
      ("method", .text endpoint.method.text),
      ("path", .text endpoint.path)] ++
      Json.optionalMember "request" (endpoint.request.map TypeReference.toJson) ++
      Json.optionalMember "response" (endpoint.response.map TypeReference.toJson) ++
      [("errors", .list (endpoint.errors.map ResponseError.toJson)),
        ("audiences", Json.texts endpoint.audiences)])

end Endpoint

namespace Service

def toJson (service : Service) : Json :=
  .object
    [("name", service.name.toJson),
      ("audiences", Json.texts service.audiences),
      ("endpoints", .list (service.endpoints.map Endpoint.toJson))]

end Service

namespace Document

def toJson (document : Document) : Json :=
  .object
    [("apiName", .text document.apiName),
      ("types", .list (document.types.map TypeDeclaration.toJson)),
      ("errors", .list (document.errors.map ErrorDeclaration.toJson)),
      ("services", .list (document.services.map Service.toJson))]

def compact (document : Document) : String := document.toJson.compact

def pretty (document : Document) : String := document.toJson.pretty

end Document

end AudienceScope
