import AudienceScope.Document.Declaration
import AudienceScope.Json.Record

/-!
Documents read from JSON, either from a finished value or from text. Both entry points use the same
readers; a text is read along with its flaws.
-/

set_option autoImplicit false

namespace AudienceScope

open Json (Reading Record Choices ReadError Tree readText readList readChoice)

namespace QualifiedName

def record : Record (DeclarationPath × String × Unit) :=
  .defaulted "path" readText (.required "name" readText .nil)

def ofMembers : DeclarationPath × String × Unit → QualifiedName
  | (path, name, ()) => ⟨path, name⟩

def read (phrase : String) : Reading QualifiedName := fun origin tree =>
  (record.read phrase origin tree).map ofMembers

def readType : Reading QualifiedName := read "struct DeclaredTypeName"

def readError : Reading QualifiedName := read "struct DeclaredErrorName"

end QualifiedName

namespace ServiceName

def record : Record (DeclarationPath × Unit) :=
  .required "path" (readList readText) .nil

def read : Reading ServiceName := fun origin tree =>
  (record.read "struct DeclaredServiceName" origin tree).map fun (path, ()) => ⟨path⟩

end ServiceName

namespace Primitive

def choices : Choices Primitive := all.map fun kind => (kind.text, kind)

end Primitive

namespace Literal

inductive Tag where
  | string
  | boolean

def choices : Choices Tag := [("string", .string), ("boolean", .boolean)]

def read : Reading Literal := fun origin tree => do
  let (tag, body) ← Json.splitTag "internally tagged enum Literal" choices origin tree
  match tag with
  | .string =>
    let (value, ()) ← body.readRecord "struct variant Literal::String"
      (.required "string" readText .nil)
    return .string value
  | .boolean =>
    let (value, ()) ← body.readRecord "struct variant Literal::Boolean"
      (.required "boolean" Json.readBoolean .nil)
    return .boolean value

end Literal

namespace TypeReference

inductive Tag where
  | container
  | named
  | primitive
  | unknown
  | void

def choices : Choices Tag :=
  [("container", .container), ("named", .named), ("primitive", .primitive),
    ("unknown", .unknown), ("void", .void)]

inductive ContainerTag where
  | list
  | map
  | optional
  | set
  | literal

def containerChoices : Choices ContainerTag :=
  [("list", .list), ("map", .map), ("optional", .optional), ("set", .set), ("literal", .literal)]

def readContainer (readInner : Reading TypeReference) : Reading TypeReference :=
  fun origin tree => do
    let (tag, body) ←
      Json.splitTag "internally tagged enum ContainerType" containerChoices origin tree
    match tag with
    | .list =>
      let (item, ()) ← body.readRecord "struct variant ContainerType::List"
        (.required "list" readInner .nil)
      return .list item
    | .map =>
      let (key, value, ()) ← body.readRecord "struct variant ContainerType::Map"
        (.required "keyType" readInner (.required "valueType" readInner .nil))
      return .map key value
    | .optional =>
      let (item, ()) ← body.readRecord "struct variant ContainerType::Optional"
        (.required "optional" readInner .nil)
      return .optional item
    | .set =>
      let (item, ()) ← body.readRecord "struct variant ContainerType::Set"
        (.required "set" readInner .nil)
      return .set item
    | .literal =>
      let (value, ()) ← body.readRecord "struct variant ContainerType::Literal"
        (.required "literal" Literal.read .nil)
      return .literal value

/-- Reads a reference with at most `fuel` references inside each other. -/
def readWithin : (fuel : Nat) → Reading TypeReference
  | 0, _, _ => .error (.fault .tooDeep)
  | fuel + 1, origin, tree => do
    let (tag, body) ← Json.splitTag "internally tagged enum TypeReference" choices origin tree
    match tag with
    | .container =>
      let (inner, ()) ← body.readRecord "struct variant TypeReference::Container"
        (.required "container" (readContainer (readWithin fuel)) .nil)
      return inner
    | .named =>
      return .named (QualifiedName.ofMembers
        (← body.readRecord "struct DeclaredTypeName" QualifiedName.record))
    | .primitive =>
      let (kind, ()) ← body.readRecord "struct variant TypeReference::Primitive"
        (.required "primitive" (readChoice Primitive.choices) .nil)
      return .primitive kind
    | .unknown =>
      body.readNothing
      return .unknown
    | .void =>
      body.readNothing
      return .void

def read : Reading TypeReference := fun origin tree => readWithin (tree.depth + 1) origin tree

end TypeReference

namespace TypeDeclaration

def record : Record
    (QualifiedName × List QualifiedName × List String × Option Json × Option String × Unit) :=
  .required "name" QualifiedName.readType
    (.defaulted "descendants" QualifiedName.readType
      (.defaulted "audiences" readText
        (.optional "shape" Json.readAny
          (.optional "docs" readText .nil))))

def read : Reading TypeDeclaration := fun origin tree =>
  (record.read "struct TypeDeclaration" origin tree).map
    fun (name, descendants, audiences, shape, docs, ()) =>
      ⟨name, descendants, audiences, shape.map Json.toCanonical, docs⟩

end TypeDeclaration

namespace ErrorDeclaration

def record : Record (QualifiedName × Option TypeReference × Option Nat × Unit) :=
  .required "name" QualifiedName.readError
    (.optional "type" TypeReference.read
      (.optional "statusCode" (Json.readNatural 0x10000 "u16") .nil))

def read : Reading ErrorDeclaration := fun origin tree =>
  (record.read "struct ErrorDeclaration" origin tree).map
    fun (name, payload, statusCode, ()) => ⟨name, payload, statusCode.map UInt16.ofNat⟩

end ErrorDeclaration

namespace HttpMethod

def choices : Choices HttpMethod := all.map fun method => (method.text, method)

end HttpMethod

namespace ResponseError

def record : Record (QualifiedName × Option String × Unit) :=
  .required "error" QualifiedName.readError (.optional "docs" readText .nil)

def read : Reading ResponseError := fun origin tree =>
  (record.read "struct ResponseError" origin tree).map fun (error, docs, ()) => ⟨error, docs⟩

end ResponseError

namespace Endpoint

def record : Record (String × HttpMethod × String × Option TypeReference × Option TypeReference ×
    List ResponseError × List String × Unit) :=
  .required "name" readText
    (.required "method" (readChoice HttpMethod.choices)
      (.required "path" readText
        (.optional "request" TypeReference.read
          (.optional "response" TypeReference.read
            (.defaulted "errors" ResponseError.read
              (.defaulted "audiences" readText .nil))))))

def read : Reading Endpoint := fun origin tree =>
  (record.read "struct HttpEndpoint" origin tree).map
    fun (name, method, path, request, response, errors, audiences, ()) =>
      ⟨name, method, path, request, response, errors, audiences⟩

end Endpoint

namespace Service

def record : Record (ServiceName × List String × List Endpoint × Unit) :=
  .required "name" ServiceName.read
    (.defaulted "audiences" readText (.defaulted "endpoints" Endpoint.read .nil))

def read : Reading Service := fun origin tree =>
  (record.read "struct HttpService" origin tree).map
    fun (name, audiences, endpoints, ()) => ⟨name, audiences, endpoints⟩

end Service

namespace Document

def record : Record
    (String × List TypeDeclaration × List ErrorDeclaration × List Service × Unit) :=
  .required "apiName" readText
    (.defaulted "types" TypeDeclaration.read
      (.defaulted "errors" ErrorDeclaration.read
        (.defaulted "services" Service.read .nil)))

def read : Reading Document := fun origin tree =>
  (record.read "struct IntermediateRepresentation" origin tree).map
    fun (apiName, types, errors, services, ()) => ⟨apiName, types, errors, services⟩

/-- Reads a document from a finished value, whose members are taken in canonical order. -/
def ofJson (value : Json) : Except ReadError Document :=
  read .value (Tree.ofValue value.canonical)

def ofText (text : String) : Except ReadError Document :=
  let page := Json.readPage text
  match read .page page.root with
  | .error error => .error error
  | .ok document =>
    if page.trailing then .error (.fault .trailingCharacters) else .ok document

end Document

end AudienceScope
