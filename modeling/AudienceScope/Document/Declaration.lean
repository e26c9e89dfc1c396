import AudienceScope.Json.Value

/-!
Interface documents: declared types, errors and services with their endpoints, and the references
between them. A type or an error is named by a path and a simple name, a service by the path of the
file that declares it.
-/

set_option autoImplicit false

namespace AudienceScope

/-- The place of a declaration in an interface definition; empty at the root. -/
abbrev DeclarationPath := List String

structure QualifiedName where
  path : DeclarationPath
  name : String
deriving DecidableEq, Inhabited

structure ServiceName where
  path : DeclarationPath
deriving DecidableEq, Inhabited

namespace DeclarationPath

def isRoot (path : DeclarationPath) : Bool := path.isEmpty

def display (path : DeclarationPath) : String := String.intercalate "/" path

end DeclarationPath

namespace QualifiedName

def display (name : QualifiedName) : String :=
  if DeclarationPath.isRoot name.path then name.name
  else DeclarationPath.display name.path ++ "/" ++ name.name

def atMost (first second : QualifiedName) : Bool :=
  if first.path = second.path then !decide (second.name < first.name)
  else decide (first.path < second.path)

end QualifiedName

namespace ServiceName

def display (service : ServiceName) : String :=
  if DeclarationPath.isRoot service.path then "<root>" else DeclarationPath.display service.path

end ServiceName

inductive Primitive where
  | integer
  | long
  | double
  | string
  | boolean
  | dateTime
  | date
  | uuid
  | base64
deriving DecidableEq

namespace Primitive

def all : List Primitive :=
  [integer, long, double, string, boolean, dateTime, date, uuid, base64]

def text : Primitive → String
  | integer => "INTEGER"
  | long => "LONG"
  | double => "DOUBLE"
  | string => "STRING"
  | boolean => "BOOLEAN"
  | dateTime => "DATE_TIME"
  | date => "DATE"
  | uuid => "UUID"
  | base64 => "BASE64"

end Primitive

inductive Literal where
  | string (value : String)
  | boolean (value : Bool)
deriving DecidableEq

inductive TypeReference where
  | named (name : QualifiedName)
  | primitive (kind : Primitive)
  | unknown
  | void
  | list (item : TypeReference)
  | optional (item : TypeReference)
  | set (item : TypeReference)
  | map (key value : TypeReference)
  | literal (value : Literal)
deriving DecidableEq

namespace TypeReference

def names : TypeReference → List QualifiedName
  | named name => [name]
  | primitive _ | unknown | void | literal _ => []
  | list item | optional item | set item => item.names
  | map key value => key.names ++ value.names

end TypeReference

/-- A declared type. The shape is not looked into; `descendants` are types that are kept along with
this one. -/
structure TypeDeclaration where
  name : QualifiedName
  descendants : List QualifiedName
  audiences : List String
  shape : Option CanonicalJson
  docs : Option String
deriving DecidableEq

structure ErrorDeclaration where
  name : QualifiedName
  payload : Option TypeReference
  statusCode : Option UInt16
deriving DecidableEq

inductive HttpMethod where
  | get
  | post
  | put
  | patch
  | delete
deriving DecidableEq

namespace HttpMethod

def all : List HttpMethod := [get, post, put, patch, delete]

def text : HttpMethod → String
  | get => "GET"
  | post => "POST"
  | put => "PUT"
  | patch => "PATCH"
  | delete => "DELETE"

end HttpMethod

structure ResponseError where
  error : QualifiedName
  docs : Option String
deriving DecidableEq

structure Endpoint where
  name : String
  method : HttpMethod
  path : String
  request : Option TypeReference
  response : Option TypeReference
  errors : List ResponseError
  audiences : List String
deriving DecidableEq

structure Service where
  name : ServiceName
  audiences : List String
  endpoints : List Endpoint
deriving DecidableEq

structure Document where
  apiName : String
  types : List TypeDeclaration
  errors : List ErrorDeclaration
  services : List Service
deriving DecidableEq

end AudienceScope
