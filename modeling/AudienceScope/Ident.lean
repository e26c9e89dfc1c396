import AudienceScope.Document.Declaration
import AudienceScope.OrderedSet

/-!
Identifiers of declarations. An identifier is made of the declared name alone: every path segment is
escaped and followed by a slash, and behind a colon stands the escaped simple name. Escaping removes
slashes and colons from the segments and names, and the slash behind every segment tells an empty
path from a path with one empty segment.
-/

set_option autoImplicit false

namespace AudienceScope

inductive DeclarationKind where
  | type
  | error
  | service
  | endpoint
deriving DecidableEq

namespace DeclarationKind

def text : DeclarationKind → String
  | type => "type"
  | error => "error"
  | service => "service"
  | endpoint => "endpoint"

end DeclarationKind

structure Id (kind : DeclarationKind) where
  text : String
deriving DecidableEq

abbrev TypeId := Id .type
abbrev ErrorId := Id .error
abbrev ServiceId := Id .service
abbrev EndpointId := Id .endpoint

namespace Id

variable {kind : DeclarationKind}

instance : LT (Id kind) := ⟨fun first second => first.text < second.text⟩

instance : DecidableLT (Id kind) := fun first second =>
  inferInstanceAs (Decidable (first.text < second.text))

instance : StrictOrder (Id kind) where
  irrefl id := StrictOrder.irrefl id.text
  trans := fun before after => StrictOrder.trans (α := String) before after
  total first second := by
    rcases StrictOrder.total first.text second.text with before | same | after
    · exact .inl before
    · exact .inr (.inl (congrArg Id.mk same))
    · exact .inr (.inr after)

end Id

/-- Identifiers are ordered by their text. -/
abbrev IdSet (kind : DeclarationKind) := OrderedSet (Id kind)

namespace Ident

/-- Escapes the separators and the escape sign itself. -/
def escapeChar (c : Char) : List Char :=
  if c = '%' then ['%', '2', '5']
  else if c = '/' then ['%', '2', 'F']
  else if c = ':' then ['%', '3', 'A']
  else [c]

def escape (raw : List Char) : List Char := raw.flatMap escapeChar

def pathText (path : DeclarationPath) : List Char :=
  path.flatMap fun segment => escape segment.toList ++ ['/']

def qualifiedText (path : DeclarationPath) (name : String) : List Char :=
  pathText path ++ ':' :: escape name.toList

end Ident

namespace QualifiedName

def typeId (name : QualifiedName) : TypeId :=
  ⟨String.ofList (Ident.qualifiedText name.path name.name)⟩

def errorId (name : QualifiedName) : ErrorId :=
  ⟨String.ofList (Ident.qualifiedText name.path name.name)⟩

end QualifiedName

namespace ServiceName

def id (service : ServiceName) : ServiceId := ⟨String.ofList (Ident.pathText service.path)⟩

def endpointId (service : ServiceName) (endpoint : Endpoint) : EndpointId :=
  ⟨String.ofList (Ident.qualifiedText service.path endpoint.name)⟩

end ServiceName

namespace TypeReference

def collect : TypeReference → IdSet .type → IdSet .type
  | named name, found => found.insert name.typeId
  | primitive _, found | unknown, found | void, found | literal _, found => found
  | list item, found | optional item, found | set item, found => item.collect found
  | map key value, found => value.collect (key.collect found)

def typeIds (reference : TypeReference) : IdSet .type := reference.collect .empty

def collectOptional (reference? : Option TypeReference) (found : IdSet .type) : IdSet .type :=
  match reference? with
  | some reference => reference.collect found
  | none => found

end TypeReference

end AudienceScope
