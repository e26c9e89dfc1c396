import AudienceScope.Graph.Basic
import AudienceScope.Manifest

/-!
The closure of a graph: what the needed endpoints and types draw in. The walk visits the needed
endpoints in ascending order, and in each of them its errors and then its own types; the needed
types come last. A type that is already kept is not looked at again. Otherwise it is a candidate: it
is kept along with its descendants, which are not followed further. A document is filtered by the
closure of its graph for the audiences of a selection.
-/

set_option autoImplicit false

namespace AudienceScope

structure DanglingReference where
  kind : DeclarationKind
  id : String
deriving DecidableEq

namespace DanglingReference

def message (reference : DanglingReference) : String :=
  "failed to find " ++ reference.kind.text ++ " node with id " ++ reference.id

end DanglingReference

structure Kept where
  types : IdSet .type
  errors : IdSet .error
deriving DecidableEq

namespace AudienceGraph

def require {kind : DeclarationKind} {ν : Type} (nodes : OrderedMap (Id kind) ν) (id : Id kind) :
    Except DanglingReference ν :=
  match nodes.get? id with
  | some node => .ok node
  | none => .error ⟨kind, id.text⟩

/-- Keeps candidates and the descendants of those that were not kept before. -/
def expand (graph : AudienceGraph) (types : IdSet .type) :
    (candidates : List TypeId) → Except DanglingReference (IdSet .type)
  | [] => .ok types
  | candidate :: rest =>
    if types.contains candidate then graph.expand types rest
    else
      match require graph.types candidate with
      | .error dangling => .error dangling
      | .ok descendants => graph.expand ((types.insert candidate).union descendants) rest

/-- Keeps errors, and the payload types of those that were not kept before. -/
def visitErrors (graph : AudienceGraph) (kept : Kept) :
    (errors : List ErrorId) → Except DanglingReference Kept
  | [] => .ok kept
  | error :: rest =>
    if kept.errors.contains error then graph.visitErrors kept rest
    else
      match require graph.errors error with
      | .error dangling => .error dangling
      | .ok payload =>
        match graph.expand kept.types payload.toList with
        | .error dangling => .error dangling
        | .ok types => graph.visitErrors ⟨types, kept.errors.insert error⟩ rest

def visitEndpoints (graph : AudienceGraph) (kept : Kept) :
    (endpoints : List EndpointId) → Except DanglingReference Kept
  | [] => .ok kept
  | endpoint :: rest =>
    match require graph.endpoints endpoint with
    | .error dangling => .error dangling
    | .ok node =>
      match graph.visitErrors kept node.errors.toList with
      | .error dangling => .error dangling
      | .ok afterErrors =>
        match graph.expand afterErrors.types node.types.toList with
        | .error dangling => .error dangling
        | .ok types => graph.visitEndpoints { afterErrors with types } rest

def build (graph : AudienceGraph) : Except DanglingReference Manifest :=
  match graph.visitEndpoints ⟨.empty, .empty⟩ graph.neededEndpoints.toList with
  | .error dangling => .error dangling
  | .ok kept =>
    match graph.expand kept.types graph.neededTypes.toList with
    | .error dangling => .error dangling
    | .ok types => .ok ⟨types, kept.errors, graph.neededServices, graph.neededEndpoints⟩

end AudienceGraph

inductive Selection where
  | all
  | only (audiences : List String)
deriving DecidableEq

namespace Selection

/-- Asking for no audience in particular is asking for all. -/
def ofNames (names : List String) : Selection :=
  if names.isEmpty then .all else .only names

def toJson : Selection → Json
  | all => .object [("mode", .text "all")]
  | only audiences => .object [("mode", .text "only"), ("audiences", Json.texts audiences)]

end Selection

namespace Document

def filter (document : Document) : Selection → Except DanglingReference Manifest
  | .all => .ok (Manifest.everything document)
  | .only audiences => (document.graph audiences).build

end Document

end AudienceScope
