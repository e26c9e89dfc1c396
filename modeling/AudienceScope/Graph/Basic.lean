import AudienceScope.Ident
import AudienceScope.OrderedMap

/-!
The graph of a document's references, seen by a fixed set of audiences. It is filled by calls that
register declarations and mark those that an audience asks for, in any order: a mark may name what
is registered later or never.
-/

set_option autoImplicit false

namespace AudienceScope

structure EndpointNode where
  types : IdSet .type
  errors : IdSet .error
deriving DecidableEq

/-- A registered type carries its descendants, a registered error the types of its payload. -/
structure AudienceGraph where
  audiences : OrderedSet String
  types : OrderedMap TypeId (IdSet .type)
  errors : OrderedMap ErrorId (IdSet .type)
  endpoints : OrderedMap EndpointId EndpointNode
  neededTypes : IdSet .type
  neededServices : IdSet .service
  neededEndpoints : IdSet .endpoint
deriving DecidableEq

inductive Population where
  | addType (name : QualifiedName) (descendants : List QualifiedName)
  | markType (name : QualifiedName) (audiences : List String)
  | addError (declaration : ErrorDeclaration)
  | addEndpoint (service : ServiceName) (endpoint : Endpoint)
  | markEndpoints (service : ServiceName) (endpoints : List Endpoint) (audiences : List String)

def ErrorDeclaration.typeIds (declaration : ErrorDeclaration) : IdSet .type :=
  TypeReference.collectOptional declaration.payload .empty

def Endpoint.node (endpoint : Endpoint) : EndpointNode where
  types := TypeReference.collectOptional endpoint.response
    (TypeReference.collectOptional endpoint.request .empty)
  errors := .ofList (endpoint.errors.map fun response => response.error.errorId)

namespace AudienceGraph

def empty (audiences : List String) : AudienceGraph where
  audiences := .ofList audiences
  types := .empty
  errors := .empty
  endpoints := .empty
  neededTypes := .empty
  neededServices := .empty
  neededEndpoints := .empty

def isAddressed (graph : AudienceGraph) (tags : List String) : Bool :=
  tags.any graph.audiences.contains

/-- Registers or marks. Registering an identifier again replaces what it carries; a mark counts
only if one of its tags is an audience of the graph. -/
def populate (graph : AudienceGraph) : Population → AudienceGraph
  | .addType name descendants =>
    { graph with
      types := graph.types.insert name.typeId (.ofList (descendants.map QualifiedName.typeId)) }
  | .markType name tags =>
    if graph.isAddressed tags then
      { graph with neededTypes := graph.neededTypes.insert name.typeId }
    else graph
  | .addError declaration =>
    { graph with
      errors := graph.errors.insert declaration.name.errorId declaration.typeIds }
  | .addEndpoint service endpoint =>
    { graph with
      endpoints := graph.endpoints.insert (service.endpointId endpoint) endpoint.node }
  | .markEndpoints service endpoints tags =>
    if graph.isAddressed tags then
      { graph with
        neededServices := graph.neededServices.insert service.id
        neededEndpoints := graph.neededEndpoints.addAll (endpoints.map service.endpointId) }
    else graph

def populateAll (graph : AudienceGraph) (steps : List Population) : AudienceGraph :=
  steps.foldl populate graph

end AudienceGraph

def TypeDeclaration.population (declaration : TypeDeclaration) : List Population :=
  [.addType declaration.name declaration.descendants,
    .markType declaration.name declaration.audiences]

def Endpoint.population (service : ServiceName) (endpoint : Endpoint) : List Population :=
  [.addEndpoint service endpoint, .markEndpoints service [endpoint] endpoint.audiences]

def Service.population (service : Service) : List Population :=
  service.endpoints.flatMap (Endpoint.population service.name) ++
    [.markEndpoints service.name service.endpoints service.audiences]

def Document.population (document : Document) : List Population :=
  document.types.flatMap TypeDeclaration.population ++ document.errors.map .addError ++
    document.services.flatMap Service.population

def Document.graph (document : Document) (audiences : List String) : AudienceGraph :=
  (AudienceGraph.empty audiences).populateAll document.population

end AudienceScope
