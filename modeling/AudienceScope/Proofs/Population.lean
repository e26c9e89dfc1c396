import AudienceScope.Graph.Basic
import Mathlib.Data.List.Basic
import Mathlib.Data.List.Induction

/-!
The graph that a sequence of population calls fills, in closed form: each map lists what the calls
register, of which the last counts, and each set what they mark. For a document this says which
declaration stands behind an identifier and which identifiers an audience needs. Main statements:
`populateAll_eq`, `get?_types`, `get?_errors`, `get?_endpoints`, `mem_neededTypes`,
`mem_neededServices` and `mem_neededEndpoints`.
-/

set_option autoImplicit false

namespace AudienceScope

/-- Whether something with these tags is meant for one of the audiences. -/
def IsAddressed (audiences tags : List String) : Prop := ∃ tag ∈ tags, tag ∈ audiences

instance (audiences tags : List String) : Decidable (IsAddressed audiences tags) :=
  inferInstanceAs (Decidable (∃ tag ∈ tags, tag ∈ audiences))

namespace Population

@[simp] def typeEntry? : Population → Option (TypeId × IdSet .type)
  | .addType name descendants =>
      some (name.typeId, .ofList (descendants.map QualifiedName.typeId))
  | _ => none

@[simp] def errorEntry? : Population → Option (ErrorId × IdSet .type)
  | .addError declaration => some (declaration.name.errorId, declaration.typeIds)
  | _ => none

@[simp] def endpointEntry? : Population → Option (EndpointId × EndpointNode)
  | .addEndpoint service endpoint => some (service.endpointId endpoint, endpoint.node)
  | _ => none

@[simp] def markedTypes (audiences : List String) : Population → List TypeId
  | .markType name tags => if IsAddressed audiences tags then [name.typeId] else []
  | _ => []

@[simp] def markedServices (audiences : List String) : Population → List ServiceId
  | .markEndpoints service _ tags => if IsAddressed audiences tags then [service.id] else []
  | _ => []

@[simp] def markedEndpoints (audiences : List String) : Population → List EndpointId
  | .markEndpoints service endpoints tags =>
      if IsAddressed audiences tags then endpoints.map service.endpointId else []
  | _ => []

end Population

namespace AudienceGraph

open Population

/-- The graph with the contributions of some calls, regardless of how they interleave. -/
def ofCalls (audiences : List String) (calls : List Population) : AudienceGraph where
  audiences := .ofList audiences
  types := .ofList (calls.filterMap typeEntry?)
  errors := .ofList (calls.filterMap errorEntry?)
  endpoints := .ofList (calls.filterMap endpointEntry?)
  neededTypes := .ofList (calls.flatMap (markedTypes audiences))
  neededServices := .ofList (calls.flatMap (markedServices audiences))
  neededEndpoints := .ofList (calls.flatMap (markedEndpoints audiences))

theorem isAddressed_ofCalls (audiences : List String) (calls : List Population)
    (tags : List String) :
    (ofCalls audiences calls).isAddressed tags = decide (IsAddressed audiences tags) := by
  rw [Bool.eq_iff_iff, decide_eq_true_iff]
  unfold isAddressed IsAddressed
  simp only [List.any_eq_true, OrderedSet.contains_iff, ofCalls, OrderedSet.mem_ofList]

theorem populate_ofCalls (audiences : List String) (calls : List Population) (call : Population) :
    (ofCalls audiences calls).populate call = ofCalls audiences (calls ++ [call]) := by
  cases call with
  | addType name descendants =>
      simp [populate, ofCalls, OrderedMap.ofList_concat, List.filterMap_cons]
  | addError declaration =>
      simp [populate, ofCalls, OrderedMap.ofList_concat, List.filterMap_cons]
  | addEndpoint service endpoint =>
      simp [populate, ofCalls, OrderedMap.ofList_concat, List.filterMap_cons]
  | markType name tags =>
      rw [populate, isAddressed_ofCalls]
      by_cases addressed : IsAddressed audiences tags
      · simp [addressed, ofCalls, OrderedSet.ofList_append, OrderedSet.addAll,
          List.filterMap_cons]
      · simp [addressed, ofCalls, List.filterMap_cons]
  | markEndpoints service endpoints tags =>
      rw [populate, isAddressed_ofCalls]
      by_cases addressed : IsAddressed audiences tags
      · simp [addressed, ofCalls, OrderedSet.ofList_append, OrderedSet.addAll,
          List.filterMap_cons]
      · simp [addressed, ofCalls, List.filterMap_cons]

theorem populateAll_concat (graph : AudienceGraph) (calls : List Population)
    (call : Population) :
    graph.populateAll (calls ++ [call]) = (graph.populateAll calls).populate call := by
  rw [populateAll, List.foldl_append]
  rfl

theorem populateAll_eq (audiences : List String) (calls : List Population) :
    (empty audiences).populateAll calls = ofCalls audiences calls := by
  induction calls using List.reverseRecOn with
  | nil => rfl
  | append_singleton calls call ih =>
      rw [populateAll_concat, ih, populate_ofCalls]

end AudienceGraph

def TypeDeclaration.descendantIds (declaration : TypeDeclaration) : IdSet .type :=
  .ofList (declaration.descendants.map QualifiedName.typeId)

namespace Document

open Population

def endpoints (document : Document) : List (ServiceName × Endpoint) :=
  document.services.flatMap fun service => service.endpoints.map fun endpoint =>
    (service.name, endpoint)

theorem mem_endpoints {document : Document} {declared : ServiceName × Endpoint} :
    declared ∈ document.endpoints ↔
      ∃ service ∈ document.services, service.name = declared.1 ∧
        declared.2 ∈ service.endpoints := by
  obtain ⟨name, endpoint⟩ := declared
  simp only [endpoints, List.mem_flatMap, List.mem_map, Prod.mk.injEq]
  constructor
  · intro member
    obtain ⟨service, declares, _, holds, sameName, rfl⟩ := member
    exact ⟨service, declares, sameName, holds⟩
  · intro member
    obtain ⟨service, declares, sameName, holds⟩ := member
    exact ⟨service, declares, endpoint, holds, sameName, rfl⟩

/-- Of several declarations of one identifier the last counts. -/
def lastType? (document : Document) (id : TypeId) : Option TypeDeclaration :=
  (document.types.filter fun declaration => declaration.name.typeId = id).getLast?

def lastError? (document : Document) (id : ErrorId) : Option ErrorDeclaration :=
  (document.errors.filter fun declaration => declaration.name.errorId = id).getLast?

def lastEndpoint? (document : Document) (id : EndpointId) : Option Endpoint :=
  (document.endpoints.filter fun declared => declared.1.endpointId declared.2 = id).getLast?.map
    Prod.snd

theorem mem_of_lastType? {document : Document} {id : TypeId} {declaration : TypeDeclaration}
    (last : document.lastType? id = some declaration) :
    declaration ∈ document.types ∧ declaration.name.typeId = id := by
  simpa using List.mem_filter.mp (List.mem_of_getLast? last)

theorem mem_of_lastError? {document : Document} {id : ErrorId} {declaration : ErrorDeclaration}
    (last : document.lastError? id = some declaration) :
    declaration ∈ document.errors ∧ declaration.name.errorId = id := by
  simpa using List.mem_filter.mp (List.mem_of_getLast? last)

theorem graph_eq (document : Document) (audiences : List String) :
    document.graph audiences = .ofCalls audiences document.population :=
  AudienceGraph.populateAll_eq audiences document.population

/-! ### Registered nodes -/

/-- What only registrations add comes from the declarations, each kind in its order. -/
theorem filterMap_population {α : Type} {found? : Population → Option α}
    (ofMarkType : ∀ name tags, found? (.markType name tags) = none)
    (ofMarkEndpoints : ∀ service endpoints tags,
      found? (.markEndpoints service endpoints tags) = none) (document : Document) :
    document.population.filterMap found? =
      (document.types.filterMap fun declaration =>
        found? (.addType declaration.name declaration.descendants)) ++
      (document.errors.filterMap fun declaration => found? (.addError declaration)) ++
      document.endpoints.filterMap fun declared => found? (.addEndpoint declared.1 declared.2) := by
  have fromType (declaration : TypeDeclaration) : declaration.population.filterMap found? =
      (found? (.addType declaration.name declaration.descendants)).toList := by
    cases added : found? (.addType declaration.name declaration.descendants) <;>
      simp [TypeDeclaration.population, ofMarkType, added]
  have fromEndpoint (service : ServiceName) (endpoint : Endpoint) :
      (endpoint.population service).filterMap found? =
        (found? (.addEndpoint service endpoint)).toList := by
    cases added : found? (.addEndpoint service endpoint) <;>
      simp [Endpoint.population, ofMarkEndpoints, added]
  have fromService (service : Service) : service.population.filterMap found? =
      service.endpoints.filterMap fun endpoint => found? (.addEndpoint service.name endpoint) := by
    rw [Service.population, List.filterMap_append, List.filterMap_flatMap]
    simp only [fromEndpoint, ← List.filterMap_eq_flatMap_toList]
    simp [ofMarkEndpoints]
  rw [population, List.filterMap_append, List.filterMap_append, List.filterMap_flatMap,
    List.filterMap_flatMap, List.filterMap_map, endpoints, List.filterMap_flatMap]
  simp only [fromType, fromService, List.filterMap_map, ← List.filterMap_eq_flatMap_toList]
  rfl

theorem filterMap_typeEntry? (document : Document) :
    document.population.filterMap typeEntry? =
      document.types.map fun declaration =>
        (declaration.name.typeId, declaration.descendantIds) := by
  rw [filterMap_population (fun _ _ => rfl) (fun _ _ _ => rfl)]
  simp [TypeDeclaration.descendantIds]

theorem filterMap_errorEntry? (document : Document) :
    document.population.filterMap errorEntry? =
      document.errors.map fun declaration => (declaration.name.errorId, declaration.typeIds) := by
  rw [filterMap_population (fun _ _ => rfl) (fun _ _ _ => rfl)]
  simp

theorem filterMap_endpointEntry? (document : Document) :
    document.population.filterMap endpointEntry? =
      document.endpoints.map fun declared =>
        (declared.1.endpointId declared.2, declared.2.node) := by
  rw [filterMap_population (fun _ _ => rfl) (fun _ _ _ => rfl)]
  simp

theorem get?_types (document : Document) (audiences : List String) (id : TypeId) :
    (document.graph audiences).types.get? id =
      (document.lastType? id).map TypeDeclaration.descendantIds := by
  rw [graph_eq, AudienceGraph.ofCalls, filterMap_typeEntry?, OrderedMap.get?_ofList,
    List.filter_map, List.getLast?_map, Option.map_map]
  rfl

theorem get?_errors (document : Document) (audiences : List String) (id : ErrorId) :
    (document.graph audiences).errors.get? id =
      (document.lastError? id).map ErrorDeclaration.typeIds := by
  rw [graph_eq, AudienceGraph.ofCalls, filterMap_errorEntry?, OrderedMap.get?_ofList,
    List.filter_map, List.getLast?_map, Option.map_map]
  rfl

theorem get?_endpoints (document : Document) (audiences : List String) (id : EndpointId) :
    (document.graph audiences).endpoints.get? id =
      (document.lastEndpoint? id).map Endpoint.node := by
  rw [graph_eq, AudienceGraph.ofCalls, filterMap_endpointEntry?, OrderedMap.get?_ofList,
    List.filter_map, List.getLast?_map, Option.map_map, lastEndpoint?, Option.map_map]
  rfl

theorem mem_neededTypes {document : Document} {audiences : List String} {id : TypeId} :
    id ∈ (document.graph audiences).neededTypes ↔
      ∃ declaration ∈ document.types, declaration.name.typeId = id ∧
        IsAddressed audiences declaration.audiences := by
  have marked : id ∈ document.population.flatMap (markedTypes audiences) ↔
      ∃ declaration ∈ document.types, IsAddressed audiences declaration.audiences ∧
        id = declaration.name.typeId := by
    simp [population, TypeDeclaration.population, Service.population, Endpoint.population,
      List.flatMap_assoc]
  rw [graph_eq, AudienceGraph.ofCalls, OrderedSet.mem_ofList, marked]
  constructor
  · intro needed
    obtain ⟨declaration, declares, addressed, rfl⟩ := needed
    exact ⟨declaration, declares, rfl, addressed⟩
  · intro needed
    obtain ⟨declaration, declares, rfl, addressed⟩ := needed
    exact ⟨declaration, declares, addressed, rfl⟩

theorem mem_neededServices {document : Document} {audiences : List String} {id : ServiceId} :
    id ∈ (document.graph audiences).neededServices ↔
      ∃ service ∈ document.services, service.name.id = id ∧
        (IsAddressed audiences service.audiences ∨
          ∃ endpoint ∈ service.endpoints, IsAddressed audiences endpoint.audiences) := by
  have marked : id ∈ document.population.flatMap (markedServices audiences) ↔
      ∃ service ∈ document.services,
        (∃ endpoint ∈ service.endpoints, IsAddressed audiences endpoint.audiences ∧
          id = service.name.id) ∨
        IsAddressed audiences service.audiences ∧ id = service.name.id := by
    simp [population, TypeDeclaration.population, Service.population, Endpoint.population,
      List.flatMap_assoc]
  rw [graph_eq, AudienceGraph.ofCalls, OrderedSet.mem_ofList, marked]
  constructor
  · intro needed
    rcases needed with ⟨service, declares, ⟨endpoint, holds, addressed, rfl⟩ | ⟨addressed, rfl⟩⟩
    · exact ⟨service, declares, rfl, .inr ⟨endpoint, holds, addressed⟩⟩
    · exact ⟨service, declares, rfl, .inl addressed⟩
  · intro needed
    rcases needed with ⟨service, declares, rfl, addressed | ⟨endpoint, holds, addressed⟩⟩
    · exact ⟨service, declares, .inr ⟨addressed, rfl⟩⟩
    · exact ⟨service, declares, .inl ⟨endpoint, holds, addressed, rfl⟩⟩

theorem mem_neededEndpoints {document : Document} {audiences : List String} {id : EndpointId} :
    id ∈ (document.graph audiences).neededEndpoints ↔
      ∃ service ∈ document.services, ∃ endpoint ∈ service.endpoints,
        service.name.endpointId endpoint = id ∧
          (IsAddressed audiences service.audiences ∨ IsAddressed audiences endpoint.audiences) := by
  have marked : id ∈ document.population.flatMap (markedEndpoints audiences) ↔
      ∃ service ∈ document.services,
        (∃ endpoint ∈ service.endpoints, IsAddressed audiences endpoint.audiences ∧
          id = service.name.endpointId endpoint) ∨
        IsAddressed audiences service.audiences ∧
          ∃ endpoint ∈ service.endpoints, service.name.endpointId endpoint = id := by
    simp [population, TypeDeclaration.population, Service.population, Endpoint.population,
      List.flatMap_assoc]
  rw [graph_eq, AudienceGraph.ofCalls, OrderedSet.mem_ofList, marked]
  constructor
  · intro needed
    rcases needed with ⟨service, declares, ⟨endpoint, holds, addressed, rfl⟩ |
      ⟨addressed, endpoint, holds, same⟩⟩
    · exact ⟨service, declares, endpoint, holds, rfl, .inr addressed⟩
    · exact ⟨service, declares, endpoint, holds, same, .inl addressed⟩
  · intro needed
    rcases needed with ⟨service, declares, endpoint, holds, rfl, addressed | addressed⟩
    · exact ⟨service, declares, .inr ⟨addressed, endpoint, holds, rfl⟩⟩
    · exact ⟨service, declares, .inl ⟨endpoint, holds, addressed, rfl⟩⟩

end Document

end AudienceScope
