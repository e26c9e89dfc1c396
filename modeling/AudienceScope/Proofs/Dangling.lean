import AudienceScope.Proofs.Isolation
import AudienceScope.Proofs.SelfContained

/-!
When filtering a document fails. Of all that the closure comes by, marked types and needed endpoints
are declared by the document itself, and descendants are not looked up. So only an error that an
endpoint lists and a type that an endpoint or a payload mentions can be missing, and of these only
what last declarations mention. Main statements: `lacks_of_filter` and `failure_is_genuine`.
-/

set_option autoImplicit false

namespace AudienceScope

namespace Document

section Registered

variable {document : Document} {audiences : List String}

theorem registers_type_iff {id : TypeId} :
    (document.graph audiences).registers (.type id) = true ↔
      ∃ declaration ∈ document.types, declaration.name.typeId = id := by
  rw [AudienceGraph.registers, OrderedMap.contains, get?_types, Option.isSome_map, lastType?,
    List.getLast?_isSome]
  simp

theorem registers_error_iff {id : ErrorId} :
    (document.graph audiences).registers (.error id) = true ↔
      ∃ declaration ∈ document.errors, declaration.name.errorId = id := by
  rw [AudienceGraph.registers, OrderedMap.contains, get?_errors, Option.isSome_map, lastError?,
    List.getLast?_isSome]
  simp

theorem lastNamed?_of_needed {id : EndpointId}
    (needed : id ∈ (document.graph audiences).neededEndpoints) :
    ∃ path name endpoint, document.AsksForEndpoint audiences path name ∧
      document.lastNamed? path name = some endpoint ∧
      document.lastEndpoint? id = some endpoint := by
  obtain ⟨service, declares, endpoint, holds, rfl, addressed⟩ := mem_neededEndpoints.mp needed
  have asks : document.AsksForEndpoint audiences service.name.path endpoint.name :=
    ⟨service, declares, rfl, endpoint, holds, rfl, addressed.symm⟩
  have member : (service.name, endpoint) ∈ document.endpoints.filter fun declared =>
      declared.1.endpointId declared.2 = service.name.endpointId endpoint := by
    refine List.mem_filter.mpr ⟨?_, decide_eq_true rfl⟩
    exact mem_endpoints.mpr ⟨service, declares, rfl, holds⟩
  cases last : document.lastEndpoint? (service.name.endpointId endpoint) with
  | none =>
      rw [lastEndpoint?, Option.map_eq_none_iff, List.getLast?_eq_none_iff] at last
      rw [last] at member
      exact absurd member List.not_mem_nil
  | some declared =>
      refine ⟨service.name.path, endpoint.name, declared, asks, ?_, rfl⟩
      rw [lastNamed?_eq, last]

end Registered

/-- Whether the closure for some audiences looks into a declaration: it is the last one of an
endpoint that is asked for. -/
def IsConsulted (document : Document) (audiences : List String) (endpoint : Endpoint) : Prop :=
  ∃ path name, document.AsksForEndpoint audiences path name ∧
    document.lastNamed? path name = some endpoint

/-- What a document lacks for some audiences: an error that a consulted endpoint lists, or a type
that is mentioned in its request or response, or in the payload of an error that it lists. -/
inductive Lacks (document : Document) (audiences : List String) : DanglingReference → Prop where
  | error {endpoint : Endpoint} {name : QualifiedName}
      (consulted : document.IsConsulted audiences endpoint)
      (listed : name ∈ endpoint.errorNames)
      (undeclared : ∀ declaration ∈ document.errors, declaration.name.errorId ≠ name.errorId) :
      Lacks document audiences ⟨.error, name.errorId.text⟩
  | ofEndpoint {endpoint : Endpoint} {name : QualifiedName}
      (consulted : document.IsConsulted audiences endpoint)
      (mentioned : name ∈ endpoint.typeNames)
      (undeclared : ∀ declaration ∈ document.types, declaration.name.typeId ≠ name.typeId) :
      Lacks document audiences ⟨.type, name.typeId.text⟩
  | ofPayload {endpoint : Endpoint} {error name : QualifiedName} {declaration : ErrorDeclaration}
      (consulted : document.IsConsulted audiences endpoint)
      (listed : error ∈ endpoint.errorNames)
      (last : document.lastError? error.errorId = some declaration)
      (mentioned : name ∈ declaration.typeNames)
      (undeclared : ∀ declaration ∈ document.types, declaration.name.typeId ≠ name.typeId) :
      Lacks document audiences ⟨.type, name.typeId.text⟩

variable {document : Document} {audiences : List String}

theorem exists_consulted {id : EndpointId}
    (needed : id ∈ (document.graph audiences).neededEndpoints) :
    ∃ endpoint, document.IsConsulted audiences endpoint ∧
      (document.graph audiences).endpointNode id = endpoint.node := by
  obtain ⟨path, name, endpoint, asks, lastNamed, last⟩ := lastNamed?_of_needed needed
  refine ⟨endpoint, ⟨path, name, asks, lastNamed⟩, ?_⟩
  rw [AudienceGraph.endpointNode, get?_endpoints, last]
  rfl

theorem registers_of_needed {id : EndpointId}
    (needed : id ∈ (document.graph audiences).neededEndpoints) :
    (document.graph audiences).registers (.endpoint id) = true := by
  obtain ⟨_, _, endpoint, _, _, last⟩ := lastNamed?_of_needed needed
  rw [AudienceGraph.registers, OrderedMap.contains, get?_endpoints, last]
  rfl

theorem exists_payload {error : ErrorId} {id : TypeId}
    (listed : id ∈ (document.graph audiences).payload error) :
    ∃ declaration, document.lastError? error = some declaration ∧
      ∃ name ∈ declaration.typeNames, name.typeId = id := by
  rw [AudienceGraph.payload, get?_errors] at listed
  cases last : document.lastError? error with
  | none =>
      rw [last] at listed
      exact absurd listed (OrderedSet.not_mem_empty id)
  | some declaration =>
      rw [last] at listed
      exact ⟨declaration, rfl, ErrorDeclaration.mem_typeIds_iff.mp listed⟩

theorem lacks_of_mention {mention : Mention}
    (mentioned : mention ∈ (document.graph audiences).mentions)
    (missing : ¬ (document.graph audiences).registers mention = true) :
    document.Lacks audiences mention.dangling := by
  cases mention with
  | endpoint id =>
      have needed := AudienceGraph.endpoint_mem_mentions.mp mentioned
      exact absurd (registers_of_needed needed) missing
  | error id =>
      rw [registers_error_iff] at missing
      push Not at missing
      obtain ⟨needed, isNeeded, listed⟩ := AudienceGraph.error_mem_mentions.mp mentioned
      obtain ⟨endpoint, consulted, node⟩ := exists_consulted isNeeded
      rw [node] at listed
      obtain ⟨name, among, rfl⟩ := Endpoint.mem_node_errors_iff.mp listed
      exact .error consulted among missing
  | type id =>
      rw [registers_type_iff] at missing
      push Not at missing
      have candidate := AudienceGraph.mem_candidates.mpr mentioned
      rcases AudienceGraph.mem_candidates_iff.mp candidate with
        ⟨needed, isNeeded, own⟩ | ⟨needed, isNeeded, error, listed, inPayload⟩ | marked
      · obtain ⟨endpoint, consulted, node⟩ := exists_consulted isNeeded
        rw [node] at own
        obtain ⟨name, among, rfl⟩ := Endpoint.mem_node_types_iff.mp own
        exact .ofEndpoint consulted among missing
      · obtain ⟨endpoint, consulted, node⟩ := exists_consulted isNeeded
        rw [node] at listed
        obtain ⟨errorName, amongErrors, rfl⟩ := Endpoint.mem_node_errors_iff.mp listed
        obtain ⟨declaration, last, name, among, rfl⟩ := exists_payload inPayload
        exact .ofPayload consulted amongErrors last among missing
      · obtain ⟨declaration, declares, same, _⟩ := mem_neededTypes.mp marked
        exact absurd same (missing declaration declares)

theorem lacks_of_filter {reference : DanglingReference}
    (failed : document.filter (.only audiences) = .error reference) :
    document.Lacks audiences reference := by
  have unbuilt : (document.graph audiences).build = .error reference := failed
  obtain ⟨mention, found, rfl⟩ := AudienceGraph.build_error_iff.mp unbuilt
  have lookedUp := List.mem_of_find?_eq_some found
  have missing := List.find?_some found
  rw [Bool.not_eq_true'] at missing
  exact lacks_of_mention (AudienceGraph.mem_of_mem_lookups lookedUp) (Bool.eq_false_iff.mp missing)

theorem IsConsulted.declared {endpoint : Endpoint}
    (consulted : document.IsConsulted audiences endpoint) :
    ∃ service ∈ document.services, endpoint ∈ service.endpoints := by
  obtain ⟨path, name, _, last⟩ := consulted
  obtain ⟨declared, found, rfl⟩ := Option.map_eq_some_iff.mp last
  have member := (List.mem_filter.mp (List.mem_of_getLast? found)).1
  obtain ⟨service, declares, _, holds⟩ := mem_endpoints.mp member
  exact ⟨service, declares, holds⟩

theorem IsSelfContained.lacks_nothing (selfContained : document.IsSelfContained)
    (reference : DanglingReference) : ¬ document.Lacks audiences reference := by
  obtain ⟨ofEndpoints, ofErrors⟩ := selfContained
  intro lacks
  cases lacks with
  | error consulted listed undeclared =>
      obtain ⟨service, declares, holds⟩ := consulted.declared
      obtain ⟨declaration, declared, rfl⟩ := (ofEndpoints service declares _ holds).1 _ listed
      exact undeclared declaration declared rfl
  | ofEndpoint consulted mentioned undeclared =>
      obtain ⟨service, declares, holds⟩ := consulted.declared
      obtain ⟨declaration, declared, rfl⟩ := (ofEndpoints service declares _ holds).2 _ mentioned
      exact undeclared declaration declared rfl
  | ofPayload consulted listed last mentioned undeclared =>
      have declares := (mem_of_lastError? last).1
      obtain ⟨declaration, declared, rfl⟩ := ofErrors _ declares _ mentioned
      exact undeclared declaration declared rfl

theorem exists_filter_of_lacks_nothing
    (complete : ∀ reference, ¬ document.Lacks audiences reference) :
    ∃ manifest, document.filter (.only audiences) = .ok manifest := by
  cases filtered : document.filter (.only audiences) with
  | ok manifest => exact ⟨manifest, rfl⟩
  | error reference => exact absurd (lacks_of_filter filtered) (complete reference)

end Document

/-- Filtering fails only for an error or a type that the document lacks. So it never fails for all
audiences, nor for any selection if all that is listed and mentioned is declared; which types are
tagged, and which they list as descendants, cannot make it fail. -/
theorem failure_is_genuine (document : Document) :
    document.filter .all = .ok (.everything document) ∧
    (∀ audiences reference, document.filter (.only audiences) = .error reference →
      (reference.kind = .error ∨ reference.kind = .type) ∧
        document.Lacks audiences reference) ∧
    (∀ audiences, (∀ reference, ¬ document.Lacks audiences reference) →
      ∃ manifest, document.filter (.only audiences) = .ok manifest) ∧
    (document.IsSelfContained →
      ∀ selection, ∃ manifest, document.filter selection = .ok manifest) := by
  refine ⟨rfl, ?_, fun _ => Document.exists_filter_of_lacks_nothing, ?_⟩
  · intro audiences reference failed
    have lacks := Document.lacks_of_filter failed
    refine ⟨?_, lacks⟩
    cases lacks with
    | error => exact .inl rfl
    | ofEndpoint => exact .inr rfl
    | ofPayload => exact .inr rfl
  · intro selfContained selection
    cases selection with
    | all => exact ⟨_, rfl⟩
    | only audiences =>
        exact Document.exists_filter_of_lacks_nothing selfContained.lacks_nothing

/-- The tagged type lists a type that is declared nowhere. Of the errors only `E` is listed by a
last declaration of an endpoint, and only the last declaration of `E` has a payload. -/
def Document.lacking : Document where
  apiName := "lacking"
  types := [⟨⟨[], "A"⟩, [⟨[], "Ghost"⟩], ["web"], none, none⟩]
  errors :=
    [⟨⟨[], "E"⟩, none, none⟩, ⟨⟨[], "E"⟩, some (.map .unknown (.named ⟨["x"], "Missing"⟩)), none⟩]
  services :=
    [⟨⟨["v1"]⟩, ["web"], [⟨"read", .get, "/", none, none, [⟨⟨[], "Gone"⟩, none⟩], []⟩]⟩,
      ⟨⟨["v1"]⟩, [], [⟨"read", .get, "/", none, none, [⟨⟨[], "E"⟩, none⟩], []⟩]⟩]

theorem failure_is_genuine_lacking :
    Document.lacking.filter (.only ["web"]) = .error ⟨.type, "x/:Missing"⟩ ∧
      Document.lacking.Lacks ["web"] ⟨.type, "x/:Missing"⟩ := by
  have failed : Document.lacking.filter (.only ["web"]) = .error ⟨.type, "x/:Missing"⟩ := rfl
  obtain ⟨_, genuine, _⟩ := failure_is_genuine .lacking
  exact ⟨failed, (genuine _ _ failed).2⟩

end AudienceScope
