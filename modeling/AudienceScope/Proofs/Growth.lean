import AudienceScope.Proofs.Backing

/-!
What becomes of a manifest when more audiences ask. They need more services, endpoints and types, so
whatever marks and references mention is kept as before. Descendants may be lost: a type that used
to bring them along may itself come along with one that is visited before, and then it is not
expanded. Nothing is lost where descendant lists are transitive. Main statements: `candidates_mono`,
`lost_type_is_hidden` and `growing_audiences`.
-/

set_option autoImplicit false

namespace AudienceScope

theorem IsAddressed.mono {audiences others tags : List String}
    (more : ∀ audience ∈ audiences, audience ∈ others) (addressed : IsAddressed audiences tags) :
    IsAddressed others tags := by
  obtain ⟨tag, member, asked⟩ := addressed
  exact ⟨tag, member, more tag asked⟩

namespace Document

/-- The candidates whose descendants the walk for some audiences keeps: those that it looks up. -/
def expanded (document : Document) (audiences : List String) : Set TypeId :=
  {id | .type id ∈ (document.graph audiences).lookups .none (document.graph audiences).mentions}

variable {document : Document} {audiences others : List String} {manifest other : Manifest}

theorem isExpansion_expanded (document : Document) (audiences : List String) :
    (document.graph audiences).IsExpansion (document.expanded audiences) :=
  (document.graph audiences).isExpansion_lookups

theorem endpointNode_eq (document : Document) (audiences others : List String) (id : EndpointId) :
    (document.graph audiences).endpointNode id = (document.graph others).endpointNode id := by
  rw [AudienceGraph.endpointNode, AudienceGraph.endpointNode, get?_endpoints, get?_endpoints]

theorem payload_eq (document : Document) (audiences others : List String) (id : ErrorId) :
    (document.graph audiences).payload id = (document.graph others).payload id := by
  rw [AudienceGraph.payload, AudienceGraph.payload, get?_errors, get?_errors]

section Mono

variable (more : ∀ audience ∈ audiences, audience ∈ others)
include more

theorem neededTypes_mono {id : TypeId} (needed : id ∈ (document.graph audiences).neededTypes) :
    id ∈ (document.graph others).neededTypes := by
  obtain ⟨declaration, declares, same, addressed⟩ := mem_neededTypes.mp needed
  exact mem_neededTypes.mpr ⟨declaration, declares, same, addressed.mono more⟩

theorem neededServices_mono {id : ServiceId}
    (needed : id ∈ (document.graph audiences).neededServices) :
    id ∈ (document.graph others).neededServices := by
  obtain ⟨service, declares, same, addressed⟩ := mem_neededServices.mp needed
  refine mem_neededServices.mpr ⟨service, declares, same, ?_⟩
  rcases addressed with own | ⟨endpoint, holds, ofEndpoint⟩
  · exact .inl (own.mono more)
  · exact .inr ⟨endpoint, holds, ofEndpoint.mono more⟩

theorem neededEndpoints_mono {id : EndpointId}
    (needed : id ∈ (document.graph audiences).neededEndpoints) :
    id ∈ (document.graph others).neededEndpoints := by
  obtain ⟨service, declares, endpoint, holds, same, addressed⟩ := mem_neededEndpoints.mp needed
  refine mem_neededEndpoints.mpr ⟨service, declares, endpoint, holds, same, ?_⟩
  exact addressed.imp (IsAddressed.mono more) (IsAddressed.mono more)

theorem error_mentioned_mono {id : ErrorId}
    (mentioned : .error id ∈ (document.graph audiences).mentions) :
    .error id ∈ (document.graph others).mentions := by
  obtain ⟨endpoint, needed, listed⟩ := AudienceGraph.error_mem_mentions.mp mentioned
  rw [endpointNode_eq document audiences others] at listed
  exact AudienceGraph.error_mem_mentions.mpr ⟨endpoint, neededEndpoints_mono more needed, listed⟩

theorem candidates_mono {id : TypeId} (member : id ∈ (document.graph audiences).candidates) :
    id ∈ (document.graph others).candidates := by
  rw [AudienceGraph.mem_candidates_iff] at member ⊢
  rcases member with ⟨endpoint, needed, own⟩ | ⟨endpoint, needed, error, listed, inPayload⟩ | marked
  · rw [endpointNode_eq document audiences others] at own
    exact .inl ⟨endpoint, neededEndpoints_mono more needed, own⟩
  · rw [endpointNode_eq document audiences others] at listed
    rw [payload_eq document audiences others] at inPayload
    exact .inr (.inl ⟨endpoint, neededEndpoints_mono more needed, error, listed, inPayload⟩)
  · exact .inr (.inr (neededTypes_mono more marked))

end Mono

theorem mem_types_of_candidate (built : (document.graph audiences).build = .ok manifest)
    {id : TypeId} (candidate : id ∈ (document.graph audiences).candidates) : id ∈ manifest.types :=
  (AudienceGraph.mem_types_of_build built).mpr (.inl (AudienceGraph.mem_candidates.mp candidate))

theorem mem_types_of_expanded (built : (document.graph audiences).build = .ok manifest)
    {source id : TypeId} (expands : source ∈ document.expanded audiences)
    (lists : document.Lists source id) : id ∈ manifest.types :=
  (AudienceGraph.mem_types_of_build built).mpr
    (.inr ⟨source, expands, mem_descendants_iff.mpr lists⟩)

theorem candidate_of_endpoint {id : EndpointId}
    (needed : id ∈ (document.graph audiences).neededEndpoints) {endpoint : Endpoint}
    (last : document.lastEndpoint? id = some endpoint) {name : QualifiedName}
    (mentions : name ∈ endpoint.typeNames) :
    name.typeId ∈ (document.graph audiences).candidates := by
  refine AudienceGraph.mem_candidates_iff.mpr (.inl ⟨id, needed, ?_⟩)
  rw [AudienceGraph.endpointNode, get?_endpoints, last]
  exact Endpoint.mem_node_types.mpr mentions

theorem candidate_of_error {id : ErrorId}
    (mentioned : .error id ∈ (document.graph audiences).mentions) {declaration : ErrorDeclaration}
    (last : document.lastError? id = some declaration) {name : QualifiedName}
    (mentions : name ∈ declaration.typeNames) :
    name.typeId ∈ (document.graph audiences).candidates := by
  obtain ⟨endpoint, needed, listed⟩ := AudienceGraph.error_mem_mentions.mp mentioned
  refine AudienceGraph.mem_candidates_iff.mpr (.inr (.inl ⟨endpoint, needed, id, listed, ?_⟩))
  rw [AudienceGraph.payload, get?_errors, last]
  exact ErrorDeclaration.mem_typeIds.mpr mentions

/-! ### What is lost -/

/-- Whether a type is a candidate that is not expanded, because one that is visited before and is
expanded brings it along. -/
def IsHidden (document : Document) (audiences : List String) (candidate : TypeId) : Prop :=
  candidate ∈ (document.graph audiences).candidates ∧ candidate ∉ document.expanded audiences ∧
    ∃ cover ∈ document.expanded audiences,
      (document.graph audiences).IsVisitedBefore cover candidate ∧ document.Lists cover candidate

theorem isHidden_of_not_expanded {candidate : TypeId}
    (member : candidate ∈ (document.graph audiences).candidates)
    (hidden : candidate ∉ document.expanded audiences) : document.IsHidden audiences candidate := by
  refine ⟨member, hidden, ?_⟩
  rw [isExpansion_expanded document audiences candidate, not_and] at hidden
  have listed := hidden member
  push Not at listed
  obtain ⟨cover, expands, before, among⟩ := listed
  exact ⟨cover, expands, before, mem_descendants_iff.mp among⟩

theorem lost_type_is_hidden (more : ∀ audience ∈ audiences, audience ∈ others)
    (built : (document.graph audiences).build = .ok manifest)
    (builtOther : (document.graph others).build = .ok other) {id : TypeId}
    (kept : id ∈ manifest.types) (lost : id ∉ other.types) :
    ∃ candidate ∈ document.expanded audiences,
      document.Lists candidate id ∧ document.IsHidden others candidate := by
  rcases (AudienceGraph.mem_types_of_build built).mp kept with mentioned | ⟨source, expands, among⟩
  · have candidate := candidates_mono more (AudienceGraph.mem_candidates.mpr mentioned)
    exact absurd (mem_types_of_candidate builtOther candidate) lost
  · have lists := mem_descendants_iff.mp among
    have candidate := candidates_mono more
      (AudienceGraph.mem_candidates.mpr (AudienceGraph.mem_of_mem_lookups expands))
    have hidden : source ∉ document.expanded others :=
      fun again => lost (mem_types_of_expanded builtOther again lists)
    exact ⟨source, expands, lists, isHidden_of_not_expanded candidate hidden⟩

def ListsTransitively (document : Document) : Prop :=
  ∀ first second third, document.Lists first second → document.Lists second third →
    document.Lists first third

/-- How the manifest for some audiences grows into the one for more of them. -/
structure GrowsInto (document : Document) (audiences others : List String)
    (manifest other : Manifest) : Prop where
  services : ∀ id ∈ manifest.services, id ∈ other.services
  endpoints : ∀ id ∈ manifest.endpoints, id ∈ other.endpoints
  errors : ∀ id ∈ manifest.errors, id ∈ other.errors
  taggedTypes : ∀ declaration ∈ document.types, IsAddressed audiences declaration.audiences →
    declaration.name.typeId ∈ other.types
  endpointTypes : ∀ id ∈ manifest.endpoints, ∀ endpoint ∈ document.lastEndpoint? id,
    ∀ name ∈ endpoint.typeNames, name.typeId ∈ other.types
  payloadTypes : ∀ id ∈ manifest.errors, ∀ declaration ∈ document.lastError? id,
    ∀ name ∈ declaration.typeNames, name.typeId ∈ other.types
  lostTypes : ∀ id ∈ manifest.types, id ∉ other.types →
    ∃ candidate ∈ document.expanded audiences,
      document.Lists candidate id ∧ document.IsHidden others candidate
  types : document.ListsTransitively → ∀ id ∈ manifest.types, id ∈ other.types

end Document

/-- If more audiences ask, nothing is lost but types that came along with a type that now comes
along itself. -/
theorem growing_audiences {document : Document} {audiences others : List String}
    {manifest other : Manifest} (more : ∀ audience ∈ audiences, audience ∈ others)
    (found : document.filter (.only audiences) = .ok manifest)
    (foundOther : document.filter (.only others) = .ok other) :
    document.GrowsInto audiences others manifest other := by
  have built : (document.graph audiences).build = .ok manifest := found
  have builtOther : (document.graph others).build = .ok other := foundOther
  have mentioned {id : ErrorId} (kept : id ∈ manifest.errors) :
      .error id ∈ (document.graph others).mentions :=
    Document.error_mentioned_mono more ((AudienceGraph.mem_errors_of_build built).mp kept)
  have needed {id : EndpointId} (kept : id ∈ manifest.endpoints) :
      id ∈ (document.graph others).neededEndpoints := by
    rw [AudienceGraph.endpoints_of_build built] at kept
    exact Document.neededEndpoints_mono more kept
  refine
    { services := ?services
      endpoints := ?endpoints
      errors := fun id kept => (AudienceGraph.mem_errors_of_build builtOther).mpr (mentioned kept)
      taggedTypes := ?taggedTypes
      endpointTypes := ?endpointTypes
      payloadTypes := ?payloadTypes
      lostTypes := fun id => Document.lost_type_is_hidden more built builtOther
      types := ?types }
  case services =>
    intro id kept
    rw [AudienceGraph.services_of_build built] at kept
    rw [AudienceGraph.services_of_build builtOther]
    exact Document.neededServices_mono more kept
  case endpoints =>
    intro id kept
    rw [AudienceGraph.endpoints_of_build builtOther]
    exact needed kept
  case taggedTypes =>
    intro declaration declares addressed
    have marked : declaration.name.typeId ∈ (document.graph others).neededTypes :=
      Document.mem_neededTypes.mpr ⟨declaration, declares, rfl, addressed.mono more⟩
    exact Document.mem_types_of_candidate builtOther
      (AudienceGraph.mem_candidates_iff.mpr (.inr (.inr marked)))
  case endpointTypes =>
    intro id kept endpoint last name mentions
    exact Document.mem_types_of_candidate builtOther
      (Document.candidate_of_endpoint (needed kept) last mentions)
  case payloadTypes =>
    intro id kept declaration last name mentions
    exact Document.mem_types_of_candidate builtOther
      (Document.candidate_of_error (mentioned kept) last mentions)
  case types =>
    intro transitive id kept
    by_contra lost
    obtain ⟨candidate, _, lists, _, _, cover, expands, _, coverLists⟩ :=
      Document.lost_type_is_hidden more built builtOther kept lost
    exact lost (Document.mem_types_of_expanded builtOther expands
      (transitive cover candidate id coverLists lists))

/-- `B` brings `C` along, unless `A` is visited first and brings `B` along. -/
def Document.chained : Document where
  apiName := "chained"
  types :=
    [⟨⟨[], "B"⟩, [⟨[], "C"⟩], ["web"], none, none⟩,
      ⟨⟨[], "A"⟩, [⟨[], "B"⟩], ["internal"], none, none⟩]
  errors := []
  services := []

theorem growing_audiences_chained :
    ∃ manifest other, Document.chained.filter (.only ["web"]) = .ok manifest ∧
      Document.chained.filter (.only ["internal", "web"]) = .ok other ∧
        Document.chained.GrowsInto ["web"] ["internal", "web"] manifest other ∧
          ⟨":C"⟩ ∈ manifest.types ∧ ⟨":C"⟩ ∉ other.types :=
  ⟨⟨.ofList [⟨":B"⟩, ⟨":C"⟩], .empty, .empty, .empty⟩,
    ⟨.ofList [⟨":A"⟩, ⟨":B"⟩], .empty, .empty, .empty⟩, rfl, rfl,
    growing_audiences (by decide) rfl rfl, by decide, by decide⟩

end AudienceScope
