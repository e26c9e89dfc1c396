import AudienceScope.Proofs.SelfContained

/-!
What stands behind the identifiers of a manifest. Marks and references bring identifiers into a
manifest without asking whether anything is declared under them, while pruning goes by declarations,
and by services before endpoints. Still, a document declares all that its manifest keeps, an
endpoint along with its service, except types that only come along as descendants. So a manifest and
the document that is pruned to it tell the same. Main statements: `isBackedBy_of_filter`,
`IsBackedBy.agreesWith` and `manifest_agrees_with_pruned`.
-/

set_option autoImplicit false

namespace AudienceScope

/-- The identifier of the service of an endpoint is what stands before the first colon. -/
def Id.owner (id : EndpointId) : ServiceId :=
  ⟨String.ofList (id.text.toList.takeWhile (· ≠ ':'))⟩

theorem ServiceName.owner_endpointId (service : ServiceName) (endpoint : Endpoint) :
    (service.endpointId endpoint).owner = service.id := by
  rw [Id.owner, takeWhile_endpointId, String.ofList_toList]

namespace Document

def DeclaresTypeId (document : Document) (id : TypeId) : Prop :=
  ∃ declaration ∈ document.types, declaration.name.typeId = id

instance (document : Document) (id : TypeId) : Decidable (document.DeclaresTypeId id) :=
  inferInstanceAs (Decidable (∃ declaration ∈ document.types, declaration.name.typeId = id))

def Lists (document : Document) (source id : TypeId) : Prop :=
  ∃ declaration ∈ document.lastType? source, id ∈ declaration.descendantIds

variable {document : Document}

theorem mem_descendants_iff {audiences : List String} {source id : TypeId} :
    id ∈ (document.graph audiences).descendants source ↔ document.Lists source id := by
  rw [AudienceGraph.descendants, get?_types, Lists]
  cases document.lastType? source with
  | none => simp [OrderedSet.not_mem_empty]
  | some declaration => simp

theorem Lists.declares {source id : TypeId} (lists : document.Lists source id) :
    document.DeclaresTypeId source := by
  obtain ⟨declaration, last, _⟩ := lists
  exact ⟨declaration, mem_of_lastType? last⟩

end Document

namespace Manifest

section Everything

variable {document : Document}

theorem mem_everything_types {id : TypeId} :
    id ∈ (everything document).types ↔ document.DeclaresTypeId id := by
  rw [everything, OrderedSet.mem_ofList, List.mem_map]
  rfl

theorem mem_everything_errors {id : ErrorId} :
    id ∈ (everything document).errors ↔
      ∃ declaration ∈ document.errors, declaration.name.errorId = id := by
  rw [everything, OrderedSet.mem_ofList, List.mem_map]

theorem mem_everything_services {id : ServiceId} :
    id ∈ (everything document).services ↔ ∃ service ∈ document.services, service.name.id = id := by
  rw [everything, OrderedSet.mem_ofList, List.mem_map]

theorem mem_everything_endpoints {id : EndpointId} :
    id ∈ (everything document).endpoints ↔
      ∃ declared ∈ document.endpoints, declared.1.endpointId declared.2 = id := by
  rw [everything, OrderedSet.mem_ofList, List.mem_flatMap]
  constructor
  · intro kept
    obtain ⟨service, declares, holds⟩ := kept
    obtain ⟨endpoint, holds, same⟩ := List.mem_map.mp holds
    have member : (service.name, endpoint) ∈ document.endpoints :=
      Document.mem_endpoints.mpr ⟨service, declares, rfl, holds⟩
    exact ⟨_, member, same⟩
  · intro declared
    obtain ⟨⟨name, endpoint⟩, declared, same⟩ := declared
    obtain ⟨service, declares, rfl, holds⟩ := Document.mem_endpoints.mp declared
    exact ⟨service, declares, List.mem_map.mpr ⟨endpoint, holds, same⟩⟩

end Everything

/-! ### Manifests that a document backs -/

/-- All that is kept is declared, but for types that a kept type lists. -/
structure IsBackedBy (manifest : Manifest) (document : Document) : Prop where
  services : ∀ id ∈ manifest.services, ∃ service ∈ document.services, service.name.id = id
  endpoints : ∀ id ∈ manifest.endpoints, ∃ declared ∈ document.endpoints,
    declared.1.endpointId declared.2 = id ∧ declared.1.id ∈ manifest.services
  errors : ∀ id ∈ manifest.errors, ∃ declaration ∈ document.errors, declaration.name.errorId = id
  types : ∀ id ∈ manifest.types, document.DeclaresTypeId id ∨
    ∃ source ∈ manifest.types, document.Lists source id

/-- How a manifest and the document that is pruned to it tell the same. Only descendants that are
declared nowhere are kept in the one and missing in the other. -/
structure AgreesWith (manifest : Manifest) (document : Document) : Prop where
  services : (everything (manifest.prune document)).services = manifest.services
  endpoints : (everything (manifest.prune document)).endpoints = manifest.endpoints
  errors : (everything (manifest.prune document)).errors = manifest.errors
  types : ∀ id, id ∈ (everything (manifest.prune document)).types ↔
    id ∈ manifest.types ∧ document.DeclaresTypeId id
  undeclared : ∀ id ∈ manifest.types, ¬ document.DeclaresTypeId id →
    ∃ source ∈ (everything (manifest.prune document)).types, document.Lists source id
  owners : ∀ id ∈ manifest.endpoints, id.owner ∈ manifest.services
  survivors : (manifest.prune document).endpoints =
    document.endpoints.filter fun declared => manifest.keepsEndpoint declared.1 declared.2

variable {manifest : Manifest} {document : Document}

theorem mem_everything_prune_types {id : TypeId} :
    id ∈ (everything (manifest.prune document)).types ↔
      id ∈ manifest.types ∧ document.DeclaresTypeId id := by
  rw [mem_everything_types]
  constructor
  · intro declared
    obtain ⟨declaration, survives, rfl⟩ := declared
    obtain ⟨declares, kept⟩ := mem_prune_types.mp survives
    exact ⟨kept, declaration, declares, rfl⟩
  · intro both
    obtain ⟨kept, declaration, declares, rfl⟩ := both
    exact ⟨declaration, mem_prune_types.mpr ⟨declares, kept⟩, rfl⟩

theorem IsBackedBy.holdsServices (backed : manifest.IsBackedBy document) :
    manifest.HoldsServices document := by
  intro declared _ kept
  obtain ⟨other, _, same, held⟩ := backed.endpoints _ kept
  rw [(ServiceName.endpointId_inj.mp same).1] at held
  exact held

theorem IsBackedBy.endpoints_prune (backed : manifest.IsBackedBy document) :
    (manifest.prune document).endpoints =
      document.endpoints.filter fun declared => manifest.keepsEndpoint declared.1 declared.2 := by
  rw [Manifest.endpoints_prune]
  refine List.filter_congr fun declared member => ?_
  cases kept : manifest.keepsEndpoint declared.1 declared.2 with
  | false => rw [Bool.and_false]
  | true =>
      have held := backed.holdsServices declared member (keepsEndpoint_iff.mp kept)
      rw [OrderedSet.contains_iff.mpr held, Bool.true_and]

theorem IsBackedBy.agreesWith (backed : manifest.IsBackedBy document) :
    manifest.AgreesWith document := by
  refine
    { services := OrderedSet.ext_mem fun id => ?services
      endpoints := OrderedSet.ext_mem fun id => ?endpoints
      errors := OrderedSet.ext_mem fun id => ?errors
      types := fun id => mem_everything_prune_types
      undeclared := ?undeclared
      owners := ?owners
      survivors := backed.endpoints_prune }
  case services =>
    rw [mem_everything_services]
    constructor
    · intro declared
      obtain ⟨_, survives, rfl⟩ := declared
      obtain ⟨original, _, kept, rfl⟩ := mem_prune_services.mp survives
      exact kept
    · intro kept
      obtain ⟨service, declares, rfl⟩ := backed.services id kept
      exact ⟨_, mem_prune_services.mpr ⟨service, declares, kept, rfl⟩, rfl⟩
  case endpoints =>
    rw [mem_everything_endpoints, backed.endpoints_prune]
    constructor
    · intro declared
      obtain ⟨declared, survives, rfl⟩ := declared
      exact keepsEndpoint_iff.mp (List.mem_filter.mp survives).2
    · intro kept
      obtain ⟨declared, member, rfl, _⟩ := backed.endpoints id kept
      exact ⟨declared, List.mem_filter.mpr ⟨member, keepsEndpoint_iff.mpr kept⟩, rfl⟩
  case errors =>
    rw [mem_everything_errors]
    constructor
    · intro declared
      obtain ⟨_, survives, rfl⟩ := declared
      exact (mem_prune_errors.mp survives).2
    · intro kept
      obtain ⟨declaration, declares, rfl⟩ := backed.errors id kept
      exact ⟨declaration, mem_prune_errors.mpr ⟨declares, kept⟩, rfl⟩
  case undeclared =>
    intro id kept absent
    obtain ⟨source, keptSource, lists⟩ := (backed.types id kept).resolve_left absent
    exact ⟨source, mem_everything_prune_types.mpr ⟨keptSource, lists.declares⟩, lists⟩
  case owners =>
    intro id kept
    obtain ⟨declared, _, rfl, held⟩ := backed.endpoints id kept
    rw [ServiceName.owner_endpointId]
    exact held

theorem isBackedBy_everything (document : Document) :
    (everything document).IsBackedBy document where
  services id kept := mem_everything_services.mp kept
  endpoints id kept := by
    obtain ⟨declared, member, same⟩ := mem_everything_endpoints.mp kept
    obtain ⟨service, declares, sameName, _⟩ := Document.mem_endpoints.mp member
    refine ⟨declared, member, same, mem_everything_services.mpr ⟨service, declares, ?_⟩⟩
    rw [sameName]
  errors id kept := mem_everything_errors.mp kept
  types id kept := .inl (mem_everything_types.mp kept)

/-- What the closure looks up is registered, and so is declared. A type that it keeps without
looking it up is listed by one that it looked up. -/
theorem isBackedBy_of_build {audiences : List String}
    (built : (document.graph audiences).build = .ok manifest) : manifest.IsBackedBy document where
  services id kept := by
    rw [AudienceGraph.services_of_build built, Document.mem_neededServices] at kept
    obtain ⟨service, declares, same, _⟩ := kept
    exact ⟨service, declares, same⟩
  endpoints id kept := by
    have needed := kept
    rw [AudienceGraph.endpoints_of_build built, Document.mem_neededEndpoints] at needed
    obtain ⟨service, declares, endpoint, holds, same, _⟩ := needed
    have member : (service.name, endpoint) ∈ document.endpoints :=
      Document.mem_endpoints.mpr ⟨service, declares, rfl, holds⟩
    exact ⟨_, member, same, Document.holdsServices_of_build built _ member (same ▸ kept)⟩
  errors id kept := by
    obtain ⟨registered, _⟩ := AudienceGraph.build_ok_iff.mp built
    have mentioned := (AudienceGraph.mem_errors_of_build built).mp kept
    have lookedUp : .error id ∈ (document.graph audiences).lookups .none
        (document.graph audiences).mentions :=
      AudienceGraph.error_mem_lookups mentioned (OrderedSet.not_mem_empty id)
    obtain ⟨declaration, last⟩ := Document.lastError?_of_registers (registered _ lookedUp)
    exact ⟨declaration, Document.mem_of_lastError? last⟩
  types id kept := by
    obtain ⟨registered, _⟩ := AudienceGraph.build_ok_iff.mp built
    have lookedUpOrListed : .type id ∈ (document.graph audiences).lookups .none
          (document.graph audiences).mentions ∨
        ∃ source, .type source ∈ (document.graph audiences).lookups .none
          (document.graph audiences).mentions ∧
          id ∈ (document.graph audiences).descendants source := by
      rcases (AudienceGraph.mem_types_of_build built).mp kept with mentioned | listed
      · exact AudienceGraph.type_mem_lookups_or_listed mentioned
      · exact .inr listed
    rcases lookedUpOrListed with lookedUp | ⟨source, lookedUp, listed⟩
    · obtain ⟨declaration, last⟩ := Document.lastType?_of_registers (registered _ lookedUp)
      exact .inl ⟨declaration, Document.mem_of_lastType? last⟩
    · have mentioned := AudienceGraph.mem_of_mem_lookups lookedUp
      have keptSource : source ∈ manifest.types :=
        (AudienceGraph.mem_types_of_build built).mpr (.inl mentioned)
      exact .inr ⟨source, keptSource, Document.mem_descendants_iff.mp listed⟩

theorem isBackedBy_of_filter {selection : Selection}
    (found : document.filter selection = .ok manifest) : manifest.IsBackedBy document := by
  cases selection with
  | all =>
      obtain rfl := Except.ok.inj found
      exact isBackedBy_everything document
  | only audiences => exact isBackedBy_of_build found

end Manifest

/-- A manifest that is computed for a document agrees with the document that is pruned to it. -/
theorem manifest_agrees_with_pruned {document : Document} {selection : Selection}
    {manifest : Manifest} (found : document.filter selection = .ok manifest) :
    manifest.AgreesWith document :=
  (Manifest.isBackedBy_of_filter found).agreesWith

/-- The last declaration of `A` lists a type that is declared nowhere, and everything is declared in
two services of one path. -/
def Document.ghostly : Document where
  apiName := "ghostly"
  types :=
    [⟨⟨[], "A"⟩, [], [], none, none⟩,
      ⟨⟨[], "A"⟩, [⟨[], "Ghost"⟩], [], none, none⟩,
      ⟨⟨["v1"], "B"⟩, [⟨[], "Stray"⟩], [], none, none⟩]
  errors := [⟨⟨[], "E"⟩, some (.list (.named ⟨[], "A"⟩)), none⟩]
  services :=
    [⟨⟨["v1", "a:b"]⟩, [], [⟨"read", .get, "/", none, none, [], ["web"]⟩]⟩,
      ⟨⟨["v1", "a:b"]⟩, [],
        [⟨"read", .get, "/", none, none, [⟨⟨[], "E"⟩, none⟩], []⟩,
          ⟨"write", .put, "/", some (.named ⟨["v1"], "B"⟩), none, [], ["internal"]⟩]⟩]

theorem manifest_agrees_with_pruned_ghostly :
    ∃ manifest, Document.ghostly.filter (.only ["web"]) = .ok manifest ∧
      manifest.AgreesWith .ghostly ∧
        manifest.types.toList = [⟨":A"⟩, ⟨":Ghost"⟩] ∧
        ¬ Document.ghostly.DeclaresTypeId ⟨":Ghost"⟩ ∧
        manifest.endpoints.toList.map Id.owner = [⟨"v1/a%3Ab/"⟩] := by
  have found : Document.ghostly.filter (.only ["web"]) =
      .ok ⟨.ofList [⟨":A"⟩, ⟨":Ghost"⟩], .ofList [⟨":E"⟩], .ofList [⟨"v1/a%3Ab/"⟩],
        .ofList [⟨"v1/a%3Ab/:read"⟩]⟩ := rfl
  exact ⟨_, found, manifest_agrees_with_pruned found, by decide, by decide, by decide⟩

end AudienceScope
