import AudienceScope.Proofs.Pruning
import AudienceScope.Proofs.References

/-!
What the audiences that ask for a document get to see of it. The decision is made on identifiers,
but identifiers stand for names without loss, so it can be told in declared names and tags alone: a
service or an endpoint is left exactly if a declaration of its own name is tagged for one of the
audiences, an error exactly if the last declaration of an endpoint that is left lists it. Main
statement: `prune_isolates_audiences`.
-/

set_option autoImplicit false

namespace AudienceScope

namespace Document

def AsksForService (document : Document) (audiences : List String) (path : DeclarationPath) :
    Prop :=
  ∃ service ∈ document.services, service.name.path = path ∧
    (IsAddressed audiences service.audiences ∨
      ∃ endpoint ∈ service.endpoints, IsAddressed audiences endpoint.audiences)

/-- Some declaration of the endpoint is tagged, by itself or by the service that holds it there. -/
def AsksForEndpoint (document : Document) (audiences : List String) (path : DeclarationPath)
    (name : String) : Prop :=
  ∃ service ∈ document.services, service.name.path = path ∧
    ∃ endpoint ∈ service.endpoints, endpoint.name = name ∧
      (IsAddressed audiences endpoint.audiences ∨ IsAddressed audiences service.audiences)

def HasService (document : Document) (path : DeclarationPath) : Prop :=
  ∃ service ∈ document.services, service.name.path = path

def HasEndpoint (document : Document) (path : DeclarationPath) (name : String) : Prop :=
  ∃ service ∈ document.services, service.name.path = path ∧
    ∃ endpoint ∈ service.endpoints, endpoint.name = name

def lastNamed? (document : Document) (path : DeclarationPath) (name : String) : Option Endpoint :=
  (document.endpoints.filter fun declared =>
    declared.1.path = path ∧ declared.2.name = name).getLast?.map Prod.snd

def ListsError (document pruned : Document) (error : QualifiedName) : Prop :=
  ∃ service ∈ pruned.services, ∃ endpoint ∈ service.endpoints,
    ∃ last ∈ document.lastNamed? service.name.path endpoint.name, error ∈ last.errorNames

instance (document : Document) (audiences : List String) (path : DeclarationPath) :
    Decidable (document.AsksForService audiences path) :=
  inferInstanceAs (Decidable (∃ service ∈ document.services, _ ∧ _))

instance (document : Document) (audiences : List String) (path : DeclarationPath) (name : String) :
    Decidable (document.AsksForEndpoint audiences path name) :=
  inferInstanceAs (Decidable (∃ service ∈ document.services, _ ∧ ∃ endpoint ∈ service.endpoints, _))

instance (document pruned : Document) (error : QualifiedName) :
    Decidable (document.ListsError pruned error) :=
  inferInstanceAs (Decidable (∃ service ∈ pruned.services, ∃ endpoint ∈ service.endpoints, _))

/-- What some audiences get to see of a document. The lists keep their order, and a declaration that
is repeated is left as often as it was. -/
structure IsViewFor (document : Document) (audiences : List String) (pruned : Document) : Prop where
  services : pruned.services =
    (document.services.filter fun service =>
      document.AsksForService audiences service.name.path).map fun service =>
        { service with
          endpoints := service.endpoints.filter fun endpoint =>
            document.AsksForEndpoint audiences service.name.path endpoint.name }
  hasService : ∀ path, pruned.HasService path ↔ document.AsksForService audiences path
  hasEndpoint : ∀ path name,
    pruned.HasEndpoint path name ↔ document.AsksForEndpoint audiences path name
  errors : pruned.errors =
    document.errors.filter fun declaration => document.ListsError pruned declaration.name
  taggedTypes :
    (pruned.types.filter fun declaration => IsAddressed audiences declaration.audiences) =
      document.types.filter fun declaration => IsAddressed audiences declaration.audiences
  nobody : audiences = [] → pruned.types = [] ∧ pruned.errors = [] ∧ pruned.services = []

variable {document : Document} {audiences : List String} {manifest : Manifest}

theorem AsksForEndpoint.asksForService {path : DeclarationPath} {name : String}
    (asks : document.AsksForEndpoint audiences path name) :
    document.AsksForService audiences path := by
  obtain ⟨service, declares, samePath, endpoint, holds, _, addressed⟩ := asks
  refine ⟨service, declares, samePath, ?_⟩
  rcases addressed with own | ofService
  · exact .inr ⟨endpoint, holds, own⟩
  · exact .inl ofService

theorem keepsService_iff_asks (built : (document.graph audiences).build = .ok manifest)
    (service : Service) :
    manifest.keepsService service = true ↔
      document.AsksForService audiences service.name.path := by
  rw [Manifest.keepsService_iff, AudienceGraph.services_of_build built, mem_neededServices]
  simp only [ServiceName.id_inj, ServiceName.eq_iff_path]
  rfl

theorem keepsEndpoint_iff_asks (built : (document.graph audiences).build = .ok manifest)
    (service : ServiceName) (endpoint : Endpoint) :
    manifest.keepsEndpoint service endpoint = true ↔
      document.AsksForEndpoint audiences service.path endpoint.name := by
  rw [Manifest.keepsEndpoint_iff, AudienceGraph.endpoints_of_build built, mem_neededEndpoints]
  simp only [ServiceName.endpointId_inj, ServiceName.eq_iff_path]
  constructor
  · intro needed
    obtain ⟨declaring, declares, declared, holds, ⟨samePath, sameName⟩, addressed⟩ := needed
    exact ⟨declaring, declares, samePath, declared, holds, sameName, addressed.symm⟩
  · intro asks
    obtain ⟨declaring, declares, samePath, declared, holds, sameName, addressed⟩ := asks
    exact ⟨declaring, declares, declared, holds, ⟨samePath, sameName⟩, addressed.symm⟩

theorem lastNamed?_eq (document : Document) (service : ServiceName) (endpoint : Endpoint) :
    document.lastNamed? service.path endpoint.name =
      document.lastEndpoint? (service.endpointId endpoint) := by
  rw [lastNamed?, lastEndpoint?]
  simp only [ServiceName.endpointId_inj, ServiceName.eq_iff_path]

/-! ### What is left -/

theorem services_prune (built : (document.graph audiences).build = .ok manifest) :
    (manifest.prune document).services =
      (document.services.filter fun service =>
        document.AsksForService audiences service.name.path).map fun service =>
          { service with
            endpoints := service.endpoints.filter fun endpoint =>
              document.AsksForEndpoint audiences service.name.path endpoint.name } := by
  have sameServices : document.services.filter manifest.keepsService =
      document.services.filter fun service =>
        document.AsksForService audiences service.name.path := by
    refine List.filter_congr fun service _ => Bool.eq_iff_iff.mpr ?_
    rw [keepsService_iff_asks built, decide_eq_true_iff]
  have sameEndpoints (service : Service) :
      service.endpoints.filter (manifest.keepsEndpoint service.name) =
        service.endpoints.filter fun endpoint =>
          document.AsksForEndpoint audiences service.name.path endpoint.name := by
    refine List.filter_congr fun endpoint _ => Bool.eq_iff_iff.mpr ?_
    rw [keepsEndpoint_iff_asks built, decide_eq_true_iff]
  rw [Manifest.prune, sameServices]
  refine List.map_congr_left fun service _ => ?_
  rw [Manifest.pruneService, sameEndpoints]

theorem hasService_prune_iff (built : (document.graph audiences).build = .ok manifest)
    (path : DeclarationPath) :
    (manifest.prune document).HasService path ↔ document.AsksForService audiences path := by
  rw [HasService, services_prune built]
  simp only [List.mem_map, List.mem_filter, decide_eq_true_eq]
  constructor
  · intro left
    obtain ⟨_, ⟨service, ⟨_, asks⟩, rfl⟩, rfl⟩ := left
    exact asks
  · intro asks
    obtain ⟨service, declares, rfl, _⟩ := id asks
    exact ⟨_, ⟨service, ⟨declares, asks⟩, rfl⟩, rfl⟩

theorem hasEndpoint_prune_iff (built : (document.graph audiences).build = .ok manifest)
    (path : DeclarationPath) (name : String) :
    (manifest.prune document).HasEndpoint path name ↔
      document.AsksForEndpoint audiences path name := by
  rw [HasEndpoint, services_prune built]
  simp only [List.mem_map, List.mem_filter, decide_eq_true_eq]
  constructor
  · intro left
    obtain ⟨_, ⟨service, _, rfl⟩, rfl, endpoint, holds, rfl⟩ := left
    simpa using (List.mem_filter.mp holds).2
  · intro asks
    obtain ⟨service, declares, rfl, endpoint, holds, rfl, _⟩ := id asks
    refine ⟨_, ⟨service, ⟨declares, asks.asksForService⟩, rfl⟩, rfl, endpoint, ?_, rfl⟩
    exact List.mem_filter.mpr ⟨holds, decide_eq_true asks⟩

theorem error_mem_iff_lists (built : (document.graph audiences).build = .ok manifest)
    (error : QualifiedName) :
    error.errorId ∈ manifest.errors ↔ document.ListsError (manifest.prune document) error := by
  rw [AudienceGraph.mem_errors_of_build built, AudienceGraph.error_mem_mentions]
  constructor
  · intro mentioned
    obtain ⟨id, needed, listed⟩ := mentioned
    obtain ⟨service, declares, endpoint, holds, rfl, addressed⟩ := mem_neededEndpoints.mp needed
    have asks : document.AsksForEndpoint audiences service.name.path endpoint.name :=
      ⟨service, declares, rfl, endpoint, holds, rfl, addressed.symm⟩
    obtain ⟨left, survives, samePath, other, otherHolds, sameName⟩ :=
      (hasEndpoint_prune_iff built _ _).mpr asks
    refine ⟨left, survives, other, otherHolds, ?_⟩
    rw [samePath, sameName, lastNamed?_eq]
    rw [AudienceGraph.endpointNode, get?_endpoints] at listed
    cases last : document.lastEndpoint? (service.name.endpointId endpoint) with
    | none =>
        rw [last] at listed
        exact absurd listed (OrderedSet.not_mem_empty _)
    | some declared =>
        rw [last] at listed
        exact ⟨declared, rfl, Endpoint.mem_node_errors.mp listed⟩
  · intro listed
    obtain ⟨service, survives, endpoint, holds, last, found, listed⟩ := listed
    have asks : document.AsksForEndpoint audiences service.name.path endpoint.name :=
      (hasEndpoint_prune_iff built _ _).mp ⟨service, survives, rfl, endpoint, holds, rfl⟩
    refine ⟨service.name.endpointId endpoint, ?_, ?_⟩
    · rw [← AudienceGraph.endpoints_of_build built, ← Manifest.keepsEndpoint_iff,
        keepsEndpoint_iff_asks built]
      exact asks
    · rw [lastNamed?_eq] at found
      rw [AudienceGraph.endpointNode, get?_endpoints, Option.mem_def.mp found]
      exact Endpoint.mem_node_errors.mpr listed

theorem errors_prune (built : (document.graph audiences).build = .ok manifest) :
    (manifest.prune document).errors =
      document.errors.filter fun declaration =>
        document.ListsError (manifest.prune document) declaration.name := by
  refine List.filter_congr fun declaration _ => Bool.eq_iff_iff.mpr ?_
  rw [Manifest.keepsError_iff, error_mem_iff_lists built, decide_eq_true_iff]

theorem taggedTypes_prune (built : (document.graph audiences).build = .ok manifest) :
    ((manifest.prune document).types.filter fun declaration =>
        IsAddressed audiences declaration.audiences) =
      document.types.filter fun declaration => IsAddressed audiences declaration.audiences := by
  rw [Manifest.prune, List.filter_filter]
  refine List.filter_congr fun declaration declares => ?_
  by_cases tagged : IsAddressed audiences declaration.audiences
  · have needed : declaration.name.typeId ∈ (document.graph audiences).neededTypes :=
      mem_neededTypes.mpr ⟨declaration, declares, rfl, tagged⟩
    have kept : manifest.keepsType declaration = true := by
      rw [Manifest.keepsType_iff, AudienceGraph.mem_types_of_build built]
      exact .inl (AudienceGraph.mem_candidates.mp
        (AudienceGraph.mem_candidates_iff.mpr (.inr (.inr needed))))
    rw [kept, Bool.and_true]
  · rw [decide_eq_false tagged, Bool.false_and]

theorem prune_of_nobody (built : (document.graph []).build = .ok manifest) :
    (manifest.prune document).types = [] ∧ (manifest.prune document).errors = [] ∧
      (manifest.prune document).services = [] := by
  have unaddressed (tags : List String) : ¬ IsAddressed [] tags := by
    intro addressed
    obtain ⟨_, _, impossible⟩ := addressed
    exact absurd impossible List.not_mem_nil
  have services : (manifest.prune document).services = [] := by
    refine List.eq_nil_iff_forall_not_mem.mpr fun service survives => ?_
    obtain ⟨_, _, _, addressed | ⟨_, _, addressed⟩⟩ :=
      (hasService_prune_iff built service.name.path).mp ⟨service, survives, rfl⟩
    · exact unaddressed _ addressed
    · exact unaddressed _ addressed
  have noEndpoint (id : EndpointId) : id ∉ (document.graph []).neededEndpoints := by
    intro needed
    obtain ⟨_, _, _, _, _, addressed | addressed⟩ := mem_neededEndpoints.mp needed
    · exact unaddressed _ addressed
    · exact unaddressed _ addressed
  have noCandidate (id : TypeId) : .type id ∉ (document.graph []).mentions := by
    intro mentioned
    rcases AudienceGraph.mem_candidates_iff.mp (AudienceGraph.mem_candidates.mpr mentioned) with
      ⟨endpoint, needed, _⟩ | ⟨endpoint, needed, _⟩ | marked
    · exact noEndpoint endpoint needed
    · exact noEndpoint endpoint needed
    · obtain ⟨_, _, _, addressed⟩ := mem_neededTypes.mp marked
      exact unaddressed _ addressed
  refine ⟨?types, ?errors, services⟩
  case types =>
    refine List.eq_nil_iff_forall_not_mem.mpr fun declaration survives => ?_
    have kept := (Manifest.mem_prune_types.mp survives).2
    rcases (AudienceGraph.mem_types_of_build built).mp kept with mentioned | ⟨source, lookedUp, _⟩
    · exact noCandidate _ mentioned
    · exact noCandidate source (AudienceGraph.mem_of_mem_lookups lookedUp)
  case errors =>
    refine List.eq_nil_iff_forall_not_mem.mpr fun declaration survives => ?_
    have kept := (Manifest.mem_prune_errors.mp survives).2
    obtain ⟨service, left, _⟩ := (error_mem_iff_lists built declaration.name).mp kept
    rw [services] at left
    exact absurd left List.not_mem_nil

end Document

/-- Of a document that is filtered and pruned for some audiences, they see what they ask for. -/
theorem prune_isolates_audiences {document : Document} {audiences : List String}
    {manifest : Manifest} (found : document.filter (.only audiences) = .ok manifest) :
    document.IsViewFor audiences (manifest.prune document) := by
  have built : (document.graph audiences).build = .ok manifest := found
  refine
    { services := Document.services_prune built
      hasService := Document.hasService_prune_iff built
      hasEndpoint := Document.hasEndpoint_prune_iff built
      errors := Document.errors_prune built
      taggedTypes := Document.taggedTypes_prune built
      nobody := ?_ }
  intro none
  subst none
  exact Document.prune_of_nobody built

/-- A service that is declared twice, beside one whose path holds the separator in one segment. The
endpoint `read` is tagged in the first declaration only, and the last one lists another error. -/
def Document.lookalikes : Document where
  apiName := "lookalikes"
  types := [⟨⟨["a"], "T"⟩, [], ["web"], none, none⟩, ⟨⟨["a"], "U"⟩, [], ["Web"], none, none⟩]
  errors := [⟨⟨[], "Old"⟩, none, none⟩, ⟨⟨[], "New"⟩, none, none⟩]
  services :=
    [⟨⟨["a", "b"]⟩, [],
        [⟨"read", .get, "/", none, none, [⟨⟨[], "Old"⟩, none⟩], ["web"]⟩,
          ⟨"read:all", .get, "/", none, none, [], ["Web"]⟩]⟩,
      ⟨⟨["a/b"]⟩, [], [⟨"read", .get, "/", none, none, [⟨⟨[], "Old"⟩, none⟩], []⟩]⟩,
      ⟨⟨["a", "b"]⟩, [], [⟨"read", .get, "/", none, none, [⟨⟨[], "New"⟩, none⟩], []⟩]⟩]

theorem prune_isolates_lookalikes :
    ∃ manifest, Document.lookalikes.filter (.only ["web"]) = .ok manifest ∧
      Document.lookalikes.IsViewFor ["web"] (manifest.prune .lookalikes) ∧
        (manifest.prune .lookalikes).services.map (fun service => service.endpoints.length) =
          [1, 1] ∧
        (manifest.prune .lookalikes).errors = [⟨⟨[], "New"⟩, none, none⟩] ∧
        (manifest.prune .lookalikes).types = [⟨⟨["a"], "T"⟩, [], ["web"], none, none⟩] :=
  ⟨_, rfl, prune_isolates_audiences rfl, by decide, by decide, by decide⟩

end AudienceScope
