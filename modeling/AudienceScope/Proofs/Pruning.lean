import AudienceScope.Proofs.Closure
import AudienceScope.Proofs.Identifiers
import AudienceScope.Proofs.Population
import AudienceScope.Graph.Closure
import Mathlib.Data.List.Basic

/-!
Pruning a document to its own manifest. A manifest keeps every declaration of what it names, so the
last declaration of an identifier that is kept stays the last one, every mark stays, and the closure
of the pruned document comes by the same identifiers and finds the same nodes. Main statements:
`build_congr`, `build_prune` and `prune_prune`.
-/

set_option autoImplicit false

namespace AudienceScope

namespace AudienceGraph

variable {graph other : AudienceGraph}

def AgreesOn (graph other : AudienceGraph) : Mention → Prop
  | .endpoint id => graph.endpoints.get? id = other.endpoints.get? id
  | .error id => graph.errors.get? id = other.errors.get? id
  | .type id => graph.types.get? id = other.types.get? id

theorem AgreesOn.registers_eq {mention : Mention} (agree : graph.AgreesOn other mention) :
    graph.registers mention = other.registers mention := by
  cases mention <;> exact congrArg Option.isSome agree

theorem AgreesOn.descendants_eq {id : TypeId} (agree : graph.AgreesOn other (.type id)) :
    graph.descendants id = other.descendants id :=
  congrArg (fun found : Option (IdSet .type) => found.getD .empty) agree

theorem AgreesOn.keep_eq {mention : Mention} (agree : graph.AgreesOn other mention)
    (kept : Kept) : graph.keep kept mention = other.keep kept mention := by
  unfold keep
  cases mention with
  | endpoint id => rfl
  | error id => rfl
  | type id => simp only [agree.descendants_eq]

theorem walk_congr {kept : Kept} {mentions : List Mention}
    (agree : ∀ mention ∈ mentions, graph.AgreesOn other mention) :
    graph.walk kept mentions = other.walk kept mentions := by
  induction mentions generalizing kept with
  | nil => rfl
  | cons mention rest ih =>
      have here := agree mention List.mem_cons_self
      have later (kept : Kept) : graph.walk kept rest = other.walk kept rest :=
        ih fun mention member => agree mention (List.mem_cons_of_mem _ member)
      rw [walk, walk, later kept, here.registers_eq, here.keep_eq, later]

theorem endpointMentions_congr {endpoint : EndpointId}
    (agree : ∀ mention ∈ graph.endpointMentions endpoint, graph.AgreesOn other mention) :
    graph.endpointMentions endpoint = other.endpointMentions endpoint := by
  have sameNode : graph.endpointNode endpoint = other.endpointNode endpoint :=
    congrArg (fun found => Option.getD found _) (agree _ List.mem_cons_self)
  have samePayload : ∀ error ∈ (graph.endpointNode endpoint).errors.toList,
      graph.errorMentions error = other.errorMentions error := by
    intro error listed
    have mentioned : .error error ∈ graph.endpointMentions endpoint :=
      List.mem_cons_of_mem _ (List.mem_append_left _
        (List.mem_flatMap.mpr ⟨error, listed, List.mem_cons_self⟩))
    have same : graph.payload error = other.payload error :=
      congrArg (fun found => Option.getD found _) (agree _ mentioned)
    rw [errorMentions, errorMentions, same]
  rw [endpointMentions, endpointMentions, List.flatMap_congr samePayload, sameNode]

/-- The closure depends on the needed identifiers and on the nodes behind what is mentioned. -/
theorem build_congr (sameServices : graph.neededServices = other.neededServices)
    (sameEndpoints : graph.neededEndpoints = other.neededEndpoints)
    (sameTypes : graph.neededTypes = other.neededTypes)
    (agree : ∀ mention ∈ graph.mentions, graph.AgreesOn other mention) :
    graph.build = other.build := by
  have sameMentions : graph.mentions = other.mentions := by
    rw [mentions, mentions, ← sameEndpoints, ← sameTypes]
    congr 1
    refine List.flatMap_congr fun endpoint needed => endpointMentions_congr ?_
    intro mention member
    exact agree mention (List.mem_append_left _ (List.mem_flatMap.mpr ⟨endpoint, needed, member⟩))
  rw [build_eq_walk, build_eq_walk, walk_congr agree, sameMentions, sameServices, sameEndpoints]

end AudienceGraph

namespace Manifest

variable {manifest : Manifest} {document : Document}

theorem keepsType_iff {declaration : TypeDeclaration} :
    manifest.keepsType declaration = true ↔ declaration.name.typeId ∈ manifest.types :=
  OrderedSet.contains_iff

theorem keepsError_iff {declaration : ErrorDeclaration} :
    manifest.keepsError declaration = true ↔ declaration.name.errorId ∈ manifest.errors :=
  OrderedSet.contains_iff

theorem keepsService_iff {service : Service} :
    manifest.keepsService service = true ↔ service.name.id ∈ manifest.services :=
  OrderedSet.contains_iff

theorem keepsEndpoint_iff {service : ServiceName} {endpoint : Endpoint} :
    manifest.keepsEndpoint service endpoint = true ↔
      service.endpointId endpoint ∈ manifest.endpoints :=
  OrderedSet.contains_iff

theorem pruneService_pruneService (manifest : Manifest) (service : Service) :
    manifest.pruneService (manifest.pruneService service) = manifest.pruneService service := by
  simp [pruneService, List.filter_filter]

theorem prune_prune (manifest : Manifest) (document : Document) :
    manifest.prune (manifest.prune document) = manifest.prune document := by
  have keepsPruned : manifest.keepsService ∘ manifest.pruneService = manifest.keepsService := rfl
  have pruneTwice : manifest.pruneService ∘ manifest.pruneService = manifest.pruneService :=
    funext manifest.pruneService_pruneService
  simp [prune, List.filter_filter, List.filter_map, keepsPruned, pruneTwice]

theorem mem_prune_types {declaration : TypeDeclaration} :
    declaration ∈ (manifest.prune document).types ↔
      declaration ∈ document.types ∧ declaration.name.typeId ∈ manifest.types := by
  rw [prune, List.mem_filter, keepsType_iff]

theorem mem_prune_errors {declaration : ErrorDeclaration} :
    declaration ∈ (manifest.prune document).errors ↔
      declaration ∈ document.errors ∧ declaration.name.errorId ∈ manifest.errors := by
  rw [prune, List.mem_filter, keepsError_iff]

theorem mem_prune_services {service : Service} :
    service ∈ (manifest.prune document).services ↔
      ∃ original ∈ document.services, original.name.id ∈ manifest.services ∧
        manifest.pruneService original = service := by
  simp only [prune, List.mem_map, List.mem_filter, keepsService_iff, and_assoc]

theorem mem_pruneService_endpoints {service : Service} {endpoint : Endpoint} :
    endpoint ∈ (manifest.pruneService service).endpoints ↔
      endpoint ∈ service.endpoints ∧
        service.name.endpointId endpoint ∈ manifest.endpoints := by
  rw [pruneService, List.mem_filter, keepsEndpoint_iff]

theorem endpoints_prune (manifest : Manifest) (document : Document) :
    (manifest.prune document).endpoints = document.endpoints.filter fun declared =>
      manifest.services.contains declared.1.id && manifest.keepsEndpoint declared.1 declared.2 := by
  rw [prune, Document.endpoints, Document.endpoints]
  induction document.services with
  | nil => rfl
  | cons service rest ih =>
      rw [List.flatMap_cons, List.filter_append, ← ih, List.filter_map]
      by_cases kept : manifest.keepsService service = true
      · have held : manifest.services.contains service.name.id = true := kept
        rw [List.filter_cons_of_pos kept, List.map_cons, List.flatMap_cons]
        simp [pruneService, Function.comp_def, held]
      · have dropped : manifest.services.contains service.name.id = false :=
          Bool.eq_false_iff.mpr kept
        rw [List.filter_cons_of_neg kept]
        simp [Function.comp_def, dropped]

private theorem filter_filter_of_imp {α : Type} {narrow wide : α → Bool} {items : List α}
    (implied : ∀ item ∈ items, narrow item = true → wide item = true) :
    (items.filter wide).filter narrow = items.filter narrow := by
  rw [List.filter_filter]
  refine List.filter_congr fun item member => ?_
  cases chosen : narrow item with
  | false => rfl
  | true => rw [implied item member chosen, Bool.and_true]

theorem lastType?_prune {id : TypeId} (kept : id ∈ manifest.types) :
    (manifest.prune document).lastType? id = document.lastType? id := by
  rw [Document.lastType?, Document.lastType?, prune, filter_filter_of_imp]
  intro declaration _ named
  exact keepsType_iff.mpr (of_decide_eq_true named ▸ kept)

theorem lastError?_prune {id : ErrorId} (kept : id ∈ manifest.errors) :
    (manifest.prune document).lastError? id = document.lastError? id := by
  rw [Document.lastError?, Document.lastError?, prune, filter_filter_of_imp]
  intro declaration _ named
  exact keepsError_iff.mpr (of_decide_eq_true named ▸ kept)

def HoldsServices (manifest : Manifest) (document : Document) : Prop :=
  ∀ declared ∈ document.endpoints, declared.1.endpointId declared.2 ∈ manifest.endpoints →
    declared.1.id ∈ manifest.services

theorem lastEndpoint?_prune (holds : manifest.HoldsServices document) {id : EndpointId}
    (kept : id ∈ manifest.endpoints) :
    (manifest.prune document).lastEndpoint? id = document.lastEndpoint? id := by
  rw [Document.lastEndpoint?, Document.lastEndpoint?, endpoints_prune, filter_filter_of_imp]
  intro declared member named
  have keptEndpoint : declared.1.endpointId declared.2 ∈ manifest.endpoints :=
    of_decide_eq_true named ▸ kept
  rw [Bool.and_eq_true, OrderedSet.contains_iff, keepsEndpoint_iff]
  exact ⟨holds declared member keptEndpoint, keptEndpoint⟩

end Manifest

/-! ### The closure of a pruned document -/

namespace Document

open Manifest

variable {document : Document} {audiences : List String} {manifest : Manifest}

/-- An endpoint is needed along with its service, and endpoints of one identifier belong to services
of one name. -/
theorem holdsServices_of_build (built : (document.graph audiences).build = .ok manifest) :
    manifest.HoldsServices document := by
  intro declared _ kept
  rw [AudienceGraph.endpoints_of_build built, mem_neededEndpoints] at kept
  rw [AudienceGraph.services_of_build built, mem_neededServices]
  obtain ⟨service, declares, endpoint, holds, same, addressed⟩ := kept
  have sameService : service.name = declared.1 := (ServiceName.endpointId_inj.mp same).1
  refine ⟨service, declares, congrArg ServiceName.id sameService, ?_⟩
  exact addressed.imp_right fun tagged => ⟨endpoint, holds, tagged⟩

theorem neededTypes_prune (built : (document.graph audiences).build = .ok manifest) :
    ((manifest.prune document).graph audiences).neededTypes =
      (document.graph audiences).neededTypes := by
  refine OrderedSet.ext_mem fun id => ?_
  constructor
  · intro needed
    obtain ⟨declaration, declares, same, addressed⟩ := mem_neededTypes.mp needed
    exact mem_neededTypes.mpr ⟨declaration, (mem_prune_types.mp declares).1, same, addressed⟩
  · intro needed
    have kept : id ∈ manifest.types :=
      (AudienceGraph.mem_types_of_build built).mpr (.inl (AudienceGraph.mem_candidates.mp
        (AudienceGraph.mem_candidates_iff.mpr (.inr (.inr needed)))))
    obtain ⟨declaration, declares, same, addressed⟩ := mem_neededTypes.mp needed
    refine mem_neededTypes.mpr ⟨declaration, ?_, same, addressed⟩
    exact mem_prune_types.mpr ⟨declares, same ▸ kept⟩

theorem neededServices_prune (built : (document.graph audiences).build = .ok manifest) :
    ((manifest.prune document).graph audiences).neededServices =
      (document.graph audiences).neededServices := by
  refine OrderedSet.ext_mem fun id => ?_
  constructor
  · intro needed
    obtain ⟨service, survives, same, addressed⟩ := mem_neededServices.mp needed
    obtain ⟨original, declares, _, rfl⟩ := mem_prune_services.mp survives
    refine mem_neededServices.mpr ⟨original, declares, same, addressed.imp_right fun tags => ?_⟩
    obtain ⟨endpoint, holds, tagged⟩ := tags
    exact ⟨endpoint, (mem_pruneService_endpoints.mp holds).1, tagged⟩
  · intro needed
    have kept : id ∈ manifest.services := AudienceGraph.services_of_build built ▸ needed
    obtain ⟨service, declares, same, addressed⟩ := mem_neededServices.mp needed
    have survives : manifest.pruneService service ∈ (manifest.prune document).services :=
      mem_prune_services.mpr ⟨service, declares, same ▸ kept, rfl⟩
    refine mem_neededServices.mpr ⟨_, survives, same, addressed.imp_right fun tags => ?_⟩
    obtain ⟨endpoint, holds, tagged⟩ := tags
    refine ⟨endpoint, mem_pruneService_endpoints.mpr ⟨holds, ?_⟩, tagged⟩
    rw [AudienceGraph.endpoints_of_build built, mem_neededEndpoints]
    exact ⟨service, declares, endpoint, holds, rfl, .inr tagged⟩

theorem neededEndpoints_prune (built : (document.graph audiences).build = .ok manifest) :
    ((manifest.prune document).graph audiences).neededEndpoints =
      (document.graph audiences).neededEndpoints := by
  refine OrderedSet.ext_mem fun id => ?_
  constructor
  · intro needed
    obtain ⟨service, survives, endpoint, holds, same, addressed⟩ := mem_neededEndpoints.mp needed
    obtain ⟨original, declares, _, rfl⟩ := mem_prune_services.mp survives
    exact mem_neededEndpoints.mpr
      ⟨original, declares, endpoint, (mem_pruneService_endpoints.mp holds).1, same, addressed⟩
  · intro needed
    have kept : id ∈ manifest.endpoints := AudienceGraph.endpoints_of_build built ▸ needed
    obtain ⟨service, declares, endpoint, holds, same, addressed⟩ := mem_neededEndpoints.mp needed
    have keptService : service.name.id ∈ manifest.services :=
      holdsServices_of_build built (service.name, endpoint)
        (mem_endpoints.mpr ⟨service, declares, rfl, holds⟩) (same ▸ kept)
    have survives : manifest.pruneService service ∈ (manifest.prune document).services :=
      mem_prune_services.mpr ⟨service, declares, keptService, rfl⟩
    refine mem_neededEndpoints.mpr ⟨_, survives, endpoint, ?_, same, addressed⟩
    exact mem_pruneService_endpoints.mpr ⟨holds, same ▸ kept⟩

theorem agreesOn_prune (built : (document.graph audiences).build = .ok manifest)
    {mention : Mention} (mentioned : mention ∈ (document.graph audiences).mentions) :
    (document.graph audiences).AgreesOn ((manifest.prune document).graph audiences) mention := by
  cases mention with
  | endpoint id =>
      have kept : id ∈ manifest.endpoints := by
        rw [AudienceGraph.endpoints_of_build built]
        exact AudienceGraph.endpoint_mem_mentions.mp mentioned
      rw [AudienceGraph.AgreesOn, get?_endpoints, get?_endpoints,
        lastEndpoint?_prune (holdsServices_of_build built) kept]
  | error id =>
      have kept : id ∈ manifest.errors :=
        (AudienceGraph.mem_errors_of_build built).mpr mentioned
      rw [AudienceGraph.AgreesOn, get?_errors, get?_errors, lastError?_prune kept]
  | type id =>
      have kept : id ∈ manifest.types :=
        (AudienceGraph.mem_types_of_build built).mpr (.inl mentioned)
      rw [AudienceGraph.AgreesOn, get?_types, get?_types, lastType?_prune kept]

theorem build_prune (built : (document.graph audiences).build = .ok manifest) :
    ((manifest.prune document).graph audiences).build = .ok manifest := by
  rw [← built]
  symm
  exact AudienceGraph.build_congr (neededServices_prune built).symm
    (neededEndpoints_prune built).symm (neededTypes_prune built).symm
    fun mention mentioned => agreesOn_prune built mentioned

end Document

theorem Manifest.prune_everything (document : Document) :
    (everything document).prune document = document := by
  have types : document.types.filter (everything document).keepsType = document.types := by
    refine List.filter_eq_self.mpr fun declaration declares => keepsType_iff.mpr ?_
    exact OrderedSet.mem_ofList.mpr (List.mem_map_of_mem declares)
  have errors : document.errors.filter (everything document).keepsError = document.errors := by
    refine List.filter_eq_self.mpr fun declaration declares => keepsError_iff.mpr ?_
    exact OrderedSet.mem_ofList.mpr (List.mem_map_of_mem declares)
  have services : document.services.filter (everything document).keepsService =
      document.services := by
    refine List.filter_eq_self.mpr fun service declares => keepsService_iff.mpr ?_
    exact OrderedSet.mem_ofList.mpr (List.mem_map_of_mem declares)
  have endpoints : document.services.map (everything document).pruneService =
      document.services := by
    have unchanged : ∀ service ∈ document.services,
        (everything document).pruneService service = id service := by
      intro service declares
      have held : service.endpoints.filter ((everything document).keepsEndpoint service.name) =
          service.endpoints := by
        refine List.filter_eq_self.mpr fun endpoint holds => keepsEndpoint_iff.mpr ?_
        exact OrderedSet.mem_ofList.mpr
          (List.mem_flatMap.mpr ⟨service, declares, List.mem_map_of_mem holds⟩)
      rw [pruneService, held]
      rfl
    rw [List.map_congr_left unchanged, List.map_id]
  rw [prune, types, errors, services, endpoints]

theorem Document.filter_prune {document : Document} {selection : Selection} {manifest : Manifest}
    (found : document.filter selection = .ok manifest) :
    (manifest.prune document).filter selection = .ok manifest := by
  cases selection with
  | all =>
      obtain rfl := Except.ok.inj found
      rw [Manifest.prune_everything]
      rfl
  | only audiences => exact build_prune found

/-- A document that was pruned to its manifest for a selection has that manifest, for the same
selection, and pruning it again changes nothing. -/
theorem filter_prune_stable {document : Document} {selection : Selection} {manifest : Manifest}
    (found : document.filter selection = .ok manifest) :
    (manifest.prune document).filter selection = .ok manifest ∧
      manifest.prune (manifest.prune document) = manifest.prune document :=
  ⟨Document.filter_prune found, manifest.prune_prune document⟩

/-- Everything is declared twice, and the types that the last declaration of `A` lists nowhere. -/
def Document.doubled : Document where
  apiName := "doubled"
  types :=
    [⟨⟨[], "A"⟩, [⟨[], "B"⟩], [], none, none⟩,
      ⟨⟨[], "A"⟩, [⟨[], "Ghost"⟩], [], none, none⟩,
      ⟨⟨[], "B"⟩, [], ["internal"], none, none⟩]
  errors := [⟨⟨[], "E"⟩, some (.named ⟨[], "B"⟩), none⟩, ⟨⟨[], "E"⟩, none, none⟩]
  services :=
    [⟨⟨[]⟩, [], [⟨"read", .get, "/", none, none, [], ["web"]⟩]⟩,
      ⟨⟨[]⟩, [],
        [⟨"read", .get, "/", none, some (.named ⟨[], "A"⟩), [⟨⟨[], "E"⟩, none⟩], []⟩,
          ⟨"write", .put, "/", some (.named ⟨[], "B"⟩), none, [], ["internal"]⟩]⟩]

theorem filter_prune_doubled :
    ∃ manifest, Document.doubled.filter (.only ["web"]) = .ok manifest ∧
      (manifest.prune .doubled).filter (.only ["web"]) = .ok manifest ∧
        manifest.prune (manifest.prune .doubled) = manifest.prune .doubled :=
  ⟨_, rfl, filter_prune_stable rfl⟩

end AudienceScope
