import AudienceScope.Proofs.Backing
import Mathlib.Data.List.Forall2

/-!
Pruning one manifest after the other. Any two manifests intersect kind by kind, and pruning to the
one after the other is pruning to what both of them keep. A service is put together anew from the
endpoints that are left to it, but its name stays, so the second pruning goes by the same endpoint
identifiers as the first one did. A document stays as it is exactly if all that it declares is kept.
Main statements: `Manifest.prune_inter`, `Manifest.prune_eq_self_iff_includes`,
`Manifest.thins_prune` and `pruning_composes`.
-/

set_option autoImplicit false

namespace AudienceScope

namespace OrderedSet

variable {α : Type} [LT α] [DecidableEq α]

def inter (set other : OrderedSet α) : OrderedSet α :=
  ⟨set.toList.filter other.contains, set.ascending.filter _⟩

theorem mem_inter {set other : OrderedSet α} {element : α} :
    element ∈ set.inter other ↔ element ∈ set ∧ element ∈ other := by
  rw [mem_iff, inter, List.mem_filter, contains_iff]
  rfl

theorem contains_inter (set other : OrderedSet α) (element : α) :
    (set.inter other).contains element = (set.contains element && other.contains element) := by
  rw [Bool.eq_iff_iff, Bool.and_eq_true, contains_iff, contains_iff, contains_iff, mem_inter]

theorem inter_comm [StrictOrder α] (set other : OrderedSet α) :
    set.inter other = other.inter set := by
  apply ext_mem
  intro element
  rw [mem_inter, mem_inter, and_comm]

theorem inter_eq_right [StrictOrder α] {set other : OrderedSet α}
    (included : ∀ element ∈ other, element ∈ set) : set.inter other = other := by
  apply ext_mem
  intro element
  rw [mem_inter]
  exact and_iff_right_of_imp (included element)

end OrderedSet

namespace Manifest

def inter (first second : Manifest) : Manifest where
  types := first.types.inter second.types
  errors := first.errors.inter second.errors
  services := first.services.inter second.services
  endpoints := first.endpoints.inter second.endpoints

structure Includes (manifest other : Manifest) : Prop where
  types : ∀ id ∈ other.types, id ∈ manifest.types
  errors : ∀ id ∈ other.errors, id ∈ manifest.errors
  services : ∀ id ∈ other.services, id ∈ manifest.services
  endpoints : ∀ id ∈ other.endpoints, id ∈ manifest.endpoints

variable {first second manifest : Manifest} {document : Document}

theorem inter_comm (first second : Manifest) : first.inter second = second.inter first := by
  unfold inter
  rw [OrderedSet.inter_comm first.types, OrderedSet.inter_comm first.errors,
    OrderedSet.inter_comm first.services, OrderedSet.inter_comm first.endpoints]

theorem Includes.inter_eq (included : first.Includes second) : first.inter second = second := by
  unfold inter
  rw [OrderedSet.inter_eq_right included.types, OrderedSet.inter_eq_right included.errors,
    OrderedSet.inter_eq_right included.services, OrderedSet.inter_eq_right included.endpoints]

/-! ### Pruning twice -/

theorem keepsType_inter (declaration : TypeDeclaration) :
    (first.inter second).keepsType declaration =
      (first.keepsType declaration && second.keepsType declaration) :=
  OrderedSet.contains_inter ..

theorem keepsError_inter (declaration : ErrorDeclaration) :
    (first.inter second).keepsError declaration =
      (first.keepsError declaration && second.keepsError declaration) :=
  OrderedSet.contains_inter ..

theorem keepsService_inter (service : Service) :
    (first.inter second).keepsService service =
      (first.keepsService service && second.keepsService service) :=
  OrderedSet.contains_inter ..

theorem keepsEndpoint_inter (service : ServiceName) (endpoint : Endpoint) :
    (first.inter second).keepsEndpoint service endpoint =
      (first.keepsEndpoint service endpoint && second.keepsEndpoint service endpoint) :=
  OrderedSet.contains_inter ..

theorem pruneService_inter (first second : Manifest) (service : Service) :
    (first.inter second).pruneService service =
      first.pruneService (second.pruneService service) := by
  unfold pruneService
  simp only [List.filter_filter]
  congr 1
  apply List.filter_congr
  intro endpoint _
  exact keepsEndpoint_inter service.name endpoint

theorem prune_inter (first second : Manifest) (document : Document) :
    first.prune (second.prune document) = (first.inter second).prune document := by
  have types : (document.types.filter second.keepsType).filter first.keepsType =
      document.types.filter (first.inter second).keepsType := by
    rw [List.filter_filter]
    exact List.filter_congr fun declaration _ => (keepsType_inter declaration).symm
  have errors : (document.errors.filter second.keepsError).filter first.keepsError =
      document.errors.filter (first.inter second).keepsError := by
    rw [List.filter_filter]
    exact List.filter_congr fun declaration _ => (keepsError_inter declaration).symm
  have keepsPruned : first.keepsService ∘ second.pruneService = first.keepsService := rfl
  have services :
      (document.services.filter second.keepsService).filter first.keepsService =
        document.services.filter (first.inter second).keepsService := by
    rw [List.filter_filter]
    exact List.filter_congr fun service _ => (keepsService_inter service).symm
  have endpoints : first.pruneService ∘ second.pruneService =
      (first.inter second).pruneService :=
    funext fun service => (pruneService_inter first second service).symm
  unfold prune
  rw [types, errors, List.filter_map, keepsPruned, services, List.map_map, endpoints]

theorem prune_comm (first second : Manifest) (document : Document) :
    first.prune (second.prune document) = second.prune (first.prune document) := by
  rw [prune_inter, inter_comm, ← prune_inter]

theorem includes_of_prune_eq_self (unchanged : manifest.prune document = document) :
    manifest.Includes (everything document) where
  types id declared := by
    obtain ⟨declaration, declares, rfl⟩ := mem_everything_types.mp declared
    rw [← unchanged] at declares
    exact (mem_prune_types.mp declares).2
  errors id declared := by
    obtain ⟨declaration, declares, rfl⟩ := mem_everything_errors.mp declared
    rw [← unchanged] at declares
    exact (mem_prune_errors.mp declares).2
  services id declared := by
    obtain ⟨service, declares, rfl⟩ := mem_everything_services.mp declared
    rw [← unchanged] at declares
    obtain ⟨original, _, kept, rfl⟩ := mem_prune_services.mp declares
    exact kept
  endpoints id declared := by
    obtain ⟨endpoint, member, rfl⟩ := mem_everything_endpoints.mp declared
    rw [← unchanged, endpoints_prune, List.mem_filter, Bool.and_eq_true] at member
    exact keepsEndpoint_iff.mp member.2.2

theorem prune_eq_self_iff_includes :
    manifest.prune document = document ↔ manifest.Includes (everything document) := by
  constructor
  · exact includes_of_prune_eq_self
  · intro included
    calc manifest.prune document
        = manifest.prune ((everything document).prune document) := by rw [prune_everything]
      _ = (manifest.inter (everything document)).prune document := prune_inter ..
      _ = (everything document).prune document := by rw [included.inter_eq]
      _ = document := prune_everything document

end Manifest

/-- A service that has, apart from endpoints that are gone, all that another one has. -/
structure Service.Thins (service original : Service) : Prop where
  name : service.name = original.name
  audiences : service.audiences = original.audiences
  endpoints : service.endpoints.Sublist original.endpoints

/-- A document that has, apart from declarations that are gone, all that another one has, in the
same order. -/
structure Document.Thins (document original : Document) : Prop where
  apiName : document.apiName = original.apiName
  types : document.types.Sublist original.types
  errors : document.errors.Sublist original.errors
  services : document.services.SublistForall₂ Service.Thins original.services

/-- A document that has of another one just what a manifest keeps. A declaration that is kept is
there as often as before. -/
structure Manifest.Leaves (manifest : Manifest) (original document : Document) : Prop where
  types : ∀ declaration, document.types.count declaration =
    if declaration.name.typeId ∈ manifest.types then original.types.count declaration else 0
  errors : ∀ declaration, document.errors.count declaration =
    if declaration.name.errorId ∈ manifest.errors then original.errors.count declaration else 0
  services : document.services.map Service.name =
    (original.services.map Service.name).filter fun name => manifest.services.contains name.id
  endpoints : document.endpoints = original.endpoints.filter fun declared =>
    manifest.services.contains declared.1.id && manifest.keepsEndpoint declared.1 declared.2

namespace Manifest

theorem thins_pruneService (manifest : Manifest) (service : Service) :
    (manifest.pruneService service).Thins service where
  name := rfl
  audiences := rfl
  endpoints := List.filter_sublist

theorem thins_prune (manifest : Manifest) (document : Document) :
    (manifest.prune document).Thins document where
  apiName := rfl
  types := List.filter_sublist
  errors := List.filter_sublist
  services := by
    unfold prune
    apply List.sublistForall₂_iff.mpr
    refine ⟨document.services.filter manifest.keepsService, ?_, List.filter_sublist⟩
    rw [List.forall₂_map_left_iff, List.forall₂_same]
    intro service _
    exact manifest.thins_pruneService service

private theorem count_filter_eq_ite {α : Type} [DecidableEq α] (keeps : α → Bool) (items : List α)
    (item : α) :
    (items.filter keeps).count item = if keeps item = true then items.count item else 0 := by
  by_cases kept : keeps item = true
  · rw [List.count_filter kept, if_pos kept]
  · rw [if_neg kept]
    apply List.count_eq_zero_of_not_mem
    intro member
    exact kept (List.mem_filter.mp member).2

theorem leaves_prune (manifest : Manifest) (document : Document) :
    manifest.Leaves document (manifest.prune document) where
  types declaration := by
    simp only [prune, count_filter_eq_ite, keepsType_iff]
  errors declaration := by
    simp only [prune, count_filter_eq_ite, keepsError_iff]
  services := by
    unfold prune
    rw [List.map_map, List.filter_map]
    rfl
  endpoints := endpoints_prune manifest document

end Manifest

/-- Pruning to any two manifests, in either order, is pruning to what both keep. It changes nothing
exactly if all that is declared is kept, and it only takes declarations away. -/
theorem pruning_composes (first second : Manifest) (document : Document) :
    first.prune (second.prune document) = (first.inter second).prune document ∧
      first.prune (first.prune document) = first.prune document ∧
      first.prune (second.prune document) = second.prune (first.prune document) ∧
      (first.prune document = document ↔ first.Includes (.everything document)) ∧
      (first.prune document).Thins document ∧ first.Leaves document (first.prune document) :=
  ⟨first.prune_inter second document, first.prune_prune document,
    first.prune_comm second document, Manifest.prune_eq_self_iff_includes,
    first.thins_prune document, first.leaves_prune document⟩

-- An endpoint identifier that stands in one of the manifests only, and one without its service.
example :
    (Manifest.inter
      ⟨.ofList [⟨":A"⟩, ⟨":B"⟩], .empty, .ofList [⟨"a/"⟩], .ofList [⟨"a/:read"⟩, ⟨"b/:read"⟩]⟩
      ⟨.ofList [⟨":B"⟩, ⟨":C"⟩], .empty, .empty, .ofList [⟨"b/:read"⟩]⟩) =
      ⟨.ofList [⟨":B"⟩], .empty, .empty, .ofList [⟨"b/:read"⟩]⟩ := by
  decide

end AudienceScope
