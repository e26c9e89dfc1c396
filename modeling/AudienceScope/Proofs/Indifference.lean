import AudienceScope.Proofs.Pruning
import AudienceScope.Proofs.References
import Mathlib.Data.List.Forall2
import Mathlib.Logic.Relation

/-!
What a manifest does not depend on. An edit is hidden from some audiences if it declares something
that they neither ask for nor keep, or changes what the closure does not read. A hidden edit leaves
the needed identifiers and the nodes behind everything that is kept as they are, and with them the
manifest, so what is hidden can be learned from no manifest. Main statements: `LooksAlike.build`,
`HiddenEdit.looksAlike` and `filter_indifferent_to_hidden`.
-/

set_option autoImplicit false

namespace AudienceScope

section Lists

variable {α β : Type}

private theorem exists_mem_insert_iff {before after : List α} {item : α} {property : α → Prop}
    (fails : ¬ property item) :
    (∃ other ∈ before ++ item :: after, property other) ↔
      ∃ other ∈ before ++ after, property other := by
  simp only [List.mem_append, List.mem_cons, or_and_right, exists_or, exists_eq_left, fails,
    false_or]

private theorem exists_mem_replace_iff {before after : List α} {item replacement : α}
    {property : α → Prop} (same : property item ↔ property replacement) :
    (∃ other ∈ before ++ item :: after, property other) ↔
      ∃ other ∈ before ++ replacement :: after, property other := by
  simp only [List.mem_append, List.mem_cons, or_and_right, exists_or, exists_eq_left, same]

private theorem filter_insert {before after : List α} {item : α} {keep : α → Bool}
    (dropped : keep item = false) :
    (before ++ item :: after).filter keep = (before ++ after).filter keep := by
  rw [List.filter_append, List.filter_append, List.filter_cons_of_neg (by simp [dropped])]

private theorem map_eq_of_related {γ : Type} {related : α → β → Prop} {left : α → γ} {right : β → γ}
    (same : ∀ item other, related item other → left item = right other) {items : List α}
    {others : List β} (pairs : List.Forall₂ related items others) :
    items.map left = others.map right := by
  induction pairs with
  | nil => rfl
  | cons head _ ih => rw [List.map_cons, List.map_cons, same _ _ head, ih]

private theorem flatMap_eq_of_related {γ : Type} {related : α → β → Prop} {left : α → List γ}
    {right : β → List γ} (same : ∀ item other, related item other → left item = right other)
    {items : List α} {others : List β} (pairs : List.Forall₂ related items others) :
    items.flatMap left = others.flatMap right := by
  rw [List.flatMap_def, List.flatMap_def, map_eq_of_related same pairs]

private theorem exists_iff_of_related {related : α → β → Prop} {left : α → Prop} {right : β → Prop}
    (same : ∀ item other, related item other → (left item ↔ right other)) {items : List α}
    {others : List β} (pairs : List.Forall₂ related items others) :
    (∃ item ∈ items, left item) ↔ ∃ other ∈ others, right other := by
  induction pairs with
  | nil => simp
  | cons head _ ih => rw [List.exists_mem_cons_iff, List.exists_mem_cons_iff, same _ _ head, ih]

end Lists

/-- Tags that are the same up to order, repetition and tags of nobody who asks. -/
def SameTags (audiences tags others : List String) : Prop :=
  ∀ audience ∈ audiences, audience ∈ tags ↔ audience ∈ others

instance (audiences tags others : List String) : Decidable (SameTags audiences tags others) :=
  inferInstanceAs (Decidable (∀ audience ∈ audiences, audience ∈ tags ↔ audience ∈ others))

theorem SameTags.isAddressed_iff {audiences tags others : List String}
    (same : SameTags audiences tags others) :
    IsAddressed audiences tags ↔ IsAddressed audiences others := by
  constructor
  · intro addressed
    obtain ⟨tag, member, asked⟩ := addressed
    exact ⟨tag, (same tag asked).mp member, asked⟩
  · intro addressed
    obtain ⟨tag, member, asked⟩ := addressed
    exact ⟨tag, (same tag asked).mpr member, asked⟩

/-- The shape and the docs may differ. -/
structure TypeDeclaration.ReadsAs (audiences : List String) (declaration other : TypeDeclaration) :
    Prop where
  name : declaration.name = other.name
  descendants : declaration.descendants = other.descendants
  tags : SameTags audiences declaration.audiences other.audiences

/-- The status code may differ. -/
structure ErrorDeclaration.ReadsAs (declaration other : ErrorDeclaration) : Prop where
  name : declaration.name = other.name
  payload : declaration.payload = other.payload

/-- The method, the path and the docs of the errors may differ. -/
structure Endpoint.ReadsAs (audiences : List String) (endpoint other : Endpoint) : Prop where
  name : endpoint.name = other.name
  request : endpoint.request = other.request
  response : endpoint.response = other.response
  errors : endpoint.errorNames = other.errorNames
  tags : SameTags audiences endpoint.audiences other.audiences

structure Service.ReadsAs (audiences : List String) (service other : Service) : Prop where
  name : service.name = other.name
  tags : SameTags audiences service.audiences other.audiences
  endpoints : List.Forall₂ (Endpoint.ReadsAs audiences) service.endpoints other.endpoints

theorem ErrorDeclaration.ReadsAs.typeIds_eq {declaration other : ErrorDeclaration}
    (reads : declaration.ReadsAs other) : declaration.typeIds = other.typeIds := by
  rw [ErrorDeclaration.typeIds, ErrorDeclaration.typeIds, reads.payload]

theorem Endpoint.ReadsAs.node_eq {audiences : List String} {endpoint other : Endpoint}
    (reads : endpoint.ReadsAs audiences other) : endpoint.node = other.node := by
  have errors (endpoint : Endpoint) : endpoint.node.errors =
      .ofList (endpoint.errorNames.map QualifiedName.errorId) := by
    rw [errorNames, List.map_map]
    rfl
  have types : endpoint.node.types = other.node.types := by
    rw [node, node, reads.request, reads.response]
  have sameErrors : endpoint.node.errors = other.node.errors := by
    rw [errors, errors, reads.errors]
  calc endpoint.node
      = ⟨endpoint.node.types, endpoint.node.errors⟩ := rfl
    _ = ⟨other.node.types, other.node.errors⟩ := by rw [types, sameErrors]
    _ = other.node := rfl

namespace Document

/-- Only what the closure does not read differs; the name of the interface is part of that. -/
structure ReadsAs (audiences : List String) (document other : Document) : Prop where
  types : List.Forall₂ (TypeDeclaration.ReadsAs audiences) document.types other.types
  errors : List.Forall₂ ErrorDeclaration.ReadsAs document.errors other.errors
  services : List.Forall₂ (Service.ReadsAs audiences) document.services other.services

/-! ### Hidden edits -/

/-- One edit of a document that is hidden from audiences who keep what the manifest says. -/
inductive HiddenEdit (audiences : List String) (manifest : Manifest) : Document → Document → Prop
  | insertType {document : Document} {before after : List TypeDeclaration}
      (declaration : TypeDeclaration) (split : document.types = before ++ after)
      (untagged : ¬ IsAddressed audiences declaration.audiences)
      (dropped : declaration.name.typeId ∉ manifest.types) :
      HiddenEdit audiences manifest document
        { document with types := before ++ declaration :: after }
  | insertError {document : Document} {before after : List ErrorDeclaration}
      (declaration : ErrorDeclaration) (split : document.errors = before ++ after)
      (dropped : declaration.name.errorId ∉ manifest.errors) :
      HiddenEdit audiences manifest document
        { document with errors := before ++ declaration :: after }
  | insertService {document : Document} {before after : List Service}
      (service : Service) (split : document.services = before ++ after)
      (untagged : ¬ IsAddressed audiences service.audiences)
      (dropped : ∀ endpoint ∈ service.endpoints, ¬ IsAddressed audiences endpoint.audiences ∧
        service.name.endpointId endpoint ∉ manifest.endpoints) :
      HiddenEdit audiences manifest document
        { document with services := before ++ service :: after }
  | insertEndpoint {document : Document} {before after : List Service} {service : Service}
      {first second : List Endpoint} (endpoint : Endpoint)
      (split : document.services = before ++ service :: after)
      (untaggedService : ¬ IsAddressed audiences service.audiences)
      (splitService : service.endpoints = first ++ second)
      (untagged : ¬ IsAddressed audiences endpoint.audiences)
      (dropped : service.name.endpointId endpoint ∉ manifest.endpoints) :
      HiddenEdit audiences manifest document
        { document with
          services := before ++ { service with endpoints := first ++ endpoint :: second } :: after }
  | rewrite {document other : Document} (reads : document.ReadsAs audiences other) :
      HiddenEdit audiences manifest document other

/-- Two documents of which some audiences need the same, with the same nodes behind what is kept. -/
structure LooksAlike (audiences : List String) (manifest : Manifest) (document other : Document) :
    Prop where
  neededTypes : ∀ id, id ∈ (document.graph audiences).neededTypes ↔
    id ∈ (other.graph audiences).neededTypes
  neededServices : ∀ id, id ∈ (document.graph audiences).neededServices ↔
    id ∈ (other.graph audiences).neededServices
  neededEndpoints : ∀ id, id ∈ (document.graph audiences).neededEndpoints ↔
    id ∈ (other.graph audiences).neededEndpoints
  types : ∀ id ∈ manifest.types,
    (document.graph audiences).types.get? id = (other.graph audiences).types.get? id
  errors : ∀ id ∈ manifest.errors,
    (document.graph audiences).errors.get? id = (other.graph audiences).errors.get? id
  endpoints : ∀ id ∈ manifest.endpoints,
    (document.graph audiences).endpoints.get? id = (other.graph audiences).endpoints.get? id

variable {document other : Document} {audiences : List String} {manifest : Manifest}

theorem LooksAlike.build (alike : document.LooksAlike audiences manifest other)
    (built : (document.graph audiences).build = .ok manifest) :
    (other.graph audiences).build = .ok manifest := by
  rw [← built]
  symm
  refine AudienceGraph.build_congr (OrderedSet.ext_mem alike.neededServices)
    (OrderedSet.ext_mem alike.neededEndpoints) (OrderedSet.ext_mem alike.neededTypes) ?_
  intro mention mentioned
  cases mention with
  | endpoint id =>
      refine alike.endpoints id ?_
      rw [AudienceGraph.endpoints_of_build built]
      exact AudienceGraph.endpoint_mem_mentions.mp mentioned
  | error id => exact alike.errors id ((AudienceGraph.mem_errors_of_build built).mpr mentioned)
  | type id => exact alike.types id ((AudienceGraph.mem_types_of_build built).mpr (.inl mentioned))

theorem get?_types_congr (id : TypeId) (same : document.types = other.types) :
    (document.graph audiences).types.get? id = (other.graph audiences).types.get? id := by
  rw [get?_types, get?_types, lastType?, lastType?, same]

theorem get?_errors_congr (id : ErrorId) (same : document.errors = other.errors) :
    (document.graph audiences).errors.get? id = (other.graph audiences).errors.get? id := by
  rw [get?_errors, get?_errors, lastError?, lastError?, same]

theorem get?_endpoints_congr (id : EndpointId) (same : document.services = other.services) :
    (document.graph audiences).endpoints.get? id = (other.graph audiences).endpoints.get? id := by
  rw [get?_endpoints, get?_endpoints, lastEndpoint?, lastEndpoint?, endpoints, endpoints, same]

theorem looksAlike_insertType {before after : List TypeDeclaration} {declaration : TypeDeclaration}
    (split : document.types = before ++ after)
    (untagged : ¬ IsAddressed audiences declaration.audiences)
    (dropped : declaration.name.typeId ∉ manifest.types) :
    document.LooksAlike audiences manifest
      { document with types := before ++ declaration :: after } where
  neededTypes id := by
    rw [mem_neededTypes, mem_neededTypes, split]
    exact (exists_mem_insert_iff fun tagged => untagged tagged.2).symm
  neededServices id := by rw [mem_neededServices, mem_neededServices]
  neededEndpoints id := by rw [mem_neededEndpoints, mem_neededEndpoints]
  types id kept := by
    rw [get?_types, get?_types, lastType?, lastType?, split, filter_insert]
    exact decide_eq_false fun same => dropped (same ▸ kept)
  errors id _ := get?_errors_congr id rfl
  endpoints id _ := get?_endpoints_congr id rfl

theorem looksAlike_insertError {before after : List ErrorDeclaration}
    {declaration : ErrorDeclaration} (split : document.errors = before ++ after)
    (dropped : declaration.name.errorId ∉ manifest.errors) :
    document.LooksAlike audiences manifest
      { document with errors := before ++ declaration :: after } where
  neededTypes id := by rw [mem_neededTypes, mem_neededTypes]
  neededServices id := by rw [mem_neededServices, mem_neededServices]
  neededEndpoints id := by rw [mem_neededEndpoints, mem_neededEndpoints]
  types id _ := get?_types_congr id rfl
  errors id kept := by
    rw [get?_errors, get?_errors, lastError?, lastError?, split, filter_insert]
    exact decide_eq_false fun same => dropped (same ▸ kept)
  endpoints id _ := get?_endpoints_congr id rfl

theorem filter_endpoints (document : Document) (keep : ServiceName × Endpoint → Bool) :
    document.endpoints.filter keep = document.services.flatMap fun service =>
      (service.endpoints.map fun endpoint => (service.name, endpoint)).filter keep :=
  List.filter_flatMap ..

theorem looksAlike_insertService {before after : List Service} {service : Service}
    (split : document.services = before ++ after)
    (untagged : ¬ IsAddressed audiences service.audiences)
    (dropped : ∀ endpoint ∈ service.endpoints, ¬ IsAddressed audiences endpoint.audiences ∧
      service.name.endpointId endpoint ∉ manifest.endpoints) :
    document.LooksAlike audiences manifest
      { document with services := before ++ service :: after } where
  neededTypes id := by rw [mem_neededTypes, mem_neededTypes]
  neededServices id := by
    rw [mem_neededServices, mem_neededServices, split]
    refine (exists_mem_insert_iff fun needed => ?_).symm
    rcases needed.2 with tagged | ⟨endpoint, holds, tagged⟩
    · exact untagged tagged
    · exact (dropped endpoint holds).1 tagged
  neededEndpoints id := by
    rw [mem_neededEndpoints, mem_neededEndpoints, split]
    refine (exists_mem_insert_iff fun needed => ?_).symm
    obtain ⟨endpoint, holds, _, tagged | tagged⟩ := needed
    · exact untagged tagged
    · exact (dropped endpoint holds).1 tagged
  types id _ := get?_types_congr id rfl
  errors id _ := get?_errors_congr id rfl
  endpoints id kept := by
    have none : (service.endpoints.map fun endpoint => (service.name, endpoint)).filter
        (fun declared => declared.1.endpointId declared.2 = id) = [] := by
      refine List.filter_eq_nil_iff.mpr fun declared member same => ?_
      obtain ⟨endpoint, holds, rfl⟩ := List.mem_map.mp member
      exact (dropped endpoint holds).2 (of_decide_eq_true same ▸ kept)
    rw [get?_endpoints, get?_endpoints, lastEndpoint?, lastEndpoint?, filter_endpoints,
      filter_endpoints, split, List.flatMap_append, List.flatMap_append, List.flatMap_cons, none,
      List.nil_append]

theorem looksAlike_insertEndpoint {before after : List Service} {service : Service}
    {first second : List Endpoint} {endpoint : Endpoint}
    (split : document.services = before ++ service :: after)
    (untaggedService : ¬ IsAddressed audiences service.audiences)
    (splitService : service.endpoints = first ++ second)
    (untagged : ¬ IsAddressed audiences endpoint.audiences)
    (dropped : service.name.endpointId endpoint ∉ manifest.endpoints) :
    document.LooksAlike audiences manifest
      { document with
        services :=
          before ++ { service with endpoints := first ++ endpoint :: second } :: after } where
  neededTypes id := by rw [mem_neededTypes, mem_neededTypes]
  neededServices id := by
    rw [mem_neededServices, mem_neededServices, split]
    refine exists_mem_replace_iff (and_congr_right fun _ => or_congr_right ?_)
    rw [splitService]
    refine (exists_mem_insert_iff fun tagged => ?_).symm
    exact untagged tagged
  neededEndpoints id := by
    rw [mem_neededEndpoints, mem_neededEndpoints, split]
    refine exists_mem_replace_iff ?_
    rw [splitService]
    refine (exists_mem_insert_iff fun needed => ?_).symm
    exact needed.2.elim untaggedService untagged
  types id _ := get?_types_congr id rfl
  errors id _ := get?_errors_congr id rfl
  endpoints id kept := by
    rw [get?_endpoints, get?_endpoints, lastEndpoint?, lastEndpoint?, filter_endpoints,
      filter_endpoints, split, List.flatMap_append, List.flatMap_append, List.flatMap_cons,
      List.flatMap_cons, splitService, List.map_append, List.map_append, List.map_cons,
      filter_insert]
    exact decide_eq_false fun same => dropped (same ▸ kept)

theorem ReadsAs.looksAlike (reads : document.ReadsAs audiences other) :
    document.LooksAlike audiences manifest other where
  neededTypes id := by
    rw [mem_neededTypes, mem_neededTypes]
    refine exists_iff_of_related (fun declaration other same => ?_) reads.types
    rw [same.name, same.tags.isAddressed_iff]
  neededServices id := by
    rw [mem_neededServices, mem_neededServices]
    refine exists_iff_of_related (fun service other same => ?_) reads.services
    rw [same.name, same.tags.isAddressed_iff]
    refine and_congr_right fun _ => or_congr_right ?_
    exact exists_iff_of_related (fun _ _ alike => alike.tags.isAddressed_iff) same.endpoints
  neededEndpoints id := by
    rw [mem_neededEndpoints, mem_neededEndpoints]
    refine exists_iff_of_related (fun service other same => ?_) reads.services
    refine exists_iff_of_related (fun endpoint otherEndpoint alike => ?_) same.endpoints
    rw [ServiceName.endpointId_inj.mpr ⟨same.name, alike.name⟩, same.tags.isAddressed_iff,
      alike.tags.isAddressed_iff]
  types id _ := by
    have entries := map_eq_of_related (fun declaration other
      (same : TypeDeclaration.ReadsAs audiences declaration other) =>
        show (declaration.name.typeId, declaration.descendantIds) =
          (other.name.typeId, other.descendantIds) by
        rw [TypeDeclaration.descendantIds, TypeDeclaration.descendantIds, same.name,
          same.descendants]) reads.types
    rw [graph_eq, graph_eq, AudienceGraph.ofCalls, AudienceGraph.ofCalls, filterMap_typeEntry?,
      filterMap_typeEntry?, entries]
  errors id _ := by
    have entries := map_eq_of_related (fun declaration other
      (same : ErrorDeclaration.ReadsAs declaration other) =>
        show (declaration.name.errorId, declaration.typeIds) =
          (other.name.errorId, other.typeIds) by
        rw [same.name, same.typeIds_eq]) reads.errors
    rw [graph_eq, graph_eq, AudienceGraph.ofCalls, AudienceGraph.ofCalls, filterMap_errorEntry?,
      filterMap_errorEntry?, entries]
  endpoints id _ := by
    have entries : document.endpoints.map (fun declared =>
          (declared.1.endpointId declared.2, declared.2.node)) =
        other.endpoints.map fun declared =>
          (declared.1.endpointId declared.2, declared.2.node) := by
      rw [endpoints, endpoints, List.map_flatMap, List.map_flatMap]
      refine flatMap_eq_of_related (fun service otherService same => ?_) reads.services
      rw [List.map_map, List.map_map]
      refine map_eq_of_related (fun endpoint otherEndpoint alike => ?_) same.endpoints
      exact Prod.ext (ServiceName.endpointId_inj.mpr ⟨same.name, alike.name⟩) alike.node_eq
    rw [graph_eq, graph_eq, AudienceGraph.ofCalls, AudienceGraph.ofCalls, filterMap_endpointEntry?,
      filterMap_endpointEntry?, entries]

theorem HiddenEdit.looksAlike (edit : HiddenEdit audiences manifest document other) :
    document.LooksAlike audiences manifest other := by
  cases edit with
  | insertType declaration split untagged dropped =>
      exact looksAlike_insertType split untagged dropped
  | insertError declaration split dropped => exact looksAlike_insertError split dropped
  | insertService service split untagged dropped =>
      exact looksAlike_insertService split untagged dropped
  | insertEndpoint endpoint split untaggedService splitService untagged dropped =>
      exact looksAlike_insertEndpoint split untaggedService splitService untagged dropped
  | rewrite reads => exact reads.looksAlike

end Document

/-- However often a document is edited behind the back of some audiences, their manifest stays. -/
theorem filter_indifferent_to_hidden {document other : Document} {audiences : List String}
    {manifest : Manifest} (found : document.filter (.only audiences) = .ok manifest)
    (edits : Relation.ReflTransGen (Document.HiddenEdit audiences manifest) document other) :
    other.filter (.only audiences) = .ok manifest := by
  induction edits with
  | refl => exact found
  | tail _ edit ih => exact edit.looksAlike.build ih

namespace Document

def bare : Document where
  apiName := "bare"
  types := [⟨⟨[], "A"⟩, [], ["web"], none, none⟩]
  errors := []
  services :=
    [⟨⟨["v1"]⟩, [], [⟨"read", .get, "/", some (.named ⟨[], "A"⟩), none, [], ["web"]⟩]⟩]

/-! What is added sorts before what is there, refers to it and to what is declared nowhere, or
shares a path with it. -/

def backstageType : TypeDeclaration :=
  ⟨⟨[], "0"⟩, [⟨[], "A"⟩, ⟨[], "Ghost"⟩], ["internal"], none, none⟩

def backstageError : ErrorDeclaration := ⟨⟨[], "A"⟩, some (.named ⟨[], "Ghost"⟩), some 500⟩

def backstageService : Service :=
  ⟨⟨["v1"]⟩, ["internal"], [⟨"audit", .put, "/", none, some (.named ⟨[], "Ghost"⟩), [], []⟩]⟩

def backstageEndpoint : Endpoint :=
  ⟨"erase", .delete, "/", none, none, [⟨⟨[], "A"⟩, none⟩], ["internal"]⟩

def crowded : Document where
  apiName := "crowded"
  types := [backstageType, ⟨⟨[], "A"⟩, [], ["internal", "web", "web"], none, some "rewritten"⟩]
  errors := [backstageError]
  services :=
    [backstageService,
      ⟨⟨["v1"]⟩, ["beta"],
        [backstageEndpoint,
          ⟨"read", .post, "/read", some (.named ⟨[], "A"⟩), none, [], ["web", "beta"]⟩]⟩]

end Document

theorem filter_indifferent_to_hidden_crowded :
    ∃ manifest, Document.bare.filter (.only ["web"]) = .ok manifest ∧
      Relation.ReflTransGen (Document.HiddenEdit ["web"] manifest) .bare .crowded ∧
        Document.crowded.filter (.only ["web"]) = .ok manifest := by
  have found : Document.bare.filter (.only ["web"]) =
      .ok ⟨.ofList [⟨":A"⟩], .empty, .ofList [⟨"v1/"⟩], .ofList [⟨"v1/:read"⟩]⟩ := rfl
  have newType := @Document.HiddenEdit.insertType ["web"]
    ⟨.ofList [⟨":A"⟩], .empty, .ofList [⟨"v1/"⟩], .ofList [⟨"v1/:read"⟩]⟩ .bare [] _
    Document.backstageType rfl (by decide) (by decide)
  have newError := Relation.ReflTransGen.tail (.single newType)
    (.insertError Document.backstageError (List.nil_append []).symm (by decide))
  have newService := newError.tail
    (.insertService Document.backstageService (List.nil_append _).symm (by decide) (by decide))
  have newEndpoint := newService.tail
    (@Document.HiddenEdit.insertEndpoint _ _ _ [Document.backstageService] [] _ [] _
      Document.backstageEndpoint rfl (by decide) rfl (by decide) (by decide))
  have edits := newEndpoint.tail (.rewrite (
    { types := .cons ⟨rfl, rfl, by decide⟩ (.cons ⟨rfl, rfl, by decide⟩ .nil)
      errors := .cons ⟨rfl, rfl⟩ .nil
      services := .cons ⟨rfl, by decide, .cons ⟨rfl, rfl, rfl, rfl, by decide⟩ .nil⟩
        (.cons ⟨rfl, by decide, .cons ⟨rfl, rfl, rfl, rfl, by decide⟩
          (.cons ⟨rfl, rfl, rfl, rfl, by decide⟩ .nil)⟩ .nil) } :
      Document.ReadsAs _ _ .crowded))
  exact ⟨_, found, edits, filter_indifferent_to_hidden found edits⟩

end AudienceScope
