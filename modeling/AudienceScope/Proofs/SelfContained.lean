import AudienceScope.Proofs.Pruning
import AudienceScope.Proofs.References

/-!
What a pruned document still declares. The closure follows the last declaration of an identifier,
and pruning keeps every declaration of it; and a type that comes along as a descendant is not looked
up. So the declarations that count mention what is declared, or descendants that are declared
nowhere, while an earlier declaration may mention what is gone. Main statements:
`declaresError_prune` and `accountsFor_prune`.
-/

set_option autoImplicit false

namespace AudienceScope

namespace Document

def DeclaresType (document : Document) (name : QualifiedName) : Prop :=
  ∃ declaration ∈ document.types, declaration.name = name

def DeclaresError (document : Document) (name : QualifiedName) : Prop :=
  ∃ declaration ∈ document.errors, declaration.name = name

instance (document : Document) (name : QualifiedName) : Decidable (document.DeclaresType name) :=
  inferInstanceAs (Decidable (∃ declaration ∈ document.types, declaration.name = name))

instance (document : Document) (name : QualifiedName) : Decidable (document.DeclaresError name) :=
  inferInstanceAs (Decidable (∃ declaration ∈ document.errors, declaration.name = name))

/-- Whether all that endpoints and payloads mention is declared. Descendants need not be. -/
def IsSelfContained (document : Document) : Prop :=
  (∀ service ∈ document.services, ∀ endpoint ∈ service.endpoints,
    (∀ name ∈ endpoint.errorNames, document.DeclaresError name) ∧
      ∀ name ∈ endpoint.typeNames, document.DeclaresType name) ∧
  ∀ declaration ∈ document.errors, ∀ name ∈ declaration.typeNames, document.DeclaresType name

instance (document : Document) : Decidable document.IsSelfContained :=
  inferInstanceAs (Decidable (_ ∧ _))

/-- How a pruned document accounts for a type that the original mentions: it declares it, or the
original does not, and a type that is left lists it in its last declaration. -/
def AccountsFor (pruned original : Document) (name : QualifiedName) : Prop :=
  pruned.DeclaresType name ∨
    ¬ original.DeclaresType name ∧
      ∃ source ∈ pruned.types, original.lastType? source.name.typeId = some source ∧
        name ∈ source.descendants

variable {document : Document} {audiences : List String} {manifest : Manifest}

theorem lastType?_of_registers {id : TypeId}
    (registered : (document.graph audiences).registers (.type id) = true) :
    ∃ declaration, document.lastType? id = some declaration := by
  obtain ⟨descendants, found⟩ := AudienceGraph.registers_iff_type.mp registered
  rw [get?_types, Option.map_eq_some_iff] at found
  obtain ⟨declaration, last, _⟩ := found
  exact ⟨declaration, last⟩

theorem lastError?_of_registers {id : ErrorId}
    (registered : (document.graph audiences).registers (.error id) = true) :
    ∃ declaration, document.lastError? id = some declaration := by
  obtain ⟨payload, found⟩ := AudienceGraph.registers_iff_error.mp registered
  rw [get?_errors, Option.map_eq_some_iff] at found
  obtain ⟨declaration, last, _⟩ := found
  exact ⟨declaration, last⟩

theorem declaresError_prune (built : (document.graph audiences).build = .ok manifest)
    {name : QualifiedName} (mentioned : .error name.errorId ∈ (document.graph audiences).mentions) :
    (manifest.prune document).DeclaresError name := by
  obtain ⟨registered, _⟩ := AudienceGraph.build_ok_iff.mp built
  have lookedUp : .error name.errorId ∈ (document.graph audiences).lookups .none
      (document.graph audiences).mentions :=
    AudienceGraph.error_mem_lookups mentioned (OrderedSet.not_mem_empty _)
  obtain ⟨declaration, last⟩ := lastError?_of_registers (registered _ lookedUp)
  obtain ⟨declares, same⟩ := mem_of_lastError? last
  have kept : name.errorId ∈ manifest.errors :=
    (AudienceGraph.mem_errors_of_build built).mpr mentioned
  exact ⟨declaration, Manifest.mem_prune_errors.mpr ⟨declares, same ▸ kept⟩,
    QualifiedName.errorId_inj.mp same⟩

/-- A mentioned type is looked up, and then declared, unless a type that was looked up lists it. -/
theorem accountsFor_prune (built : (document.graph audiences).build = .ok manifest)
    {name : QualifiedName} (mentioned : .type name.typeId ∈ (document.graph audiences).mentions) :
    (manifest.prune document).AccountsFor document name := by
  obtain ⟨registered, _⟩ := AudienceGraph.build_ok_iff.mp built
  have kept {id : TypeId} (mentioned : .type id ∈ (document.graph audiences).mentions) :
      id ∈ manifest.types := (AudienceGraph.mem_types_of_build built).mpr (.inl mentioned)
  by_cases declared : document.DeclaresType name
  · obtain ⟨declaration, declares, rfl⟩ := declared
    exact .inl ⟨declaration, Manifest.mem_prune_types.mpr ⟨declares, kept mentioned⟩, rfl⟩
  · refine .inr ⟨declared, ?_⟩
    rcases AudienceGraph.type_mem_lookups_or_listed mentioned with lookedUp | hidden
    · obtain ⟨declaration, last⟩ := lastType?_of_registers (registered _ lookedUp)
      obtain ⟨declares, same⟩ := mem_of_lastType? last
      exact absurd ⟨declaration, declares, QualifiedName.typeId_inj.mp same⟩ declared
    · obtain ⟨source, lookedUp, listed⟩ := hidden
      obtain ⟨declaration, last⟩ := lastType?_of_registers (registered _ lookedUp)
      obtain ⟨declares, rfl⟩ := mem_of_lastType? last
      rw [AudienceGraph.descendants, get?_types, last] at listed
      exact ⟨declaration,
        Manifest.mem_prune_types.mpr ⟨declares, kept (AudienceGraph.mem_of_mem_lookups lookedUp)⟩, last,
        TypeDeclaration.mem_descendantIds.mp listed⟩

theorem endpointNode_of_last (built : (document.graph audiences).build = .ok manifest)
    {service : Service} (survives : service ∈ (manifest.prune document).services)
    {endpoint : Endpoint} (holds : endpoint ∈ service.endpoints)
    (last : document.lastEndpoint? (service.name.endpointId endpoint) = some endpoint) :
    service.name.endpointId endpoint ∈ (document.graph audiences).neededEndpoints ∧
      (document.graph audiences).endpointNode (service.name.endpointId endpoint) =
        endpoint.node := by
  obtain ⟨original, _, _, rfl⟩ := Manifest.mem_prune_services.mp survives
  have kept : original.name.endpointId endpoint ∈ manifest.endpoints :=
    (Manifest.mem_pruneService_endpoints.mp holds).2
  refine ⟨AudienceGraph.endpoints_of_build built ▸ kept, ?_⟩
  rw [AudienceGraph.endpointNode, get?_endpoints, last]
  rfl

theorem payload_of_last (built : (document.graph audiences).build = .ok manifest)
    {declaration : ErrorDeclaration} (survives : declaration ∈ (manifest.prune document).errors)
    (last : document.lastError? declaration.name.errorId = some declaration) :
    .error declaration.name.errorId ∈ (document.graph audiences).mentions ∧
      (document.graph audiences).payload declaration.name.errorId = declaration.typeIds := by
  have kept : declaration.name.errorId ∈ manifest.errors := (Manifest.mem_prune_errors.mp survives).2
  refine ⟨(AudienceGraph.mem_errors_of_build built).mp kept, ?_⟩
  rw [AudienceGraph.payload, get?_errors, last]
  rfl

end Document

/-- A pruned document accounts for all that its endpoints and payloads mention, if these stand in
last declarations. -/
theorem prune_accounts_for_last {document : Document} {audiences : List String}
    {manifest : Manifest} (found : document.filter (.only audiences) = .ok manifest) :
    (∀ service ∈ (manifest.prune document).services, ∀ endpoint ∈ service.endpoints,
      document.lastEndpoint? (service.name.endpointId endpoint) = some endpoint →
        (∀ name ∈ endpoint.errorNames, (manifest.prune document).DeclaresError name) ∧
          ∀ name ∈ endpoint.typeNames, (manifest.prune document).AccountsFor document name) ∧
    ∀ declaration ∈ (manifest.prune document).errors,
      document.lastError? declaration.name.errorId = some declaration →
        ∀ name ∈ declaration.typeNames, (manifest.prune document).AccountsFor document name := by
  have built : (document.graph audiences).build = .ok manifest := found
  constructor
  · intro service survives endpoint holds last
    obtain ⟨needed, node⟩ := Document.endpointNode_of_last built survives holds last
    constructor
    · intro name listed
      refine Document.declaresError_prune built (AudienceGraph.error_mem_mentions.mpr ?_)
      refine ⟨_, needed, ?_⟩
      rw [node]
      exact Endpoint.mem_node_errors.mpr listed
    · intro name listed
      refine Document.accountsFor_prune built (AudienceGraph.mem_candidates.mp ?_)
      refine AudienceGraph.mem_candidates_iff.mpr (.inl ⟨_, needed, ?_⟩)
      rw [node]
      exact Endpoint.mem_node_types.mpr listed
  · intro declaration survives last name listed
    obtain ⟨mentioned, payload⟩ := Document.payload_of_last built survives last
    obtain ⟨endpoint, needed, among⟩ := AudienceGraph.error_mem_mentions.mp mentioned
    refine Document.accountsFor_prune built (AudienceGraph.mem_candidates.mp ?_)
    refine AudienceGraph.mem_candidates_iff.mpr (.inr (.inl ⟨endpoint, needed, _, among, ?_⟩))
    rw [payload]
    exact ErrorDeclaration.mem_typeIds.mpr listed

/-- An endpoint mentions a type and a descendant of it, and the descendant is declared nowhere. -/
def Document.undeclaredDescendant : Document where
  apiName := "hidden"
  types := [⟨⟨[], "A"⟩, [⟨[], "B"⟩], [], none, none⟩]
  errors := []
  services := [⟨⟨[]⟩, ["web"],
    [⟨"read", .get, "/", some (.named ⟨[], "A"⟩), some (.list (.named ⟨[], "B"⟩)), [], []⟩]⟩]

theorem prune_accounts_for_descendant :
    ∃ manifest, Document.undeclaredDescendant.filter (.only ["web"]) = .ok manifest ∧
      (manifest.prune .undeclaredDescendant).AccountsFor .undeclaredDescendant ⟨[], "B"⟩ := by
  refine ⟨_, rfl, ?_⟩
  have found : Document.undeclaredDescendant.filter (.only ["web"]) =
      .ok ⟨.ofList [⟨":A"⟩, ⟨":B"⟩], .empty, .ofList [⟨""⟩], .ofList [⟨":read"⟩]⟩ := rfl
  obtain ⟨ofEndpoints, _⟩ := prune_accounts_for_last found
  obtain ⟨_, ofTypes⟩ := ofEndpoints _ List.mem_cons_self _ List.mem_cons_self rfl
  exact ofTypes _ (by decide)

/-- Two declarations of one endpoint, of which the second no longer lists the error. -/
def Document.repeatedEndpoint : Document where
  apiName := "repeated"
  types := []
  errors := [⟨⟨[], "E"⟩, none, none⟩]
  services := [⟨⟨[]⟩, ["web"],
    [⟨"read", .get, "/", none, none, [⟨⟨[], "E"⟩, none⟩], []⟩,
      ⟨"read", .get, "/", none, none, [], []⟩]⟩]

/-- A pruned document may mention a descendant that is declared nowhere, and in an earlier
declaration what the last one does not mention. -/
theorem prune_not_selfContained :
    (∃ manifest, Document.undeclaredDescendant.filter (.only ["web"]) = .ok manifest ∧
      ¬ (manifest.prune .undeclaredDescendant).IsSelfContained) ∧
    ∃ manifest, Document.repeatedEndpoint.filter (.only ["web"]) = .ok manifest ∧
      ¬ (manifest.prune .repeatedEndpoint).IsSelfContained := by
  constructor
  · exact ⟨_, rfl, by decide⟩
  · exact ⟨_, rfl, by decide⟩

end AudienceScope
