import AudienceScope.Proofs.References
import Mathlib.Logic.Relation

/-!
Which named types occur in a reference, said without listing them: stepping from a list, an optional
or a set to its item, or from a map to its key or its value, leads to the name. Collecting adds the
identifiers of exactly these types to what was found before, so nothing found is lost and several
references may be collected in any order. Main statements: `mem_names_iff`, `mem_collectAll_iff`,
`collectAll_eq_of_perm` and `collecting_adds_what_occurs`.
-/

set_option autoImplicit false

namespace AudienceScope

/-- A part stands directly inside a reference. No other reference has parts: a literal holds a text
or a truth value, and a name is a leaf. -/
inductive TypeReference.IsPartOf : TypeReference → TypeReference → Prop where
  | listItem {item : TypeReference} : item.IsPartOf (.list item)
  | optionalItem {item : TypeReference} : item.IsPartOf (.optional item)
  | setItem {item : TypeReference} : item.IsPartOf (.set item)
  | mapKey {key value : TypeReference} : key.IsPartOf (.map key value)
  | mapValue {key value : TypeReference} : value.IsPartOf (.map key value)

/-- A name occurs in a reference as the reference itself or as a part of parts, at any depth. -/
def QualifiedName.OccursIn (name : QualifiedName) (reference : TypeReference) : Prop :=
  Relation.ReflTransGen TypeReference.IsPartOf (.named name) reference

namespace TypeReference

theorem IsPartOf.names_subset {part reference : TypeReference} (inside : part.IsPartOf reference) :
    part.names ⊆ reference.names := by
  cases inside with
  | listItem => exact List.Subset.refl _
  | optionalItem => exact List.Subset.refl _
  | setItem => exact List.Subset.refl _
  | mapKey => exact List.subset_append_left _ _
  | mapValue => exact List.subset_append_right _ _

theorem mem_names_iff {reference : TypeReference} {name : QualifiedName} :
    name ∈ reference.names ↔ name.OccursIn reference := by
  constructor
  · intro listed
    induction reference with
    | named other =>
        cases List.mem_singleton.mp listed
        exact .refl
    | primitive kind => exact nomatch listed
    | unknown => exact nomatch listed
    | void => exact nomatch listed
    | literal value => exact nomatch listed
    | list item ih => exact (ih listed).tail .listItem
    | optional item ih => exact (ih listed).tail .optionalItem
    | set item ih => exact (ih listed).tail .setItem
    | map key value keyIh valueIh =>
        rcases List.mem_append.mp listed with inKey | inValue
        · exact (keyIh inKey).tail .mapKey
        · exact (valueIh inValue).tail .mapValue
  · intro occurs
    -- From the inside out: what holds the name lists it, and so does what that is a part of.
    induction occurs with
    | refl => exact List.mem_singleton_self name
    | tail _ inside ih => exact inside.names_subset ih

instance (name : QualifiedName) (reference : TypeReference) : Decidable (name.OccursIn reference) :=
  decidable_of_iff (name ∈ reference.names) mem_names_iff

theorem mem_collect_iff_occurs {reference : TypeReference} {id : TypeId} {found : IdSet .type} :
    id ∈ reference.collect found ↔
      id ∈ found ∨ ∃ name : QualifiedName, name.OccursIn reference ∧ name.typeId = id := by
  rw [mem_collect_iff, or_comm]
  simp only [mem_names_iff]

theorem typeId_mem_typeIds_iff {reference : TypeReference} {name : QualifiedName} :
    name.typeId ∈ reference.typeIds ↔ name.OccursIn reference := by
  rw [typeIds, mem_collect_iff_occurs, or_iff_right (OrderedSet.not_mem_empty _)]
  simp only [QualifiedName.typeId_inj, exists_eq_right]

def collectAll (references : List TypeReference) (found : IdSet .type) : IdSet .type :=
  references.foldl (fun found reference => reference.collect found) found

theorem mem_collectAll_iff {references : List TypeReference} {id : TypeId}
    {found : IdSet .type} :
    id ∈ collectAll references found ↔
      id ∈ found ∨ ∃ reference ∈ references, ∃ name : QualifiedName,
        name.OccursIn reference ∧ name.typeId = id := by
  induction references generalizing found with
  | nil => simp [collectAll]
  | cons head tail ih =>
      have step : collectAll (head :: tail) found = collectAll tail (head.collect found) := rfl
      rw [step, ih, mem_collect_iff_occurs, or_assoc]
      simp only [List.exists_mem_cons_iff]

theorem collectAll_eq_of_perm {references others : List TypeReference}
    (reordered : references.Perm others) (found : IdSet .type) :
    collectAll references found = collectAll others found := by
  refine OrderedSet.ext_mem fun id => ?_
  rw [mem_collectAll_iff, mem_collectAll_iff]
  simp only [reordered.mem_iff]

theorem collectOptional_eq_collectAll (reference? : Option TypeReference) (found : IdSet .type) :
    collectOptional reference? found = collectAll reference?.toList found := by
  cases reference? with
  | none => rfl
  | some reference => rfl

end TypeReference

open TypeReference (collectAll)

theorem Endpoint.node_types_eq_collectAll (endpoint : Endpoint) :
    endpoint.node.types =
      collectAll (endpoint.request.toList ++ endpoint.response.toList) .empty := by
  rw [node, TypeReference.collectOptional_eq_collectAll,
    TypeReference.collectOptional_eq_collectAll, collectAll, collectAll, collectAll,
    List.foldl_append]

/-- Collecting adds the identifiers of the names that occur and nothing else; it keeps what was
found before; several references, such as those of an endpoint, may be collected in any order; and a
name's identifier is collected exactly if that very name occurs. -/
theorem collecting_adds_what_occurs :
    (∀ (reference : TypeReference) (found : IdSet .type) (id : TypeId),
      id ∈ reference.collect found ↔
        id ∈ found ∨ ∃ name : QualifiedName, name.OccursIn reference ∧ name.typeId = id) ∧
    (∀ (reference : TypeReference) (found : IdSet .type),
      ∀ id ∈ found, id ∈ reference.collect found) ∧
    (∀ (references others : List TypeReference) (found : IdSet .type), references.Perm others →
      collectAll references found = collectAll others found) ∧
    (∀ (endpoint : Endpoint) (references : List TypeReference),
      references.Perm (endpoint.request.toList ++ endpoint.response.toList) →
        endpoint.node.types = collectAll references .empty) ∧
    ∀ (reference : TypeReference) (name : QualifiedName),
      name.typeId ∈ reference.typeIds ↔ name.OccursIn reference := by
  refine ⟨?exact, ?kept, ?anyOrder, ?endpoint, ?veryName⟩
  case exact => exact fun reference found id => TypeReference.mem_collect_iff_occurs
  case kept =>
    intro reference found id before
    exact TypeReference.mem_collect_iff_occurs.mpr (.inl before)
  case anyOrder =>
    exact fun references others found reordered =>
      TypeReference.collectAll_eq_of_perm reordered found
  case endpoint =>
    intro endpoint references reordered
    rw [endpoint.node_types_eq_collectAll, TypeReference.collectAll_eq_of_perm reordered]
  case veryName => exact fun reference name => TypeReference.typeId_mem_typeIds_iff

/-- A name in the key of a map and one in the value of another, beside a literal that spells a third
one. -/
def TypeReference.buried : TypeReference :=
  .optional (.list (.map (.set (.named ⟨["a", "b"], "Key"⟩))
    (.map (.literal (.string "Spelled")) (.set (.optional (.named ⟨[], "Value"⟩))))))

theorem collecting_adds_what_occurs_buried :
    let found : IdSet .type := .ofList [⟨":Found"⟩]
    let endpoint : Endpoint :=
      ⟨"read", .get, "/", some .buried, some (.named ⟨[], "Reply"⟩), [], []⟩
    (⟨":Found"⟩ ∈ found ∧ ⟨":Found"⟩ ∈ TypeReference.buried.collect found) ∧
    (⟨"a/b/:Key"⟩ ∈ TypeReference.buried.collect found ∧
      ⟨":Value"⟩ ∈ TypeReference.buried.collect found ∧
        ⟨":Spelled"⟩ ∉ TypeReference.buried.collect found) ∧
    collectAll [.buried, .named ⟨[], "Reply"⟩] found =
      collectAll [.named ⟨[], "Reply"⟩, .buried] found ∧
    endpoint.node.types = collectAll [.named ⟨[], "Reply"⟩, .buried] .empty ∧
    (QualifiedName.mk ["a", "b"] "Key").typeId ∈ TypeReference.buried.typeIds ∧
      (QualifiedName.mk ["a/b"] "Key").typeId ∉ TypeReference.buried.typeIds := by
  intro found endpoint
  obtain ⟨adds, keeps, anyOrder, anyOrderOfEndpoint, veryName⟩ := collecting_adds_what_occurs
  have before : ⟨":Found"⟩ ∈ found := by decide
  have key : (QualifiedName.mk ["a", "b"] "Key").OccursIn .buried := by decide
  have value : (QualifiedName.mk [] "Value").OccursIn .buried := by decide
  refine ⟨⟨before, keeps .buried found _ before⟩, ⟨?_, ?_, ?_⟩, ?_, ?_, ?_, ?_⟩
  · exact (adds .buried found _).mpr (.inr ⟨_, key, rfl⟩)
  · exact (adds .buried found _).mpr (.inr ⟨_, value, rfl⟩)
  · decide
  · exact anyOrder _ _ found (.swap _ _ [])
  · exact anyOrderOfEndpoint endpoint _ (.swap _ _ [])
  · exact (veryName .buried _).mpr key
  · exact fun collected => absurd ((veryName .buried _).mp collected) (by decide)

end AudienceScope
