import AudienceScope.Proofs.Identifiers
import AudienceScope.Proofs.Population

/-!
The identifiers that are collected from references are those of the named types in them. Main
statements: `mem_collect_iff`, `mem_node_types_iff`, `mem_node_errors_iff` and `mem_typeIds_iff`.
-/

set_option autoImplicit false

namespace AudienceScope

namespace TypeReference

def namesOptional (reference? : Option TypeReference) : List QualifiedName :=
  reference?.elim [] names

/-- What is collected are identifiers of names, so each of them can be traced back to one. -/
theorem mem_collect_iff {reference : TypeReference} {id : TypeId} {found : IdSet .type} :
    id ∈ reference.collect found ↔ (∃ name ∈ reference.names, name.typeId = id) ∨ id ∈ found := by
  induction reference generalizing found with
  | named other => simp [collect, names, OrderedSet.mem_insert, eq_comm]
  | primitive kind => simp [collect, names]
  | unknown => simp [collect, names]
  | void => simp [collect, names]
  | literal value => simp [collect, names]
  | list item ih => exact ih
  | optional item ih => exact ih
  | set item ih => exact ih
  | map key value keyIh valueIh =>
      rw [collect, names, valueIh, keyIh]
      simp only [List.mem_append, or_and_right, exists_or]
      rw [or_left_comm, or_assoc]

theorem mem_collectOptional_iff {reference? : Option TypeReference} {id : TypeId}
    {found : IdSet .type} :
    id ∈ collectOptional reference? found ↔
      (∃ name ∈ namesOptional reference?, name.typeId = id) ∨ id ∈ found := by
  cases reference? with
  | none => simp [collectOptional, namesOptional]
  | some reference => exact mem_collect_iff

end TypeReference

def Endpoint.typeNames (endpoint : Endpoint) : List QualifiedName :=
  TypeReference.namesOptional endpoint.request ++ TypeReference.namesOptional endpoint.response

def Endpoint.errorNames (endpoint : Endpoint) : List QualifiedName :=
  endpoint.errors.map ResponseError.error

def ErrorDeclaration.typeNames (declaration : ErrorDeclaration) : List QualifiedName :=
  TypeReference.namesOptional declaration.payload

theorem Endpoint.mem_node_types_iff {endpoint : Endpoint} {id : TypeId} :
    id ∈ endpoint.node.types ↔ ∃ name ∈ endpoint.typeNames, name.typeId = id := by
  rw [node, typeNames, TypeReference.mem_collectOptional_iff, TypeReference.mem_collectOptional_iff]
  simp only [List.mem_append, or_and_right, exists_or]
  rw [or_left_comm, or_iff_left (OrderedSet.not_mem_empty id)]

theorem Endpoint.mem_node_errors_iff {endpoint : Endpoint} {id : ErrorId} :
    id ∈ endpoint.node.errors ↔ ∃ name ∈ endpoint.errorNames, name.errorId = id := by
  rw [node, errorNames, OrderedSet.mem_ofList, List.mem_map]
  simp only [List.mem_map, exists_exists_and_eq_and]

theorem ErrorDeclaration.mem_typeIds_iff {declaration : ErrorDeclaration} {id : TypeId} :
    id ∈ declaration.typeIds ↔ ∃ name ∈ declaration.typeNames, name.typeId = id := by
  rw [typeIds, typeNames, TypeReference.mem_collectOptional_iff,
    or_iff_left (OrderedSet.not_mem_empty id)]

theorem Endpoint.mem_node_types {endpoint : Endpoint} {name : QualifiedName} :
    name.typeId ∈ endpoint.node.types ↔ name ∈ endpoint.typeNames := by
  rw [mem_node_types_iff]
  simp only [QualifiedName.typeId_inj, exists_eq_right]

theorem Endpoint.mem_node_errors {endpoint : Endpoint} {name : QualifiedName} :
    name.errorId ∈ endpoint.node.errors ↔ name ∈ endpoint.errorNames := by
  rw [mem_node_errors_iff]
  simp only [QualifiedName.errorId_inj, exists_eq_right]

theorem ErrorDeclaration.mem_typeIds {declaration : ErrorDeclaration} {name : QualifiedName} :
    name.typeId ∈ declaration.typeIds ↔ name ∈ declaration.typeNames := by
  rw [mem_typeIds_iff]
  simp only [QualifiedName.typeId_inj, exists_eq_right]

theorem TypeDeclaration.mem_descendantIds {declaration : TypeDeclaration} {name : QualifiedName} :
    name.typeId ∈ declaration.descendantIds ↔ name ∈ declaration.descendants := by
  rw [descendantIds, OrderedSet.mem_ofList, List.mem_map]
  simp only [QualifiedName.typeId_inj, exists_eq_right]

end AudienceScope
