import AudienceScope.Proofs.Decoding

/-!
Decoding undoes encoding on finished values. A written value names every member once, so putting its
members in order loses nothing, and what is decoded from the ordered value is what is read from the
members as they were written. Main statements: `TypeReference.ofJson_toJson`,
`Document.ofJson_toJson` and `decoding_inverts_encoding`.
-/

set_option autoImplicit false

namespace AudienceScope

open Json (hasDistinctNames optionalMember texts tagged)

namespace Json

theorem hasDistinctNames_object_iff {members : List (String × Json)} :
    (object members).hasDistinctNames = true ↔
      (members.map Prod.fst).Nodup ∧ ∀ member ∈ members, member.2.hasDistinctNames = true := by
  rw [hasDistinctNames, Bool.and_eq_true, decide_eq_true_eq, membersHaveDistinctNames_iff]

mutual

theorem hasDistinctNames_of_isCanonical : (value : Json) → value.isCanonical = true →
    value.hasDistinctNames = true
  | .null, _ => rfl
  | .boolean _, _ => rfl
  | .number _, _ => rfl
  | .text _, _ => rfl
  | .list items, inOrder => itemsHaveDistinctNames_of_isCanonical items inOrder
  | .object members, inOrder => by
      obtain ⟨ascending, inner⟩ := Bool.and_eq_true_iff.mp inOrder
      rw [hasDistinctNames, membersHaveDistinctNames_of_isCanonical members inner, Bool.and_true,
        decide_eq_true_eq]
      apply List.pairwise_map.mpr
      exact (of_decide_eq_true ascending).imp fun before => StrictOrder.ne_of_lt before

theorem itemsHaveDistinctNames_of_isCanonical : (items : List Json) →
    isCanonicalItems items = true → itemsHaveDistinctNames items = true
  | [], _ => rfl
  | item :: rest, inOrder => by
      obtain ⟨first, others⟩ := Bool.and_eq_true_iff.mp inOrder
      rw [itemsHaveDistinctNames, hasDistinctNames_of_isCanonical item first,
        itemsHaveDistinctNames_of_isCanonical rest others, Bool.and_self]

theorem membersHaveDistinctNames_of_isCanonical : (members : List (String × Json)) →
    isCanonicalMembers members = true → membersHaveDistinctNames members = true
  | [], _ => rfl
  | (_, value) :: rest, inOrder => by
      obtain ⟨first, others⟩ := Bool.and_eq_true_iff.mp inOrder
      rw [membersHaveDistinctNames, hasDistinctNames_of_isCanonical value first,
        membersHaveDistinctNames_of_isCanonical rest others, Bool.and_self]

end

theorem hasDistinctNames_list {α : Type} {write : α → Json} {values : List α}
    (inside : ∀ value ∈ values, (write value).hasDistinctNames = true) :
    (list (values.map write)).hasDistinctNames = true := by
  rw [hasDistinctNames, itemsHaveDistinctNames_iff]
  exact List.forall_mem_map.mpr inside

theorem hasDistinctNames_texts (values : List String) : (texts values).hasDistinctNames = true :=
  hasDistinctNames_list fun _ _ => rfl

theorem forall_mem_optionalMember_iff {α : Type} {name : String} {write : α → Json}
    {value? : Option α} {holds : String × Json → Prop} :
    (∀ member ∈ optionalMember name (value?.map write), holds member) ↔
      ∀ value ∈ value?, holds (name, write value) := by
  cases value? <;> simp [optionalMember]

theorem names_optionalMember_sublist (name : String) (value? : Option Json) :
    ((optionalMember name value?).map Prod.fst).Sublist [name] := by
  cases value? with
  | none => exact List.nil_sublist _
  | some value => exact .refl _

end Json

open Json (hasDistinctNames_object_iff hasDistinctNames_list hasDistinctNames_texts
  forall_mem_optionalMember_iff names_optionalMember_sublist)

namespace QualifiedName

theorem distinct_inside_members (name : QualifiedName) :
    ∀ member ∈ name.members, member.2.hasDistinctNames = true :=
  List.forall_mem_cons.mpr ⟨hasDistinctNames_texts name.path, List.forall_mem_singleton.mpr rfl⟩

theorem hasDistinctNames_toJson (name : QualifiedName) : name.toJson.hasDistinctNames = true :=
  hasDistinctNames_object_iff.mpr ⟨name.nodup_members, name.distinct_inside_members⟩

end QualifiedName

theorem Json.hasDistinctNames_tagged {tag : String} {members : List (String × Json)}
    (untagged : tagName ∉ members.map Prod.fst)
    (distinct : (object members).hasDistinctNames = true) :
    (tagged tag members).hasDistinctNames = true := by
  obtain ⟨once, inside⟩ := hasDistinctNames_object_iff.mp distinct
  apply hasDistinctNames_object_iff.mpr
  exact ⟨List.nodup_cons.mpr ⟨untagged, once⟩, List.forall_mem_cons.mpr ⟨rfl, inside⟩⟩

theorem Json.hasDistinctNames_tagged_single {tag name : String} {value : Json}
    (different : tagName ≠ name) (inside : value.hasDistinctNames = true) :
    (tagged tag [(name, value)]).hasDistinctNames = true := by
  apply hasDistinctNames_tagged
  · exact fun present => different (List.mem_singleton.mp present)
  · exact hasDistinctNames_object_iff.mpr
      ⟨List.nodup_singleton name, List.forall_mem_singleton.mpr inside⟩

open Json (hasDistinctNames_tagged hasDistinctNames_tagged_single)

theorem Literal.hasDistinctNames_toJson (value : Literal) :
    value.toJson.hasDistinctNames = true := by
  cases value with
  | string text => exact hasDistinctNames_tagged_single (by decide) rfl
  | boolean value => exact hasDistinctNames_tagged_single (by decide) rfl

namespace TypeReference

theorem hasDistinctNames_container {tag name : String} {value : Json}
    (different : Json.tagName ≠ name) (inside : value.hasDistinctNames = true) :
    (container tag [(name, value)]).hasDistinctNames = true :=
  hasDistinctNames_tagged_single (by decide) (hasDistinctNames_tagged_single different inside)

theorem hasDistinctNames_toJson (reference : TypeReference) :
    reference.toJson.hasDistinctNames = true := by
  induction reference with
  | named name =>
      have untagged : Json.tagName ∉ ["path", "name"] := by decide
      exact hasDistinctNames_tagged untagged name.hasDistinctNames_toJson
  | primitive kind => exact hasDistinctNames_tagged_single (by decide) rfl
  | unknown => rfl
  | void => rfl
  | list item ih => exact hasDistinctNames_container (by decide) ih
  | optional item ih => exact hasDistinctNames_container (by decide) ih
  | set item ih => exact hasDistinctNames_container (by decide) ih
  | map key value ihKey ihValue =>
      have untagged : Json.tagName ∉ ["keyType", "valueType"] := by decide
      have once : ["keyType", "valueType"].Nodup := by decide
      have entries : (Json.object
          [("keyType", key.toJson), ("valueType", value.toJson)]).hasDistinctNames = true :=
        hasDistinctNames_object_iff.mpr
          ⟨once, List.forall_mem_cons.mpr ⟨ihKey, List.forall_mem_singleton.mpr ihValue⟩⟩
      exact hasDistinctNames_tagged_single (by decide) (hasDistinctNames_tagged untagged entries)
  | literal value => exact hasDistinctNames_container (by decide) value.hasDistinctNames_toJson

def ofJson (value : Json) : Except Json.ReadError TypeReference :=
  read .value (Json.Tree.ofValue value.canonical)

theorem ofJson_toJson (reference : TypeReference) : ofJson reference.toJson = .ok reference := by
  have alike := isSteady_read .inPlace reference.toJson reference.hasDistinctNames_toJson
  exact (alike.eq_ok_iff reference).mp (reference.read_ofValue .page)

end TypeReference

theorem ErrorDeclaration.hasDistinctNames_toJson (declaration : ErrorDeclaration) :
    declaration.toJson.hasDistinctNames = true := by
  obtain ⟨name, payload, statusCode⟩ := declaration
  apply hasDistinctNames_object_iff.mpr
  constructor
  · have names : ["name", "type", "statusCode"].Nodup := by decide
    refine List.Nodup.sublist ?_ names
    simp only [List.map_append]
    exact ((List.Sublist.refl ["name"]).append (names_optionalMember_sublist "type" _)).append
      (names_optionalMember_sublist "statusCode" _)
  · simp only [List.forall_mem_append, List.forall_mem_singleton, forall_mem_optionalMember_iff]
    refine ⟨⟨name.hasDistinctNames_toJson, ?_⟩, fun _ _ => rfl⟩
    exact fun reference _ => reference.hasDistinctNames_toJson

theorem TypeDeclaration.hasDistinctNames_toJson (declaration : TypeDeclaration) :
    declaration.toJson.hasDistinctNames = true := by
  obtain ⟨name, descendants, audiences, shape, docs⟩ := declaration
  apply hasDistinctNames_object_iff.mpr
  constructor
  · have names : ["name", "descendants", "audiences", "shape", "docs"].Nodup := by decide
    refine List.Nodup.sublist ?_ names
    simp only [List.map_append]
    exact ((List.Sublist.refl ["name", "descendants", "audiences"]).append
      (names_optionalMember_sublist "shape" _)).append (names_optionalMember_sublist "docs" _)
  · simp only [List.forall_mem_append, List.forall_mem_cons, forall_mem_optionalMember_iff]
    refine ⟨⟨⟨name.hasDistinctNames_toJson, ?_, hasDistinctNames_texts audiences, nofun⟩, ?_⟩,
      fun _ _ => rfl⟩
    · exact hasDistinctNames_list fun descendant _ => descendant.hasDistinctNames_toJson
    · exact fun shape _ => Json.hasDistinctNames_of_isCanonical shape.value shape.canonical

theorem ResponseError.hasDistinctNames_toJson (response : ResponseError) :
    response.toJson.hasDistinctNames = true := by
  obtain ⟨error, docs⟩ := response
  apply hasDistinctNames_object_iff.mpr
  constructor
  · have names : ["error", "docs"].Nodup := by decide
    refine List.Nodup.sublist ?_ names
    simp only [List.map_append]
    exact (List.Sublist.refl ["error"]).append (names_optionalMember_sublist "docs" _)
  · simp only [List.forall_mem_append, List.forall_mem_singleton, forall_mem_optionalMember_iff]
    exact ⟨error.hasDistinctNames_toJson, fun _ _ => rfl⟩

theorem Endpoint.hasDistinctNames_toJson (endpoint : Endpoint) :
    endpoint.toJson.hasDistinctNames = true := by
  obtain ⟨name, method, path, request, response, errors, audiences⟩ := endpoint
  apply hasDistinctNames_object_iff.mpr
  constructor
  · have names : ["name", "method", "path", "request", "response", "errors",
        "audiences"].Nodup := by
      decide
    refine List.Nodup.sublist ?_ names
    simp only [List.map_append]
    exact (((List.Sublist.refl ["name", "method", "path"]).append
      (names_optionalMember_sublist "request" _)).append
        (names_optionalMember_sublist "response" _)).append (.refl ["errors", "audiences"])
  · simp only [List.forall_mem_append, List.forall_mem_cons, forall_mem_optionalMember_iff]
    refine ⟨⟨⟨⟨rfl, rfl, rfl, nofun⟩, ?_⟩, ?_⟩, ?_, hasDistinctNames_texts audiences, nofun⟩
    · exact fun reference _ => reference.hasDistinctNames_toJson
    · exact fun reference _ => reference.hasDistinctNames_toJson
    · exact hasDistinctNames_list fun error _ => error.hasDistinctNames_toJson

theorem ServiceName.hasDistinctNames_toJson (service : ServiceName) :
    service.toJson.hasDistinctNames = true :=
  hasDistinctNames_object_iff.mpr ⟨List.nodup_singleton "path",
    List.forall_mem_singleton.mpr (hasDistinctNames_texts service.path)⟩

theorem Service.hasDistinctNames_toJson (service : Service) :
    service.toJson.hasDistinctNames = true := by
  have names : ["name", "audiences", "endpoints"].Nodup := by decide
  apply hasDistinctNames_object_iff.mpr
  refine ⟨names, ?_⟩
  simp only [List.forall_mem_cons]
  refine ⟨service.name.hasDistinctNames_toJson, hasDistinctNames_texts service.audiences, ?_, nofun⟩
  exact hasDistinctNames_list fun endpoint _ => endpoint.hasDistinctNames_toJson

/-! ### Documents -/

namespace Document

theorem hasDistinctNames_toJson (document : Document) :
    document.toJson.hasDistinctNames = true := by
  have names : ["apiName", "types", "errors", "services"].Nodup := by decide
  apply hasDistinctNames_object_iff.mpr
  refine ⟨names, ?_⟩
  simp only [List.forall_mem_cons]
  refine ⟨rfl, ?types, ?errors, ?services, nofun⟩
  case types => exact hasDistinctNames_list fun declaration _ => declaration.hasDistinctNames_toJson
  case errors =>
    exact hasDistinctNames_list fun declaration _ => declaration.hasDistinctNames_toJson
  case services => exact hasDistinctNames_list fun service _ => service.hasDistinctNames_toJson

def HasNoNullShape (document : Document) : Prop :=
  ∀ declaration ∈ document.types, ∀ shape ∈ declaration.shape, shape.value ≠ .null

theorem ofJson_toJson {document : Document} (notNull : document.HasNoNullShape) :
    ofJson document.toJson = .ok document := by
  have alike := isSteady_read .inPlace document.toJson document.hasDistinctNames_toJson
  exact (alike.eq_ok_iff document).mp (read_ofValue notNull)

end Document

/-- References of any depth, and documents without `null` shapes, are decoded from the values that
are written for them; so different ones are written as different values, in whatever order members
stand. -/
theorem decoding_inverts_encoding :
    (∀ reference : TypeReference, TypeReference.ofJson reference.toJson = .ok reference) ∧
      (∀ document : Document, document.HasNoNullShape →
        Document.ofJson document.toJson = .ok document) ∧
      ∀ first second : Document, first.HasNoNullShape → second.HasNoNullShape → first ≠ second →
        first.toJson.canonical ≠ second.toJson.canonical := by
  refine ⟨TypeReference.ofJson_toJson, fun _ => Document.ofJson_toJson, ?_⟩
  intro first second notNull alsoNotNull different same
  have decoded : Document.ofJson first.toJson = Document.ofJson second.toJson := by
    rw [Document.ofJson, Document.ofJson, same]
  rw [Document.ofJson_toJson notNull, Document.ofJson_toJson alsoNotNull] at decoded
  exact different (Except.ok.inj decoded)

/-- References of every form inside each other, and members that are left out. -/
def Document.wrapped (payload : TypeReference) : Document where
  apiName := "wrapped"
  types := [⟨⟨["v1"], "A"⟩, [⟨[], "B"⟩], ["web"],
    some (Json.toCanonical (.object [("kind", .list [.null]), ("b", .natural 0)])), none⟩]
  errors := [⟨⟨[], "E"⟩, some payload, some 65535⟩]
  services := [⟨⟨["v1"]⟩, [],
    [⟨"read", .delete, "/", none, some (.map (.set payload) (.literal (.boolean false))),
      [⟨⟨[], "E"⟩, some "absent"⟩], []⟩]⟩]

theorem decoding_inverts_encoding_wrapped :
    let payload : TypeReference := .list (.optional (.named ⟨[], "A"⟩))
    let swapped : TypeReference := .optional (.list (.named ⟨[], "A"⟩))
    TypeReference.ofJson payload.toJson = .ok payload ∧
      Document.ofJson (Document.wrapped payload).toJson = .ok (.wrapped payload) ∧
        (Document.wrapped payload).toJson.canonical ≠
          (Document.wrapped swapped).toJson.canonical := by
  intro payload swapped
  have notNull (reference : TypeReference) : (Document.wrapped reference).HasNoNullShape := by
    intro declaration declares shape holds
    cases List.mem_singleton.mp declares
    cases holds
    exact nofun
  have different : Document.wrapped payload ≠ Document.wrapped swapped := by decide
  obtain ⟨references, documents, apart⟩ := decoding_inverts_encoding
  exact ⟨references payload, documents _ (notNull payload),
    apart _ _ (notNull payload) (notNull swapped) different⟩

end AudienceScope
