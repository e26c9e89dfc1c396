import AudienceScope.Document.Decode
import AudienceScope.Document.Encode
import AudienceScope.Proofs.Records
import Mathlib.Data.List.Induction

/-!
Decoding undoes encoding. What is written for a name, a reference or a declaration is read back as
it, wherever the tree comes from. Main statements: `TypeReference.read_ofValue` and
`Document.read_ofValue`.
-/

set_option autoImplicit false

namespace AudienceScope

namespace Json

theorem lookup_ofMembers (members : List (String × Json)) (name : String) :
    (Tree.ofMembers members).lookup (.name name) = (members.lookup name).map Tree.ofValue := by
  induction members with
  | nil => rfl
  | cons member rest ih =>
      obtain ⟨found, value⟩ := member
      have sameTest : (Key.name name == Key.name found) = (name == found) := by
        rw [Bool.eq_iff_iff, beq_iff_eq, beq_iff_eq, Key.name.injEq]
      rw [Tree.ofMembers, List.lookup_cons, List.lookup_cons, sameTest, ih]
      cases name == found <;> rfl

theorem keys_ofMembers (members : List (String × Json)) :
    (Tree.ofMembers members).map Prod.fst = (members.map Prod.fst).map Key.name := by
  induction members with
  | nil => rfl
  | cons member rest ih =>
      obtain ⟨name, value⟩ := member
      rw [Tree.ofMembers, List.map_cons, List.map_cons, List.map_cons, ih]

theorem admits_ofMembers (names : List String) {members : List (String × Json)}
    (distinct : (members.map Prod.fst).Nodup) :
    Record.Admits names (Tree.ofMembers members) := by
  induction members with
  | nil => trivial
  | cons member rest ih =>
      obtain ⟨name, value⟩ := member
      obtain ⟨once, distinctRest⟩ := List.nodup_cons.mp distinct
      refine ⟨?_, ih distinctRest⟩
      split
      · rw [keys_ofMembers, List.mem_map]
        rintro ⟨other, present, same⟩
        exact once (Key.name.inj same ▸ present)
      · exact Tree.passed?_ofValue value

theorem ofItems_eq_map (items : List Json) : Tree.ofItems items = items.map Tree.ofValue := by
  induction items with
  | nil => rfl
  | cons item rest ih => rw [Tree.ofItems, List.map_cons, ih]

section Members

variable {α : Type} {read : Reading α} {origin : Origin}

theorem readList_ofValue {write : α → Json} {values : List α}
    (back : ∀ value ∈ values, read origin (Tree.ofValue (write value)) = .ok value) :
    readList read origin (Tree.ofValue (.list (values.map write))) = .ok values := by
  have items : readItems (read origin) .closed (Tree.ofItems (values.map write)) = .ok values := by
    refine readItems_eq_ok_iff.mpr ⟨rfl, ?_⟩
    rw [ofItems_eq_map, List.map_map, List.forall₂_map_left_iff, List.forall₂_same]
    exact back
  exact unlessDeep_eq_ok_iff.mpr ⟨rfl, items⟩

theorem readTexts_ofValue (values : List String) :
    readList readText origin (Tree.ofValue (texts values)) = .ok values :=
  readList_ofValue fun _ _ => rfl

theorem readOption_ofValue {value : α} {written : Json} (notNull : written ≠ .null)
    (back : read origin (Tree.ofValue written) = .ok value) :
    readOption read origin (Tree.ofValue written) = .ok (some value) := by
  have found : (read origin (Tree.ofValue written)).map some = .ok (some value) :=
    map_eq_ok_iff.mpr ⟨value, back, rfl⟩
  cases written with
  | null => exact absurd rfl notNull
  | _ => exact found

theorem takes_written {name : String} {omitted : Option α} {members : List (String × Json)}
    {written : Json} {value : α} (behind : members.lookup name = some written)
    (back : read origin (Tree.ofValue written) = .ok value) :
    Member.Takes ⟨name, read, omitted⟩ origin none ((Tree.ofMembers members).lookup (.name name))
      value := by
  rw [lookup_ofMembers, behind]
  exact ⟨rfl, back⟩

theorem takes_optional {name : String} {members : List (String × Json)} (write : α → Json)
    {value? : Option α} (behind : members.lookup name = value?.map write)
    (back : ∀ value ∈ value?, write value ≠ .null ∧
      read origin (Tree.ofValue (write value)) = .ok value) :
    Member.Takes ⟨name, readOption read, some none⟩ origin none
      ((Tree.ofMembers members).lookup (.name name)) value? := by
  rw [lookup_ofMembers, behind]
  cases value? with
  | none => rfl
  | some value =>
      obtain ⟨notNull, found⟩ := back value rfl
      exact ⟨rfl, readOption_ofValue notNull found⟩

@[simp]
theorem lookup_optionalMember (name : String) (value? : Option Json) :
    (optionalMember name value?).lookup name = value? := by
  cases value? with
  | none => rfl
  | some value => exact List.lookup_cons_self

@[simp]
theorem lookup_optionalMember_of_ne {name other : String} (value? : Option Json)
    (different : (name == other) = false) : (optionalMember other value?).lookup name = none := by
  cases value? with
  | none => rfl
  | some value => rw [optionalMember, List.lookup_cons, different, List.lookup_nil]

end Members

theorem Record.read_ofValue {α : Type} {phrase : String} {origin : Origin} {record : Record α}
    {members : List (String × Json)} {values : α} (known : record.names.Nodup)
    (distinct : (members.map Prod.fst).Nodup)
    (reads : record.ReadsAs origin (Tree.ofMembers members) values) :
    record.read phrase origin (Tree.ofValue (.object members)) = .ok values :=
  unlessDeep_eq_ok_iff.mpr ⟨rfl,
    (ofMembers_eq_ok_iff known).mpr ⟨rfl, admits_ofMembers _ distinct, reads⟩⟩

theorem splitMembers_ofMembers {α : Type} {choices : Choices α} {origin : Origin} {tag : α}
    {members : List (String × Json)} (untagged : tagName ∉ members.map Prod.fst) :
    splitMembers choices origin .closed (Tree.ofMembers members) (some tag) =
      .ok (tag, Tree.ofMembers members) := by
  induction members with
  | nil => rfl
  | cons member rest ih =>
      obtain ⟨name, value⟩ := member
      have different : name ≠ tagName := by
        rintro rfl
        exact untagged List.mem_cons_self
      have others := ih fun present => untagged (List.mem_cons_of_mem _ present)
      rw [Tree.ofMembers, splitMembers, if_neg different, Tree.fault?_ofValue, others]
      · rfl

theorem splitTag_ofValue {α : Type} {phrase tag : String} {choices : Choices α} {origin : Origin}
    {members : List (String × Json)} {picked : α} (listed : choices.pick tag = .ok picked)
    (untagged : tagName ∉ members.map Prod.fst) :
    splitTag phrase choices origin (Tree.ofValue (tagged tag members)) =
      .ok (picked, .members (Tree.ofMembers members)) := by
  have split : splitMembers choices origin .closed
      ((.name tagName, .text tag) :: Tree.ofMembers members) none =
        .ok (picked, Tree.ofMembers members) := by
    rw [splitMembers, if_pos rfl, readTag, listed]
    exact splitMembers_ofMembers untagged
  exact unlessDeep_eq_ok_iff.mpr ⟨rfl, map_eq_ok_iff.mpr ⟨_, split, rfl⟩⟩

theorem splitTag_single {α : Type} {phrase tag name : String} {choices : Choices α}
    {origin : Origin} {written : Json} {picked : α} (listed : choices.pick tag = .ok picked)
    (different : tagName ≠ name) :
    splitTag phrase choices origin (Tree.ofValue (tagged tag [(name, written)])) =
      .ok (picked, .members (Tree.ofMembers [(name, written)])) :=
  splitTag_ofValue listed fun present => different (List.mem_singleton.mp present)

theorem Body.readRecord_ofMembers {α : Type} {phrase : String} {record : Record α}
    {members : List (String × Json)} {values : α} (known : record.names.Nodup)
    (distinct : (members.map Prod.fst).Nodup)
    (reads : record.ReadsAs .aside (Tree.ofMembers members) values) :
    Body.readRecord phrase record (.members (Tree.ofMembers members)) = .ok values :=
  (Record.ofMembers_eq_ok_iff known).mpr ⟨rfl, admits_ofMembers _ distinct, reads⟩

theorem Body.readRecord_single {α : Type} {phrase name : String} {read : Reading α}
    {written : Json} {value : α} (back : read .aside (Tree.ofValue written) = .ok value) :
    Body.readRecord phrase (.required name read .nil)
        (.members (Tree.ofMembers [(name, written)])) = .ok (value, ()) := by
  refine readRecord_ofMembers (List.nodup_singleton name) (List.nodup_singleton name) ⟨?_, trivial⟩
  rw [lookup_ofMembers, List.lookup_cons_self]
  exact ⟨rfl, back⟩

end Json

open Json (Origin Tree Body Record bind_eq_ok_iff splitTag_ofValue splitTag_single)

namespace QualifiedName

theorem readsAs_members (origin : Origin) (name : QualifiedName) :
    record.ReadsAs origin (Tree.ofMembers name.members) (name.path, name.name, ()) :=
  ⟨⟨rfl, Json.readTexts_ofValue name.path⟩, ⟨rfl, rfl⟩, trivial⟩

theorem nodup_members (name : QualifiedName) : (name.members.map Prod.fst).Nodup := by
  have names : ["path", "name"].Nodup := by decide
  exact names

theorem read_ofValue (phrase : String) (origin : Origin) (name : QualifiedName) :
    read phrase origin (Tree.ofValue name.toJson) = .ok name := by
  have values : record.read phrase origin (Tree.ofValue name.toJson) =
      .ok (name.path, name.name, ()) :=
    Record.read_ofValue (by decide) name.nodup_members (name.readsAs_members origin)
  rw [read, values]
  rfl

end QualifiedName

theorem ServiceName.read_ofValue (origin : Origin) (service : ServiceName) :
    read origin (Tree.ofValue service.toJson) = .ok service := by
  have values : record.read "struct DeclaredServiceName" origin (Tree.ofValue service.toJson) =
      .ok (service.path, ()) :=
    Record.read_ofValue (by decide) (List.nodup_singleton "path")
      ⟨⟨rfl, Json.readTexts_ofValue service.path⟩, trivial⟩
  rw [read, values]
  rfl

/-! ### References -/

theorem Literal.read_ofValue (origin : Origin) (value : Literal) :
    read origin (Tree.ofValue value.toJson) = .ok value := by
  cases value with
  | string text =>
      refine bind_eq_ok_iff.mpr ⟨_, splitTag_single rfl (by decide), ?_⟩
      exact bind_eq_ok_iff.mpr ⟨(text, ()), Body.readRecord_single rfl, rfl⟩
  | boolean value =>
      refine bind_eq_ok_iff.mpr ⟨_, splitTag_single rfl (by decide), ?_⟩
      exact bind_eq_ok_iff.mpr ⟨(value, ()), Body.readRecord_single rfl, rfl⟩

theorem Primitive.pick_text (kind : Primitive) : choices.pick kind.text = .ok kind := by
  cases kind <;> rfl

theorem HttpMethod.pick_text (method : HttpMethod) : choices.pick method.text = .ok method := by
  cases method <;> rfl

namespace TypeReference

theorem readWithin_container {fuel : Nat} {origin : Origin} {tag : String}
    {members : List (String × Json)} {reference : TypeReference}
    (inner : readContainer (readWithin fuel) .aside (Tree.ofValue (Json.tagged tag members)) =
      .ok reference) :
    readWithin (fuel + 1) origin (Tree.ofValue (container tag members)) = .ok reference := by
  refine bind_eq_ok_iff.mpr ⟨_, splitTag_single rfl (by decide), ?_⟩
  exact bind_eq_ok_iff.mpr ⟨(reference, ()), Body.readRecord_single inner, rfl⟩

theorem readContainer_item {readInner : Json.Reading TypeReference} {origin : Origin}
    {item : TypeReference} {tag : String} {wrap : TypeReference → TypeReference}
    (kind : (tag, wrap) ∈ [("list", list), ("optional", optional), ("set", set)])
    (back : readInner .aside (Tree.ofValue item.toJson) = .ok item) :
    readContainer readInner origin (Tree.ofValue (Json.tagged tag [(tag, item.toJson)])) =
      .ok (wrap item) := by
  simp only [List.mem_cons, List.not_mem_nil, or_false, Prod.mk.injEq] at kind
  rcases kind with ⟨rfl, rfl⟩ | ⟨rfl, rfl⟩ | ⟨rfl, rfl⟩
  all_goals
    refine bind_eq_ok_iff.mpr ⟨_, splitTag_single rfl (by decide), ?_⟩
    exact bind_eq_ok_iff.mpr ⟨(item, ()), Body.readRecord_single back, rfl⟩

theorem readContainer_map {readInner : Json.Reading TypeReference} {origin : Origin}
    {key value : TypeReference} (keyBack : readInner .aside (Tree.ofValue key.toJson) = .ok key)
    (valueBack : readInner .aside (Tree.ofValue value.toJson) = .ok value) :
    readContainer readInner origin (Tree.ofValue
        (Json.tagged "map" [("keyType", key.toJson), ("valueType", value.toJson)])) =
      .ok (map key value) := by
  have untagged : Json.tagName ∉ ["keyType", "valueType"] := by decide
  have distinct : ["keyType", "valueType"].Nodup := by decide
  refine bind_eq_ok_iff.mpr ⟨_, splitTag_ofValue rfl untagged, ?_⟩
  refine bind_eq_ok_iff.mpr ⟨(key, value, ()), ?_, rfl⟩
  exact Body.readRecord_ofMembers distinct distinct
    ⟨⟨rfl, keyBack⟩, ⟨rfl, valueBack⟩, trivial⟩

theorem readContainer_literal {readInner : Json.Reading TypeReference} {origin : Origin}
    (value : Literal) :
    readContainer readInner origin
        (Tree.ofValue (Json.tagged "literal" [("literal", value.toJson)])) =
      .ok (literal value) := by
  refine bind_eq_ok_iff.mpr ⟨_, splitTag_single rfl (by decide), ?_⟩
  have back := value.read_ofValue .aside
  exact bind_eq_ok_iff.mpr ⟨(value, ()), Body.readRecord_single back, rfl⟩

theorem depth_container (tag : String) (members : List (String × Json)) :
    (Tree.ofValue (container tag members)).depth =
      Tree.membersDepth (Tree.ofMembers members) + 2 := by
  simp [container, Json.tagged, Tree.ofValue, Tree.ofMembers, Tree.depth, Tree.membersDepth]

theorem fuel_of_container {tag name : String} {item : TypeReference} {fuel : Nat}
    (enough : (Tree.ofValue (container tag [(name, item.toJson)])).depth ≤ fuel) :
    ∃ fewer, fuel = fewer + 1 ∧ (Tree.ofValue item.toJson).depth ≤ fewer := by
  rw [depth_container, Tree.ofMembers, Tree.membersDepth] at enough
  exact ⟨fuel - 1, by omega, by omega⟩

theorem readWithin_ofValue (reference : TypeReference) (fuel : Nat) (origin : Origin)
    (enough : (Tree.ofValue reference.toJson).depth ≤ fuel) :
    readWithin (fuel + 1) origin (Tree.ofValue reference.toJson) = .ok reference := by
  induction reference generalizing fuel origin with
  | named name =>
      have untagged : Json.tagName ∉ ["path", "name"] := by decide
      refine bind_eq_ok_iff.mpr ⟨_, splitTag_ofValue rfl untagged, ?_⟩
      exact bind_eq_ok_iff.mpr ⟨(name.path, name.name, ()), Body.readRecord_ofMembers
        (by decide) name.nodup_members (name.readsAs_members .aside), rfl⟩
  | primitive kind =>
      refine bind_eq_ok_iff.mpr ⟨_, splitTag_single rfl (by decide), ?_⟩
      exact bind_eq_ok_iff.mpr ⟨(kind, ()), Body.readRecord_single kind.pick_text, rfl⟩
  | unknown => exact bind_eq_ok_iff.mpr ⟨_, splitTag_ofValue rfl List.not_mem_nil, rfl⟩
  | void => exact bind_eq_ok_iff.mpr ⟨_, splitTag_ofValue rfl List.not_mem_nil, rfl⟩
  | list item ih | optional item ih | set item ih =>
      obtain ⟨fuel, rfl, shallow⟩ := fuel_of_container enough
      exact readWithin_container (readContainer_item (by simp) (ih fuel .aside shallow))
  | map key value ihKey ihValue =>
      rw [toJson, depth_container, Tree.ofMembers, Tree.membersDepth, Tree.ofMembers,
        Tree.membersDepth] at enough
      obtain ⟨fuel, rfl⟩ : ∃ fewer, fuel = fewer + 1 := ⟨fuel - 1, by omega⟩
      have keyBack := ihKey fuel .aside (by omega)
      have valueBack := ihValue fuel .aside (by omega)
      exact readWithin_container (readContainer_map keyBack valueBack)
  | literal value => exact readWithin_container (readContainer_literal value)

theorem read_ofValue (origin : Origin) (reference : TypeReference) :
    read origin (Tree.ofValue reference.toJson) = .ok reference :=
  reference.readWithin_ofValue _ origin (Nat.le_refl _)

end TypeReference

theorem OrderedMap.place_of_forall_lt {κ ν : Type} [LT κ] [DecidableLT κ] [StrictOrder κ] {key : κ}
    {value : ν} {entries : List (κ × ν)} (after : ∀ entry ∈ entries, entry.1 < key) :
    place key value entries = entries ++ [(key, value)] := by
  induction entries with
  | nil => rfl
  | cons head tail ih =>
      obtain ⟨headBefore, tailBefore⟩ := List.forall_mem_cons.mp after
      obtain ⟨found, old⟩ := head
      rw [place, if_neg (StrictOrder.asymm headBefore), if_pos headBefore, ih tailBefore,
        List.cons_append]

theorem OrderedMap.entries_ofList {κ ν : Type} [LT κ] [DecidableLT κ] [StrictOrder κ]
    {entries : List (κ × ν)} (ascending : entries.Pairwise fun first second => first.1 < second.1) :
    (ofList entries).entries = entries := by
  induction entries using List.reverseRecOn with
  | nil => rfl
  | append_singleton entries entry ih =>
      obtain ⟨before, _, after⟩ := List.pairwise_append.mp ascending
      have last : ∀ other ∈ entries, other.1 < entry.1 := fun other present =>
        after other present entry (List.mem_singleton_self entry)
      rw [ofList_concat]
      calc
        place entry.1 entry.2 (ofList entries).entries = place entry.1 entry.2 entries :=
          congrArg (place entry.1 entry.2) (ih before)
        _ = entries ++ [entry] := place_of_forall_lt last

namespace Json

mutual

theorem canonical_of_isCanonical : (value : Json) → value.isCanonical = true →
    value.canonical = value
  | .null, _ => rfl
  | .boolean _, _ => rfl
  | .number _, _ => rfl
  | .text _, _ => rfl
  | .list items, inOrder => by
      rw [canonical, canonicalItems_of_isCanonical items inOrder]
  | .object members, inOrder => by
      obtain ⟨ascending, inner⟩ := Bool.and_eq_true_iff.mp inOrder
      rw [canonical, canonicalMembers_of_isCanonical members inner,
        OrderedMap.entries_ofList (of_decide_eq_true ascending)]

theorem canonicalItems_of_isCanonical : (items : List Json) → isCanonicalItems items = true →
    canonicalItems items = items
  | [], _ => rfl
  | item :: rest, inOrder => by
      obtain ⟨first, others⟩ := Bool.and_eq_true_iff.mp inOrder
      rw [canonicalItems, canonical_of_isCanonical item first,
        canonicalItems_of_isCanonical rest others]

theorem canonicalMembers_of_isCanonical : (members : List (String × Json)) →
    isCanonicalMembers members = true → canonicalMembers members = members
  | [], _ => rfl
  | (name, value) :: rest, inOrder => by
      obtain ⟨first, others⟩ := Bool.and_eq_true_iff.mp inOrder
      rw [canonicalMembers, canonical_of_isCanonical value first,
        canonicalMembers_of_isCanonical rest others]

end

theorem readAny_ofValue (origin : Origin) (value : Json) :
    readAny origin (Tree.ofValue value) = .ok value := by
  unfold readAny
  rw [Tree.toValue_ofValue]

end Json

theorem CanonicalJson.toCanonical_value (shape : CanonicalJson) :
    shape.value.toCanonical = shape := by
  obtain ⟨value, inOrder⟩ := shape
  unfold Json.toCanonical
  congr
  exact Json.canonical_of_isCanonical value inOrder

/-! ### Declarations -/

open Json (takes_written takes_optional optionalMember)

theorem TypeReference.toJson_ne_null (reference : TypeReference) : reference.toJson ≠ .null := by
  cases reference <;> exact nofun

theorem Json.readNatural_ofValue {origin : Origin} {bound value : Nat} {phrase : String}
    (small : value < bound) :
    Json.readNatural bound phrase origin (Tree.ofValue (Json.natural value)) = .ok value := by
  have within : (0 : Int) ≤ value ∧ (value : Int) < bound := by omega
  exact if_pos within

theorem TypeReference.takes_toJson {origin : Origin} {name : String}
    {members : List (String × Json)} {reference? : Option TypeReference}
    (behind : members.lookup name = reference?.map toJson) :
    Json.Member.Takes ⟨name, Json.readOption read, some none⟩ origin none
      ((Tree.ofMembers members).lookup (.name name)) reference? :=
  takes_optional toJson behind fun reference _ =>
    ⟨reference.toJson_ne_null, reference.read_ofValue origin⟩

theorem Json.takes_text {origin : Origin} {name : String} {members : List (String × Json)}
    {text? : Option String} (behind : members.lookup name = text?.map .text) :
    Json.Member.Takes ⟨name, Json.readOption Json.readText, some none⟩ origin none
      ((Tree.ofMembers members).lookup (.name name)) text? :=
  takes_optional Json.text behind fun _ _ => ⟨nofun, rfl⟩

theorem ErrorDeclaration.read_ofValue (origin : Origin) (declaration : ErrorDeclaration) :
    read origin (Tree.ofValue declaration.toJson) = .ok declaration := by
  obtain ⟨name, payload, statusCode⟩ := declaration
  have values : record.read "struct ErrorDeclaration" origin (Tree.ofValue
      (toJson ⟨name, payload, statusCode⟩)) =
        .ok (name, payload, statusCode.map UInt16.toNat, ()) := by
    refine Record.read_ofValue (by decide) ?_ ⟨?_, ?_, ?_, trivial⟩
    · cases payload <;> cases statusCode <;> simp [optionalMember]
    · exact takes_written rfl (name.read_ofValue _ origin)
    · exact TypeReference.takes_toJson (by simp [List.lookup_append, List.lookup_cons])
    · refine takes_optional Json.natural
        (by simp [List.lookup_append, List.lookup_cons, Function.comp_def]) fun value present => ?_
      obtain ⟨code, _, rfl⟩ := Option.map_eq_some_iff.mp present
      exact ⟨nofun, Json.readNatural_ofValue code.toNat_lt⟩
  have sameCode : (statusCode.map UInt16.toNat).map UInt16.ofNat = statusCode := by
    cases statusCode <;> simp
  rw [read, values]
  exact congrArg (fun code => Except.ok (ErrorDeclaration.mk name payload code)) sameCode

theorem TypeDeclaration.read_ofValue {origin : Origin} {declaration : TypeDeclaration}
    (notNull : ∀ shape ∈ declaration.shape, shape.value ≠ .null) :
    read origin (Tree.ofValue declaration.toJson) = .ok declaration := by
  obtain ⟨name, descendants, audiences, shape, docs⟩ := declaration
  have values : record.read "struct TypeDeclaration" origin (Tree.ofValue
      (toJson ⟨name, descendants, audiences, shape, docs⟩)) =
        .ok (name, descendants, audiences, shape.map CanonicalJson.value, docs, ()) := by
    refine Record.read_ofValue (by decide) ?_ ⟨?_, ?_, ?_, ?_, ?_, trivial⟩
    · cases shape <;> cases docs <;> simp [optionalMember]
    · exact takes_written rfl (name.read_ofValue _ origin)
    · exact takes_written rfl
        (Json.readList_ofValue fun descendant _ => descendant.read_ofValue _ origin)
    · exact takes_written rfl (Json.readTexts_ofValue audiences)
    · refine takes_optional id (by simp [List.lookup_append, List.lookup_cons])
        fun value present => ?_
      obtain ⟨canonical, holds, rfl⟩ := Option.map_eq_some_iff.mp present
      exact ⟨notNull canonical holds, Json.readAny_ofValue origin canonical.value⟩
    · exact Json.takes_text (by simp [List.lookup_append, List.lookup_cons])
  have sameShape : (shape.map CanonicalJson.value).map Json.toCanonical = shape := by
    cases shape <;> simp [CanonicalJson.toCanonical_value]
  rw [read, values]
  exact congrArg
    (fun shape => Except.ok (TypeDeclaration.mk name descendants audiences shape docs)) sameShape

theorem ResponseError.read_ofValue (origin : Origin) (response : ResponseError) :
    read origin (Tree.ofValue response.toJson) = .ok response := by
  obtain ⟨error, docs⟩ := response
  have values : record.read "struct ResponseError" origin (Tree.ofValue (toJson ⟨error, docs⟩)) =
      .ok (error, docs, ()) := by
    refine Record.read_ofValue (by decide) ?_ ⟨?_, ?_, trivial⟩
    · cases docs <;> simp [optionalMember]
    · exact takes_written rfl (error.read_ofValue _ origin)
    · exact Json.takes_text (by simp [List.lookup_cons])
  rw [read, values]
  rfl

theorem Endpoint.read_ofValue (origin : Origin) (endpoint : Endpoint) :
    read origin (Tree.ofValue endpoint.toJson) = .ok endpoint := by
  obtain ⟨name, method, path, request, response, errors, audiences⟩ := endpoint
  have values : record.read "struct HttpEndpoint" origin (Tree.ofValue
      (toJson ⟨name, method, path, request, response, errors, audiences⟩)) =
        .ok (name, method, path, request, response, errors, audiences, ()) := by
    refine Record.read_ofValue (by decide) ?_ ⟨?_, ?_, ?_, ?_, ?_, ?_, ?_, trivial⟩
    · cases request <;> cases response <;> simp [optionalMember]
    · exact takes_written rfl rfl
    · exact takes_written rfl method.pick_text
    · exact takes_written rfl rfl
    · exact TypeReference.takes_toJson (by simp [List.lookup_append, List.lookup_cons])
    · exact TypeReference.takes_toJson (by simp [List.lookup_append, List.lookup_cons])
    · exact takes_written (by simp [List.lookup_append, List.lookup_cons])
        (Json.readList_ofValue fun response _ => response.read_ofValue origin)
    · exact takes_written (by simp [List.lookup_append, List.lookup_cons])
        (Json.readTexts_ofValue audiences)
  rw [read, values]
  rfl

theorem Service.read_ofValue (origin : Origin) (service : Service) :
    read origin (Tree.ofValue service.toJson) = .ok service := by
  obtain ⟨name, audiences, endpoints⟩ := service
  have values : record.read "struct HttpService" origin (Tree.ofValue
      (toJson ⟨name, audiences, endpoints⟩)) = .ok (name, audiences, endpoints, ()) := by
    have distinct : ["name", "audiences", "endpoints"].Nodup := by decide
    refine Record.read_ofValue (by decide) distinct ⟨?_, ?_, ?_, trivial⟩
    · exact takes_written rfl (name.read_ofValue origin)
    · exact takes_written rfl (Json.readTexts_ofValue audiences)
    · exact takes_written rfl
        (Json.readList_ofValue fun endpoint _ => endpoint.read_ofValue origin)
  rw [read, values]
  rfl

/-- A written document is read back, but for a shape that is `null`, which is as good as none. -/
theorem Document.read_ofValue {origin : Origin} {document : Document}
    (notNull : ∀ declaration ∈ document.types, ∀ shape ∈ declaration.shape,
      shape.value ≠ .null) :
    read origin (Tree.ofValue document.toJson) = .ok document := by
  obtain ⟨apiName, types, errors, services⟩ := document
  have values : record.read "struct IntermediateRepresentation" origin (Tree.ofValue
      (toJson ⟨apiName, types, errors, services⟩)) =
        .ok (apiName, types, errors, services, ()) := by
    have distinct : ["apiName", "types", "errors", "services"].Nodup := by decide
    refine Record.read_ofValue (by decide) distinct ⟨?_, ?_, ?_, ?_, trivial⟩
    · exact takes_written rfl rfl
    · exact takes_written rfl (Json.readList_ofValue fun declaration declares =>
        declaration.read_ofValue (notNull declaration declares))
    · exact takes_written rfl
        (Json.readList_ofValue fun declaration _ => declaration.read_ofValue origin)
    · exact takes_written rfl
        (Json.readList_ofValue fun service _ => service.read_ofValue origin)
  rw [read, values]
  rfl

end AudienceScope
