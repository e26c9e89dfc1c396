import AudienceScope.Document.Decode
import AudienceScope.Proofs.Sorting
import Mathlib.Logic.Relation

/-!
Edits of a document that do not change which known members it has, or what stands behind them: the
members of objects are put in another order, unknown members are put in, and members that may be
left out are written out. Which members are known at a place depends on its form and, in a tagged
value, on its tag. Edits keep trees free of faults: what is written out never lies too deep, since
references stand at odd levels within an odd limit. Main statements: `Edit.fault?_iff`,
`Edit.passed?_iff` and `Edit.canonical_eq`.
-/

set_option autoImplicit false

namespace AudienceScope

open Json (Tree Key Choices ObjectEnd ListEnd nestingLimit tagName)

/-- Whether a member may be left out, and what it is as good as then. -/
inductive Presence where
  | required
  | defaulted
  | optional
deriving DecidableEq

/-- What may stand at a place of a document, as far as known members are concerned. -/
inductive Form where
  | passedOver
  | shape
  | plain
  | list (item : Form)
  | qualifiedName
  | serviceName
  | literal
  | container
  | reference
  | typeDeclaration
  | errorDeclaration
  | responseError
  | endpoint
  | service
  | document
deriving DecidableEq

structure Field where
  name : String
  presence : Presence
  form : Form
deriving DecidableEq

def Presence.filler? (deep : Bool) : Presence → Option Tree
  | required => none
  | defaulted => some (.list deep [] .closed)
  | optional => some .null

namespace Form

def tagField : Field := ⟨tagName, .required, .plain⟩

def nameFields : List Field := [⟨"path", .defaulted, .list .plain⟩, ⟨"name", .required, .plain⟩]

def literalFields : Literal.Tag → List Field
  | .string => [⟨"string", .required, .plain⟩]
  | .boolean => [⟨"boolean", .required, .plain⟩]

def containerFields : TypeReference.ContainerTag → List Field
  | .list => [⟨"list", .required, .reference⟩]
  | .map => [⟨"keyType", .required, .reference⟩, ⟨"valueType", .required, .reference⟩]
  | .optional => [⟨"optional", .required, .reference⟩]
  | .set => [⟨"set", .required, .reference⟩]
  | .literal => [⟨"literal", .required, .literal⟩]

def referenceFields : TypeReference.Tag → List Field
  | .container => [⟨"container", .required, .container⟩]
  | .named => nameFields
  | .primitive => [⟨"primitive", .required, .plain⟩]
  | .unknown => []
  | .void => []

/-- The members that a tag asks for, and the tag itself. Without a tag that can be read nothing is
known. -/
def tagged {α : Type} (choices : Choices α) (fields : α → List Field) (tag? : Option Tree) :
    Option (List Field) :=
  tag?.bind fun tag =>
    (Json.readTag choices .aside tag).toOption.map fun picked => tagField :: fields picked

/-- The members that are known at a place, in the order in which a list gives them. -/
def known? : Form → Option Tree → Option (List Field)
  | passedOver, _ | shape, _ | plain, _ | list _, _ => none
  | qualifiedName, _ => some nameFields
  | serviceName, _ => some [⟨"path", .required, .list .plain⟩]
  | literal, tag? => tagged Literal.choices literalFields tag?
  | container, tag? => tagged TypeReference.containerChoices containerFields tag?
  | reference, tag? => tagged TypeReference.choices referenceFields tag?
  | typeDeclaration, _ => some
      [⟨"name", .required, .qualifiedName⟩, ⟨"descendants", .defaulted, .list .qualifiedName⟩,
        ⟨"audiences", .defaulted, .list .plain⟩, ⟨"shape", .optional, .shape⟩,
        ⟨"docs", .optional, .plain⟩]
  | errorDeclaration, _ => some
      [⟨"name", .required, .qualifiedName⟩, ⟨"type", .optional, .reference⟩,
        ⟨"statusCode", .optional, .plain⟩]
  | responseError, _ => some
      [⟨"error", .required, .qualifiedName⟩, ⟨"docs", .optional, .plain⟩]
  | endpoint, _ => some
      [⟨"name", .required, .plain⟩, ⟨"method", .required, .plain⟩, ⟨"path", .required, .plain⟩,
        ⟨"request", .optional, .reference⟩, ⟨"response", .optional, .reference⟩,
        ⟨"errors", .defaulted, .list .responseError⟩, ⟨"audiences", .defaulted, .list .plain⟩]
  | service, _ => some
      [⟨"name", .required, .serviceName⟩, ⟨"audiences", .defaulted, .list .plain⟩,
        ⟨"endpoints", .defaulted, .list .endpoint⟩]
  | document, _ => some
      [⟨"apiName", .required, .plain⟩, ⟨"types", .defaulted, .list .typeDeclaration⟩,
        ⟨"errors", .defaulted, .list .errorDeclaration⟩, ⟨"services", .defaulted, .list .service⟩]

def anyMember? : Form → Option Form
  | passedOver => some passedOver
  | shape => some shape
  | _ => none

def anyItem? : Form → Option Form
  | passedOver => some passedOver
  | shape => some shape
  | list item => some item
  | _ => none

/-- What may stand behind a name. An unknown member is passed over. -/
def behind? (form : Form) (tag? : Option Tree) (name : String) : Option Form :=
  match form.known? tag? with
  | some fields =>
    some (((fields.find? fun field => field.name = name).map Field.form).getD passedOver)
  | none => form.anyMember?

def placed? (form : Form) (tag? : Option Tree) (index : Nat) : Option Form :=
  match form.known? tag? with
  | some fields => fields[index]?.map Field.form
  | none => form.anyItem?

/-- How many lists and objects a place may lie in, which decides where a list that is written out
may come to lie. -/
def LiesAt : Form → (level : Nat) → Prop
  | document, level => level = 0
  | typeDeclaration, level | errorDeclaration, level | service, level => level = 2
  | endpoint, level => level = 4
  | responseError, level => level = 6
  | qualifiedName, level => level ≤ 7
  | reference, level => level % 2 = 1
  | container, level => level % 2 = 0
  | list item, level => item.LiesAt (level + 1)
  | _, _ => True

end Form

/-! ### Edits -/

def isDeep (level : Nat) : Bool := nestingLimit ≤ level

def tagOf (members : List (Key × Tree)) : Option Tree := members.lookup (.name tagName)

/-- A single edit at a place inside `level` lists and objects. A member that is put in stands in
front; reordering moves it. -/
inductive Edit : (level : Nat) → Form → Tree → Tree → Prop where
  /-- Inside a shape only members with different names may change places. -/
  | reorder {level : Nat} {form : Form} {deep : Bool} {members others : List (Key × Tree)}
      {ending : ObjectEnd} (perm : members.Perm others)
      (distinct : form = .shape → (members.map Prod.fst).Nodup) :
      Edit level form (.object deep members ending) (.object deep others ending)
  | insert {level : Nat} {form : Form} {deep : Bool} {members : List (Key × Tree)}
      {ending : ObjectEnd} {fields : List Field} {name : String} {value : Tree}
      (knows : form.known? (tagOf members) = some fields)
      (unknown : name ∉ fields.map Field.name) (faultless : value.fault? = none) :
      Edit level form (.object deep members ending)
        (.object deep ((.name name, value) :: members) ending)
  | writeOut {level : Nat} {form : Form} {members : List (Key × Tree)} {ending : ObjectEnd}
      {fields : List Field} {field : Field} {filler : Tree}
      (knows : form.known? (tagOf members) = some fields) (known : field ∈ fields)
      (omitted : Key.name field.name ∉ members.map Prod.fst)
      (fills : field.presence.filler? (isDeep (level + 1)) = some filler) :
      Edit level form (.object (isDeep level) members ending)
        (.object (isDeep level) ((.name field.name, filler) :: members) ending)
  /-- The member behind the last one that a list gives. -/
  | writeOutNext {level : Nat} {form : Form} {items : List Tree} {ending : ListEnd}
      {fields : List Field} {field : Field} {filler : Tree}
      (knows : form.known? items.head? = some fields) (next : fields[items.length]? = some field)
      (fills : field.presence.filler? (isDeep (level + 1)) = some filler) :
      Edit level form (.list (isDeep level) items ending)
        (.list (isDeep level) (items ++ [filler]) ending)
  | member {level : Nat} {form inner : Form} {deep : Bool} {before after : List (Key × Tree)}
      {ending : ObjectEnd} {name : String} {value other : Tree}
      (behind : form.behind? (tagOf (before ++ (.name name, value) :: after)) name = some inner)
      (edit : Edit (level + 1) inner value other) :
      Edit level form (.object deep (before ++ (.name name, value) :: after) ending)
        (.object deep (before ++ (.name name, other) :: after) ending)
  | item {level : Nat} {form inner : Form} {deep : Bool} {before after : List Tree}
      {ending : ListEnd} {value other : Tree}
      (placed : form.placed? (before ++ value :: after).head? before.length = some inner)
      (edit : Edit (level + 1) inner value other) :
      Edit level form (.list deep (before ++ value :: after) ending)
        (.list deep (before ++ other :: after) ending)

namespace Form

variable {form inner : Form} {level : Nat} {tag? : Option Tree} {fields : List Field}
  {field : Field} {name : String} {index : Nat}

theorem tagged_eq_some_iff {α : Type} {choices : Choices α} {parts : α → List Field} :
    tagged choices parts tag? = some fields ↔
      ∃ tag picked, tag? = some tag ∧ Json.readTag choices .aside tag = .ok picked ∧
        tagField :: parts picked = fields := by
  simp only [tagged, Option.bind_eq_some_iff, Option.map_eq_some_iff, Json.toOption_eq_some_iff,
    exists_and_left]

theorem exists_picked {α : Type} {choices : Choices α} {parts : α → List Field}
    (knows : tagged choices parts tag? = some fields) :
    ∃ picked, tagField :: parts picked = fields := by
  obtain ⟨_, picked, _, _, same⟩ := tagged_eq_some_iff.mp knows
  exact ⟨picked, same⟩

theorem nodup_known (knows : form.known? tag? = some fields) :
    (fields.map Field.name).Nodup := by
  cases form with
  | passedOver | shape | plain | list => cases knows
  | literal | container | reference =>
      obtain ⟨picked, rfl⟩ := exists_picked knows
      cases picked <;> decide
  | _ =>
      obtain rfl := Option.some.inj knows
      decide

theorem eq_of_name_eq {other : Field} (knows : form.known? tag? = some fields)
    (known : field ∈ fields) (alsoKnown : other ∈ fields) (same : field.name = other.name) :
    field = other :=
  List.inj_on_of_nodup_map (nodup_known knows) known alsoKnown same

theorem behind?_cases (knows : form.known? tag? = some fields)
    (behind : form.behind? tag? name = some inner) :
    (∃ field ∈ fields, field.name = name ∧ field.form = inner) ∨
      (name ∉ fields.map Field.name ∧ inner = passedOver) := by
  simp only [behind?, knows, Option.some.injEq] at behind
  cases found : fields.find? fun field => field.name = name with
  | some field =>
      rw [found] at behind
      have named := List.find?_some found
      exact .inl ⟨field, List.mem_of_find?_eq_some found, of_decide_eq_true named, behind⟩
  | none =>
      rw [found] at behind
      right
      refine ⟨?_, behind.symm⟩
      intro present
      obtain ⟨field, known, same⟩ := List.mem_map.mp present
      have differs := List.find?_eq_none.mp found field known
      exact differs (decide_eq_true same)

theorem placed?_eq (knows : form.known? tag? = some fields)
    (placed : form.placed? tag? index = some inner) :
    ∃ field, fields[index]? = some field ∧ field.form = inner := by
  simp only [placed?, knows] at placed
  exact Option.map_eq_some_iff.mp placed

namespace LiesAt

theorem known (lies : form.LiesAt level) (knows : form.known? tag? = some fields) :
    ∀ field ∈ fields, field.form.LiesAt (level + 1) := by
  cases form with
  | passedOver | shape | plain | list => cases knows
  | literal =>
      obtain ⟨picked, rfl⟩ := exists_picked knows
      cases picked <;> simp [tagField, literalFields, LiesAt]
  | container =>
      have odd : (level + 1) % 2 = 1 := by
        have even : level % 2 = 0 := lies
        omega
      obtain ⟨picked, rfl⟩ := exists_picked knows
      cases picked <;> simp [tagField, containerFields, LiesAt, odd]
  | reference =>
      have even : (level + 1) % 2 = 0 := by
        have odd : level % 2 = 1 := lies
        omega
      obtain ⟨picked, rfl⟩ := exists_picked knows
      cases picked <;> simp [tagField, referenceFields, nameFields, LiesAt, even]
  | _ =>
      obtain rfl := Option.some.inj knows
      simp only [LiesAt] at lies
      simp [nameFields, LiesAt, lies]

theorem behind (lies : form.LiesAt level) (behind : form.behind? tag? name = some inner) :
    inner.LiesAt (level + 1) := by
  cases knows : form.known? tag? with
  | some fields =>
      rcases behind?_cases knows behind with ⟨field, known, _, rfl⟩ | ⟨_, rfl⟩
      · exact lies.known knows field known
      · trivial
  | none =>
      simp only [behind?, knows] at behind
      cases form <;> cases behind <;> trivial

theorem placed (lies : form.LiesAt level) (placed : form.placed? tag? index = some inner) :
    inner.LiesAt (level + 1) := by
  cases knows : form.known? tag? with
  | some fields =>
      obtain ⟨field, found, rfl⟩ := placed?_eq knows placed
      exact lies.known knows field (List.mem_of_getElem? found)
  | none =>
      simp only [placed?, knows] at placed
      cases form with
      | list item =>
          cases placed
          exact lies
      | passedOver | shape =>
          cases placed
          trivial
      | _ => cases placed

/-- Members that may be left out stand in objects that lie at an odd level, or not deep at all. -/
theorem odd_or_shallow (lies : form.LiesAt level) (knows : form.known? tag? = some fields) :
    (level % 2 = 1 ∨ level ≤ 7) ∨ ∀ field ∈ fields, field.presence = .required := by
  cases form with
  | passedOver | shape | plain | list => cases knows
  | literal =>
      obtain ⟨picked, rfl⟩ := exists_picked knows
      cases picked <;> simp [tagField, literalFields]
  | container =>
      obtain ⟨picked, rfl⟩ := exists_picked knows
      cases picked <;> simp [tagField, containerFields]
  | reference => exact .inl (.inl lies)
  | serviceName =>
      obtain rfl := Option.some.inj knows
      simp
  | _ =>
      simp only [LiesAt] at lies
      exact .inl (.inr (by omega))

/-- A list that is written out lies too deep only if the object does to which it belongs. -/
theorem filler?_eq (lies : form.LiesAt level) (knows : form.known? tag? = some fields)
    (known : field ∈ fields) :
    field.presence.filler? (isDeep (level + 1)) = field.presence.filler? (isDeep level) := by
  have limit : nestingLimit = 127 := rfl
  rcases lies.odd_or_shallow knows with room | allRequired
  · have sameDeep : isDeep (level + 1) = isDeep level := by
      apply decide_eq_decide.mpr
      omega
    rw [sameDeep]
  · rw [allRequired field known]
    rfl

end LiesAt

end Form

/-! ### Faults -/

namespace Json.Tree

theorem itemsFault?_eq_none_iff {items : List Tree} :
    itemsFault? items = none ↔ ∀ item ∈ items, item.fault? = none := by
  induction items with
  | nil => simp [itemsFault?]
  | cons item rest ih => rw [itemsFault?, Option.or_eq_none_iff, ih, List.forall_mem_cons]

theorem membersFault?_eq_none_iff {members : List (Key × Tree)} :
    membersFault? members = none ↔
      ∀ member ∈ members, member.1.fault? = none ∧ member.2.fault? = none := by
  induction members with
  | nil => simp [membersFault?]
  | cons member rest ih =>
      rw [membersFault?, Option.or_eq_none_iff, Option.or_eq_none_iff, ih, List.forall_mem_cons,
        and_assoc]

theorem itemsPassed?_eq_none_iff {items : List Tree} :
    itemsPassed? items = none ↔ ∀ item ∈ items, item.passed? = none := by
  induction items with
  | nil => simp [itemsPassed?]
  | cons item rest ih => rw [itemsPassed?, Option.or_eq_none_iff, ih, List.forall_mem_cons]

theorem membersPassed?_eq_none_iff {members : List (Key × Tree)} :
    membersPassed? members = none ↔
      ∀ member ∈ members, member.1.passed? = none ∧ member.2.passed? = none := by
  induction members with
  | nil => simp [membersPassed?]
  | cons member rest ih =>
      rw [membersPassed?, Option.or_eq_none_iff, Option.or_eq_none_iff, ih, List.forall_mem_cons,
        and_assoc]

variable {deep : Bool}

theorem fault?_list_iff {items : List Tree} {ending : ListEnd} :
    (list deep items ending).fault? = none ↔
      deep = false ∧ ending = .closed ∧ ∀ item ∈ items, item.fault? = none := by
  cases deep with
  | true => simp [fault?]
  | false =>
      rw [fault?, Option.or_eq_none_iff, itemsFault?_eq_none_iff, ListEnd.fault?_eq_none_iff,
        and_comm]
      simp

theorem fault?_object_iff {members : List (Key × Tree)} {ending : ObjectEnd} :
    (object deep members ending).fault? = none ↔ deep = false ∧ ending = .closed ∧
      ∀ member ∈ members, member.1.fault? = none ∧ member.2.fault? = none := by
  cases deep with
  | true => simp [fault?]
  | false =>
      rw [fault?, Option.or_eq_none_iff, membersFault?_eq_none_iff, ObjectEnd.fault?_eq_none_iff,
        and_comm]
      simp

theorem passed?_list_iff {items : List Tree} {ending : ListEnd} :
    (list deep items ending).passed? = none ↔
      ending.passed? = none ∧ ∀ item ∈ items, item.passed? = none := by
  rw [passed?, Option.or_eq_none_iff, itemsPassed?_eq_none_iff, and_comm]

theorem passed?_object_iff {members : List (Key × Tree)} {ending : ObjectEnd} :
    (object deep members ending).passed? = none ↔ ending.passed? = none ∧
      ∀ member ∈ members, member.1.passed? = none ∧ member.2.passed? = none := by
  rw [passed?, Option.or_eq_none_iff, membersPassed?_eq_none_iff, and_comm]

theorem passed?_of_faultless {tree : Tree} (faultless : tree.fault? = none) :
    tree.passed? = none := by
  rw [← Json.ofValue_bareValue tree faultless]
  exact passed?_ofValue _

end Json.Tree

theorem Presence.fault?_filler {presence : Presence} {filler : Tree}
    (fills : presence.filler? false = some filler) : filler.fault? = none := by
  cases presence <;> cases fills <;> rfl

theorem Presence.passed?_filler {presence : Presence} {deep : Bool} {filler : Tree}
    (fills : presence.filler? deep = some filler) : filler.passed? = none := by
  cases presence <;> cases fills <;> rfl

namespace Edit

variable {level : Nat} {form : Form} {first second : Tree}

theorem fault?_iff (edit : Edit level form first second) (lies : form.LiesAt level) :
    first.fault? = none ↔ second.fault? = none := by
  induction edit with
  | reorder perm distinct => simp only [Tree.fault?_object_iff, perm.mem_iff]
  | insert knows unknown faultless =>
      simp [Tree.fault?_object_iff, faultless, Key.fault?]
  | writeOut knows known omitted fills =>
      rw [lies.filler?_eq knows known] at fills
      rw [Tree.fault?_object_iff, Tree.fault?_object_iff, List.forall_mem_cons]
      apply and_congr_right
      intro shallow
      rw [shallow] at fills
      simp [Key.fault?, Presence.fault?_filler fills]
  | writeOutNext knows next fills =>
      rw [lies.filler?_eq knows (List.mem_of_getElem? next)] at fills
      rw [Tree.fault?_list_iff, Tree.fault?_list_iff, List.forall_mem_append]
      apply and_congr_right
      intro shallow
      rw [shallow] at fills
      simp [Presence.fault?_filler fills]
  | member behind edit ih =>
      simp [Tree.fault?_object_iff, or_imp, forall_and, ih (lies.behind behind)]
  | item placed edit ih =>
      simp [Tree.fault?_list_iff, or_imp, forall_and, ih (lies.placed placed)]

theorem passed?_iff (edit : Edit level form first second) :
    first.passed? = none ↔ second.passed? = none := by
  induction edit with
  | reorder perm distinct => simp only [Tree.passed?_object_iff, perm.mem_iff]
  | insert knows unknown faultless =>
      simp [Tree.passed?_object_iff, Tree.passed?_of_faultless faultless, Key.passed?]
  | writeOut knows known omitted fills =>
      simp [Tree.passed?_object_iff, Presence.passed?_filler fills, Key.passed?]
  | writeOutNext knows next fills =>
      rw [Tree.passed?_list_iff, Tree.passed?_list_iff, List.forall_mem_append,
        List.forall_mem_singleton, iff_true_intro (Presence.passed?_filler fills), and_true]
  | member behind edit ih => simp [Tree.passed?_object_iff, or_imp, forall_and, ih]
  | item placed edit ih => simp [Tree.passed?_list_iff, or_imp, forall_and, ih]

end Edit

theorem OrderedMap.ofList_eq_of_perm {κ ν : Type} [LT κ] [DecidableLT κ] [StrictOrder κ]
    {entries others : List (κ × ν)} (distinct : (entries.map Prod.fst).Nodup)
    (perm : entries.Perm others) : (ofList entries).entries = (ofList others).entries := by
  have alsoDistinct : (others.map Prod.fst).Nodup := ((perm.map Prod.fst).nodup_iff).mp distinct
  have samePerm : (ofList entries).entries.Perm (ofList others).entries :=
    (perm_ofList distinct).trans (perm.trans (perm_ofList alsoDistinct).symm)
  refine samePerm.eq_of_pairwise ?_ (ofList entries).ascending (ofList others).ascending
  intro entry other _ _ before after
  exact absurd after (StrictOrder.asymm before)

namespace Json

theorem bareItems_eq_map (items : List Tree) : Tree.bareItems items = items.map Tree.bareValue := by
  induction items with
  | nil => rfl
  | cons item rest ih => rw [Tree.bareItems, List.map_cons, ih]

theorem canonicalItems_eq_map (items : List Json) : canonicalItems items = items.map canonical := by
  induction items with
  | nil => rfl
  | cons item rest ih => rw [canonicalItems, List.map_cons, ih]

def bareMember? : Key × Tree → Option (String × Json)
  | (.name name, value) => some (name, value.bareValue)
  | (.flawed _, _) => none

theorem bareMembers_eq_filterMap (members : List (Key × Tree)) :
    Tree.bareMembers members = members.filterMap bareMember? := by
  induction members with
  | nil => rfl
  | cons member rest ih =>
      obtain ⟨key, value⟩ := member
      cases key with
      | name name => rw [Tree.bareMembers, ih]; rfl
      | flawed flaw => rw [Tree.bareMembers, ih]; rfl

theorem names_bareMembers {members : List (Key × Tree)}
    (faultless : Tree.membersFault? members = none) :
    members.map Prod.fst = ((Tree.bareMembers members).map Prod.fst).map Key.name := by
  rw [← keys_ofMembers, ofMembers_bareMembers members faultless]

end Json

theorem Edit.canonical_eq {level : Nat} {first second : Tree}
    (edit : Edit level .shape first second) (faultless : first.fault? = none) :
    first.bareValue.canonical = second.bareValue.canonical := by
  generalize same : Form.shape = form at edit
  induction edit with
  | insert knows | writeOut knows | writeOutNext knows =>
      subst same
      cases knows
  | reorder perm distinct =>
      obtain ⟨_, _, inside⟩ := Tree.fault?_object_iff.mp faultless
      have names := Json.names_bareMembers (Tree.membersFault?_eq_none_iff.mpr inside)
      have once := distinct same.symm
      rw [names] at once
      have bare := perm.filterMap Json.bareMember?
      rw [← Json.bareMembers_eq_filterMap, ← Json.bareMembers_eq_filterMap] at bare
      rw [Tree.bareValue, Tree.bareValue, Json.canonical, Json.canonical]
      congr 1
      apply OrderedMap.ofList_eq_of_perm
      · rw [Json.names_canonicalMembers]
        exact once.of_map _
      · rw [Json.canonicalMembers_eq_map, Json.canonicalMembers_eq_map]
        exact bare.map _
  | member behind edit ih =>
      subst same
      obtain rfl := Option.some.inj behind
      obtain ⟨_, _, inside⟩ := Tree.fault?_object_iff.mp faultless
      have sameValue := ih (inside _ List.mem_append_cons_self).2 rfl
      simp only [Tree.bareValue, Json.canonical, Json.canonicalMembers_eq_map,
        Json.bareMembers_eq_filterMap, List.filterMap_append, List.filterMap_cons,
        Json.bareMember?, List.map_append, List.map_cons, sameValue]
  | item placed edit ih =>
      subst same
      obtain rfl := Option.some.inj placed
      obtain ⟨_, _, inside⟩ := Tree.fault?_list_iff.mp faultless
      have sameValue := ih (inside _ List.mem_append_cons_self) rfl
      simp only [Tree.bareValue, Json.canonical, Json.canonicalItems_eq_map, Json.bareItems_eq_map,
        List.map_append, List.map_cons, sameValue]

end AudienceScope
