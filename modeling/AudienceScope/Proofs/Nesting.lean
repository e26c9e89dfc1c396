import AudienceScope.Document.Decode
import AudienceScope.Document.Encode
import AudienceScope.Proofs.Records
import AudienceScope.Proofs.Scanning

/-!
How deep a document is written that was read from a text. A reference is written as deep as it was
read, except that a name gets its path, one level below. References stand at odd levels, within an
odd limit, so that there is always room for the path. Main statements: `scanValue_isScanned`,
`Document.isWritable_of_ofText` and `Document.isBounded_toJson`.
-/

set_option autoImplicit false

namespace AudienceScope

namespace Json

mutual

/-- What scanning promises of a value inside `level` lists and objects: those that lie too deep are
marked, and integers are within their range. -/
def Tree.IsScanned : (level : Nat) → Tree → Prop
  | _, .number (.integer value) => leastInteger ≤ value ∧ value ≤ greatestInteger
  | level, .list deep items _ =>
    deep = decide (nestingLimit ≤ level) ∧ AreScanned (level + 1) items
  | level, .object deep members _ =>
    deep = decide (nestingLimit ≤ level) ∧ MembersAreScanned (level + 1) members
  | _, _ => True

def AreScanned : (level : Nat) → List Tree → Prop
  | _, [] => True
  | level, item :: rest => item.IsScanned level ∧ AreScanned level rest

def MembersAreScanned : (level : Nat) → List (Key × Tree) → Prop
  | _, [] => True
  | level, (_, value) :: rest => value.IsScanned level ∧ MembersAreScanned level rest

end

theorem numberOf_integer_range {literal : DecimalLiteral} {value : Int}
    (found : numberOf literal = .ok (.integer value)) :
    leastInteger ≤ value ∧ value ≤ greatestInteger := by
  unfold numberOf at found
  extract_lets magnitude read at found
  split at found
  · rename_i within
    obtain ⟨_, _, _, range⟩ := within
    rw [Number.integer.inj (Except.ok.inj found)] at range
    exact range
  · split at found
    · exact nomatch Except.ok.inj found
    · exact nomatch found

theorem scanNumber_isScanned (chars : List Char) (level : Nat) :
    (scanNumber chars).1.IsScanned level := by
  unfold scanNumber
  split
  · trivial
  · split
    · rename_i value found
      cases value with
      | binary value => trivial
      | integer value => exact numberOf_integer_range found
    · trivial

theorem scanWord_isScanned (value : Tree) {level : Nat} (scanned : value.IsScanned level)
    (letters chars : List Char) : (scanWord value letters chars).1.IsScanned level := by
  unfold scanWord
  split
  · exact scanned
  · trivial

theorem scanScalar_isScanned (chars : List Char) (level : Nat) :
    (scanScalar chars).1.IsScanned level := by
  unfold scanScalar
  split
  · trivial
  · exact scanWord_isScanned .null trivial _ _
  · exact scanWord_isScanned (.boolean true) trivial _ _
  · exact scanWord_isScanned (.boolean false) trivial _ _
  · split <;> trivial
  · split
    · exact scanNumber_isScanned _ level
    · trivial

mutual

theorem scanValue_isScanned (fuel level : Nat) (chars : List Char) :
    (scanValue fuel level chars).1.IsScanned level := by
  cases fuel with
  | zero =>
      rw [scanValue]
      trivial
  | succ fuel =>
      rw [scanValue]
      split
      · exact ⟨rfl, scanItems_areScanned fuel (level + 1) _⟩
      · exact ⟨rfl, scanMembers_areScanned fuel (level + 1) _⟩
      · exact scanScalar_isScanned _ level

theorem scanItems_areScanned (fuel level : Nat) (chars : List Char) :
    AreScanned level (scanItems fuel level chars).1 := by
  cases fuel with
  | zero =>
      rw [scanItems]
      trivial
  | succ fuel =>
      rw [scanItems]
      split
      · trivial
      · trivial
      · exact scanItem_areScanned fuel level _

theorem scanItem_areScanned (fuel level : Nat) (chars : List Char) :
    AreScanned level (scanItem fuel level chars).1 := by
  cases fuel with
  | zero =>
      rw [scanItem]
      trivial
  | succ fuel =>
      have item := scanValue_isScanned fuel level chars
      rw [scanItem]
      split
      · rename_i found
        rw [found] at item
        exact ⟨item, trivial⟩
      · rename_i found
        rw [found] at item
        split
        · exact ⟨item, trivial⟩
        · exact ⟨item, trivial⟩
        · split
          · exact ⟨item, trivial⟩
          · exact ⟨item, scanItem_areScanned fuel level _⟩
        · exact ⟨item, trivial⟩

theorem scanMembers_areScanned (fuel level : Nat) (chars : List Char) :
    MembersAreScanned level (scanMembers fuel level chars).1 := by
  cases fuel with
  | zero =>
      rw [scanMembers]
      trivial
  | succ fuel =>
      rw [scanMembers]
      split
      · trivial
      · trivial
      · exact scanMember_areScanned fuel level _
      · trivial

theorem scanMember_areScanned (fuel level : Nat) (chars : List Char) :
    MembersAreScanned level (scanMember fuel level chars).1 := by
  cases fuel with
  | zero =>
      rw [scanMember]
      trivial
  | succ fuel =>
      rw [scanMember]
      simp only
      split
      · exact ⟨trivial, trivial⟩
      · rename_i afterKey _
        have behind : (match skipGap afterKey with
            | [] => absent .textEndsInObject
            | ':' :: afterColon => scanValue fuel level afterColon
            | _ => absent .expectedColon).1.IsScanned level := by
          split
          · trivial
          · exact scanValue_isScanned fuel level _
          · trivial
        -- every way to go on has this value in front
        split
        · exact ⟨behind, trivial⟩
        · split
          · exact ⟨behind, trivial⟩
          · exact ⟨behind, trivial⟩
          · split
            · exact ⟨behind, trivial⟩
            · exact ⟨behind, trivial⟩
            · exact ⟨behind, scanMember_areScanned fuel level _⟩
            · exact ⟨behind, trivial⟩
          · exact ⟨behind, trivial⟩

end

theorem areScanned_iff {level : Nat} {items : List Tree} :
    AreScanned level items ↔ ∀ item ∈ items, item.IsScanned level := by
  induction items with
  | nil => simp [AreScanned]
  | cons item rest ih => simp [AreScanned, ih]

theorem membersAreScanned_iff {level : Nat} {members : List (Key × Tree)} :
    MembersAreScanned level members ↔ ∀ value ∈ members.map Prod.snd, value.IsScanned level := by
  induction members with
  | nil => simp [MembersAreScanned]
  | cons member rest ih =>
      obtain ⟨key, value⟩ := member
      simp only [MembersAreScanned, ih, List.map_cons, List.forall_mem_cons]

theorem Tree.IsScanned.parts {level : Nat} {tree : Tree} {parts : List Tree}
    (scanned : tree.IsScanned level) (opened : tree.parts? = some parts) :
    level < nestingLimit ∧ ∀ part ∈ parts, part.IsScanned (level + 1) := by
  unfold Tree.parts? at opened
  split at opened
  · cases opened
    exact ⟨Nat.not_le.mp (of_decide_eq_false scanned.1.symm), areScanned_iff.mp scanned.2⟩
  · cases opened
    exact ⟨Nat.not_le.mp (of_decide_eq_false scanned.1.symm), membersAreScanned_iff.mp scanned.2⟩
  · cases opened

mutual

def isIntegral : Json → Bool
  | .number (.binary _) => false
  | .list items => isIntegralItems items
  | .object members => isIntegralMembers members
  | _ => true

def isIntegralItems : List Json → Bool
  | [] => true
  | item :: rest => isIntegral item && isIntegralItems rest

def isIntegralMembers : List (String × Json) → Bool
  | [] => true
  | (_, value) :: rest => isIntegral value && isIntegralMembers rest

end

theorem isIntegralMembers_iff {members : List (String × Json)} :
    isIntegralMembers members = true ↔ ∀ member ∈ members, member.2.isIntegral = true := by
  induction members with
  | nil => simp [isIntegralMembers]
  | cons member rest ih => simp [isIntegralMembers, ih]

theorem areBounded_iff {level : Nat} {items : List Json} :
    AreBounded level items ↔ ∀ item ∈ items, item.IsBounded level := by
  induction items with
  | nil => simp [AreBounded]
  | cons item rest ih => simp [AreBounded, ih]

theorem membersAreBounded_iff {level : Nat} {members : List (String × Json)} :
    MembersAreBounded level members ↔ ∀ member ∈ members, member.2.IsBounded level := by
  induction members with
  | nil => simp [MembersAreBounded]
  | cons member rest ih => simp [MembersAreBounded, ih]

mutual

/-- A scanned value without faults is within bounds, once its objects are in order, if its numbers
are integers then: a member that is written over may hold any number. -/
theorem isBounded_canonical_bareValue : (tree : Tree) → (level : Nat) → tree.fault? = none →
    tree.IsScanned level → tree.bareValue.canonical.isIntegral = true →
      tree.bareValue.canonical.IsBounded level
  | .null, _, _, _, _ => trivial
  | .boolean _, _, _, _, _ => trivial
  | .number (.integer _), _, _, scanned, _ => scanned
  | .number (.binary _), _, _, _, integral => nomatch integral
  | .text _, _, _, _, _ => trivial
  | .list true _ _, _, faultless, _, _ => nomatch faultless
  | .list false items _, level, faultless, scanned, integral =>
      ⟨Nat.not_le.mp (of_decide_eq_false scanned.1.symm),
        areBounded_canonical_bareItems items (level + 1) (Option.or_eq_none_iff.mp faultless).1
          scanned.2 integral⟩
  | .object true _ _, _, faultless, _, _ => nomatch faultless
  | .object false members _, level, faultless, scanned, integral => by
      refine ⟨Nat.not_le.mp (of_decide_eq_false scanned.1.symm),
        membersAreBounded_iff.mpr fun member present => ?_⟩
      exact bounded_of_mem_canonical_bareMembers members (level + 1)
        (Option.or_eq_none_iff.mp faultless).1 scanned.2 member
        (OrderedMap.mem_of_mem_ofList present) (isIntegralMembers_iff.mp integral member present)
  | .flawed _ _, _, faultless, _, _ => nomatch faultless

theorem areBounded_canonical_bareItems : (items : List Tree) → (level : Nat) →
    Tree.itemsFault? items = none → AreScanned level items →
      isIntegralItems (canonicalItems (Tree.bareItems items)) = true →
        AreBounded level (canonicalItems (Tree.bareItems items))
  | [], _, _, _, _ => trivial
  | item :: rest, level, faultless, scanned, integral =>
      have both := Option.or_eq_none_iff.mp faultless
      have integrals := Bool.and_eq_true_iff.mp integral
      ⟨isBounded_canonical_bareValue item level both.1 scanned.1 integrals.1,
        areBounded_canonical_bareItems rest level both.2 scanned.2 integrals.2⟩

theorem bounded_of_mem_canonical_bareMembers : (members : List (Key × Tree)) → (level : Nat) →
    Tree.membersFault? members = none → MembersAreScanned level members →
      ∀ member ∈ canonicalMembers (Tree.bareMembers members), member.2.isIntegral = true →
        member.2.IsBounded level
  | [], _, _, _ => fun _ present _ => absurd present List.not_mem_nil
  | (.flawed _, _) :: _, _, faultless, _ => nomatch faultless
  | (.name _, value) :: rest, level, faultless, scanned => by
      obtain ⟨faultlessValue, faultlessRest⟩ :=
        Option.or_eq_none_iff.mp (Option.or_eq_none_iff.mp faultless).2
      intro member present integral
      rcases List.mem_cons.mp present with rfl | inRest
      · exact isBounded_canonical_bareValue value level faultlessValue scanned.1 integral
      · exact bounded_of_mem_canonical_bareMembers rest level faultlessRest scanned.2 member inRest
          integral

end

/-! ### Values that were read -/

def IsReadAt {α : Type} (read : Reading α) (level : Nat) (value : α) : Prop :=
  ∃ origin tree, tree.IsScanned level ∧ read origin tree = .ok value

section Members

variable {α : Type} {read : Reading α} {origin : Origin} {level : Nat} {parts : List Tree}

theorem isReadAt_of_required {value : α} (scanned : ∀ part ∈ parts, part.IsScanned level)
    (taken : none.or none = some value ∨ ∃ part ∈ parts, read origin part = .ok value) :
    IsReadAt read level value := by
  rcases taken with omitted | ⟨part, present, found⟩
  · cases omitted
  · exact ⟨origin, part, scanned part present, found⟩

theorem isReadAt_of_optional {value? : Option α} (scanned : ∀ part ∈ parts, part.IsScanned level)
    (taken : none.or (some none) = some value? ∨
      ∃ part ∈ parts, readOption read origin part = .ok value?) :
    ∀ value ∈ value?, IsReadAt read level value := by
  intro value holds
  rcases taken with omitted | ⟨part, present, found⟩
  · cases omitted
    cases holds
  · unfold readOption at found
    split at found
    · cases found
      cases holds
    · obtain ⟨_, behind, rfl⟩ := map_eq_ok_iff.mp found
      cases holds
      exact ⟨origin, part, scanned part present, behind⟩

theorem isReadAt_of_defaulted {values : List α} (scanned : ∀ part ∈ parts, part.IsScanned level)
    (taken : none.or (some []) = some values ∨
      ∃ part ∈ parts, readList read origin part = .ok values) :
    ∀ value ∈ values, IsReadAt read (level + 1) value := by
  rcases taken with omitted | ⟨part, present, found⟩
  · cases omitted
    exact fun value holds => absurd holds List.not_mem_nil
  · obtain ⟨items, opened, all⟩ := readList_parts found
    have scannedItems := ((scanned part present).parts opened).2
    clear opened found
    induction all with
    | nil => exact fun value holds => absurd holds List.not_mem_nil
    | cons first _ ih =>
        obtain ⟨scannedFirst, scannedRest⟩ := List.forall_mem_cons.mp scannedItems
        exact List.forall_mem_cons.mpr ⟨⟨origin, _, scannedFirst, first⟩, ih scannedRest⟩

theorem IsReadAt.members {β : Type} {phrase : String} {record : Record α} {make : α → β}
    {value : β} (distinct : record.names.Nodup)
    (found : IsReadAt (fun origin tree => (record.read phrase origin tree).map make) level value) :
    ∃ origin parts values, (∀ part ∈ parts, part.IsScanned (level + 1)) ∧
      record.IsFrom origin parts values ∧ make values = value := by
  obtain ⟨origin, tree, scanned, read⟩ := found
  obtain ⟨values, read, made⟩ := map_eq_ok_iff.mp read
  obtain ⟨parts, opened, holds⟩ := Record.isFrom_of_read distinct read
  exact ⟨origin, parts, values, (scanned.parts opened).2, holds, made⟩

theorem scanned_of_splitTag {phrase : String} {choices : Choices α} {tree : Tree} {tag : α}
    {body : Body} (scanned : tree.IsScanned level)
    (split : splitTag phrase choices origin tree = .ok (tag, body)) :
    level < nestingLimit ∧ ∀ part ∈ body.parts, part.IsScanned (level + 1) := by
  obtain ⟨parts, opened, among⟩ := splitTag_parts split
  obtain ⟨shallow, scannedParts⟩ := scanned.parts opened
  exact ⟨shallow, fun part present => scannedParts part (among present)⟩

theorem isReadAt_of_single {name phrase : String} {body : Body} {value : α} {rest : Unit}
    (scanned : ∀ part ∈ body.parts, part.IsScanned level)
    (found : body.readRecord phrase (.required name read .nil) = .ok (value, rest)) :
    IsReadAt read level value := by
  have distinct : [name].Nodup := List.nodup_singleton name
  have held := Body.isFrom_of_readRecord (by exact distinct) found
  exact isReadAt_of_required scanned held.1

theorem isBounded_of_isReadAt_any {value : Json} (found : IsReadAt readAny level value)
    (integral : value.canonical.isIntegral = true) : value.canonical.IsBounded level := by
  obtain ⟨_, tree, scanned, read⟩ := found
  obtain ⟨faultless, rfl⟩ := readAny_eq_ok_iff.mp read
  exact isBounded_canonical_bareValue tree level faultless scanned integral

theorem ne_null_of_readOption_any {value : Json} {tree : Tree}
    (found : readOption readAny origin tree = .ok (some value)) : value ≠ .null := by
  unfold readOption at found
  split at found
  · cases found
  · rename_i notNull
    obtain ⟨_, read, same⟩ := map_eq_ok_iff.mp found
    cases same
    obtain ⟨faultless, rfl⟩ := readAny_eq_ok_iff.mp read
    cases tree with
    | null => exact absurd rfl notNull
    | flawed form flaw => cases faultless
    | _ => exact nofun

end Members

end Json

/-! ### References -/

open Json (nestingLimit IsReadAt Tree Reading)

namespace TypeReference

/-- Whether a reference that is written inside `level` lists and objects stays within the nesting
limit, apart from the paths of its names. -/
def FitsAt : (level : Nat) → TypeReference → Prop
  | level, list item => item.FitsAt (level + 2)
  | level, optional item => item.FitsAt (level + 2)
  | level, set item => item.FitsAt (level + 2)
  | level, map key value => key.FitsAt (level + 2) ∧ value.FitsAt (level + 2)
  | level, literal _ => level + 2 < nestingLimit
  | level, _ => level < nestingLimit

end TypeReference

theorem Literal.lt_of_isReadAt {level : Nat} {value : Literal}
    (found : IsReadAt Literal.read level value) : level < nestingLimit := by
  obtain ⟨origin, tree, scanned, read⟩ := found
  obtain ⟨⟨tag, body⟩, split, _⟩ := Json.bind_eq_ok_iff.mp read
  exact (Json.scanned_of_splitTag scanned split).1

namespace TypeReference

theorem fitsAt_of_readContainer {readInner : Reading TypeReference} {level : Nat}
    {reference : TypeReference}
    (fitsInner : ∀ inner, IsReadAt readInner (level + 2) inner → inner.FitsAt (level + 2))
    (found : IsReadAt (readContainer readInner) (level + 1) reference) :
    reference.FitsAt level := by
  obtain ⟨origin, tree, scanned, read⟩ := found
  obtain ⟨⟨tag, body⟩, split, found⟩ := Json.bind_eq_ok_iff.mp read
  obtain ⟨_, scannedParts⟩ := Json.scanned_of_splitTag scanned split
  cases tag with
  | list | optional | set =>
      obtain ⟨⟨item, _⟩, taken, same⟩ := Json.bind_eq_ok_iff.mp found
      cases same
      exact fitsInner item (Json.isReadAt_of_single scannedParts taken)
  | map =>
      obtain ⟨⟨key, value, _⟩, taken, same⟩ := Json.bind_eq_ok_iff.mp found
      cases same
      have distinct : ["keyType", "valueType"].Nodup := by decide
      have held := Json.Body.isFrom_of_readRecord (by exact distinct) taken
      exact ⟨fitsInner key (Json.isReadAt_of_required scannedParts held.1),
        fitsInner value (Json.isReadAt_of_required scannedParts held.2.1)⟩
  | literal =>
      obtain ⟨⟨value, _⟩, taken, same⟩ := Json.bind_eq_ok_iff.mp found
      cases same
      exact value.lt_of_isReadAt (Json.isReadAt_of_single scannedParts taken)

theorem fitsAt_of_readWithin (fuel : Nat) {level : Nat} {reference : TypeReference}
    (found : IsReadAt (readWithin fuel) level reference) : reference.FitsAt level := by
  induction fuel generalizing level reference with
  | zero =>
      obtain ⟨_, _, _, read⟩ := found
      cases read
  | succ fuel ih =>
      obtain ⟨origin, tree, scanned, read⟩ := found
      obtain ⟨⟨tag, body⟩, split, found⟩ := Json.bind_eq_ok_iff.mp read
      obtain ⟨shallow, scannedParts⟩ := Json.scanned_of_splitTag scanned split
      cases tag with
      | container =>
          obtain ⟨⟨inner, _⟩, taken, same⟩ := Json.bind_eq_ok_iff.mp found
          cases same
          exact fitsAt_of_readContainer (fun inner => ih)
            (Json.isReadAt_of_single scannedParts taken)
      | named | primitive | unknown | void =>
          obtain ⟨_, _, same⟩ := Json.bind_eq_ok_iff.mp found
          cases same
          exact shallow

theorem fitsAt_of_isReadAt {level : Nat} {reference : TypeReference}
    (found : IsReadAt read level reference) : reference.FitsAt level := by
  obtain ⟨origin, tree, scanned, read⟩ := found
  exact fitsAt_of_readWithin (tree.depth + 1) ⟨origin, tree, scanned, read⟩

theorem lt_of_fitsAt {level : Nat} {reference : TypeReference} (fits : reference.FitsAt level) :
    level < nestingLimit := by
  induction reference generalizing level with
  | named _ | primitive _ | unknown | void => exact fits
  | list item ih | optional item ih | set item ih =>
      have deeper := ih fits
      omega
  | map key value ih _ =>
      have deeper := ih fits.1
      omega
  | literal value =>
      have deeper : level + 2 < nestingLimit := fits
      omega

end TypeReference

namespace Document

def HasIntegralShapes (document : Document) : Prop :=
  ∀ declaration ∈ document.types, ∀ shape ∈ declaration.shape, shape.value.isIntegral = true

/-- What reading a text promises of a document, for integers only in its shapes: it can be written
within the nesting limit, and no shape is `null`. -/
structure IsWritable (document : Document) : Prop where
  shape_ne_null : ∀ declaration ∈ document.types, ∀ shape ∈ declaration.shape, shape.value ≠ .null
  shape_bounded : ∀ declaration ∈ document.types, ∀ shape ∈ declaration.shape,
    shape.value.IsBounded 3
  payload_fits : ∀ declaration ∈ document.errors, ∀ payload ∈ declaration.payload,
    payload.FitsAt 3
  request_fits : ∀ service ∈ document.services, ∀ endpoint ∈ service.endpoints,
    ∀ request ∈ endpoint.request, request.FitsAt 5
  response_fits : ∀ service ∈ document.services, ∀ endpoint ∈ service.endpoints,
    ∀ response ∈ endpoint.response, response.FitsAt 5

end Document

theorem Json.canonical_ne_null {value : Json} (notNull : value ≠ .null) :
    value.canonical ≠ .null := by
  cases value with
  | null => exact absurd rfl notNull
  | _ => exact nofun

theorem TypeDeclaration.shape_of_isReadAt {level : Nat} {declaration : TypeDeclaration}
    (found : IsReadAt read level declaration) {shape : CanonicalJson}
    (holds : shape ∈ declaration.shape) (integral : shape.value.isIntegral = true) :
    shape.value ≠ .null ∧ shape.value.IsBounded (level + 1) := by
  obtain ⟨origin, parts, ⟨_, _, _, shape?, _, _⟩, scanned, ⟨_, _, _, taken, _⟩, rfl⟩ :=
    IsReadAt.members (by decide) found
  obtain ⟨value, rfl, rfl⟩ := Option.map_eq_some_iff.mp holds
  have shapeRead := Json.isReadAt_of_optional scanned taken value rfl
  refine ⟨Json.canonical_ne_null ?_, Json.isBounded_of_isReadAt_any shapeRead integral⟩
  rcases taken with omitted | ⟨part, _, found⟩
  · cases omitted
  · exact Json.ne_null_of_readOption_any found

theorem ErrorDeclaration.payload_of_isReadAt {level : Nat} {declaration : ErrorDeclaration}
    (found : IsReadAt read level declaration) :
    ∀ payload ∈ declaration.payload, payload.FitsAt (level + 1) := by
  obtain ⟨origin, parts, ⟨_, payload?, _⟩, scanned, ⟨_, taken, _⟩, rfl⟩ :=
    IsReadAt.members (by decide) found
  intro payload holds
  exact payload.fitsAt_of_isReadAt (Json.isReadAt_of_optional scanned taken payload holds)

theorem Endpoint.references_of_isReadAt {level : Nat} {endpoint : Endpoint}
    (found : IsReadAt read level endpoint) :
    (∀ request ∈ endpoint.request, request.FitsAt (level + 1)) ∧
      ∀ response ∈ endpoint.response, response.FitsAt (level + 1) := by
  obtain ⟨origin, parts, ⟨_, _, _, request?, response?, _⟩, scanned,
    ⟨_, _, _, requested, responded, _⟩, rfl⟩ := IsReadAt.members (by decide) found
  constructor
  · intro request holds
    exact request.fitsAt_of_isReadAt (Json.isReadAt_of_optional scanned requested request holds)
  · intro response holds
    exact response.fitsAt_of_isReadAt (Json.isReadAt_of_optional scanned responded response holds)

theorem Service.endpoints_of_isReadAt {level : Nat} {service : Service}
    (found : IsReadAt read level service) :
    ∀ endpoint ∈ service.endpoints, IsReadAt Endpoint.read (level + 2) endpoint := by
  obtain ⟨origin, parts, ⟨_, _, endpoints, _⟩, scanned, ⟨_, _, taken, _⟩, rfl⟩ :=
    IsReadAt.members (by decide) found
  exact Json.isReadAt_of_defaulted scanned taken

theorem Document.isWritable_of_isReadAt {document : Document}
    (found : IsReadAt Document.read 0 document) (integral : document.HasIntegralShapes) :
    document.IsWritable := by
  obtain ⟨origin, parts, ⟨_, types, errors, services, _⟩, scanned,
    ⟨_, readTypes, readErrors, readServices, _⟩, rfl⟩ := IsReadAt.members (by decide) found
  have typesRead := Json.isReadAt_of_defaulted scanned readTypes
  have errorsRead := Json.isReadAt_of_defaulted scanned readErrors
  have servicesRead := Json.isReadAt_of_defaulted scanned readServices
  have endpointsRead : ∀ service ∈ services, ∀ endpoint ∈ service.endpoints,
      IsReadAt Endpoint.read 4 endpoint := fun service declares =>
    service.endpoints_of_isReadAt (servicesRead service declares)
  constructor
  · intro declaration declares shape holds
    exact (declaration.shape_of_isReadAt (typesRead declaration declares) holds
      (integral declaration declares shape holds)).1
  · intro declaration declares shape holds
    exact (declaration.shape_of_isReadAt (typesRead declaration declares) holds
      (integral declaration declares shape holds)).2
  · intro declaration declares
    exact declaration.payload_of_isReadAt (errorsRead declaration declares)
  · intro service declares endpoint holds
    exact (endpoint.references_of_isReadAt (endpointsRead service declares endpoint holds)).1
  · intro service declares endpoint holds
    exact (endpoint.references_of_isReadAt (endpointsRead service declares endpoint holds)).2

theorem Document.read_root_of_ofText {text : String} {document : Document}
    (loaded : ofText text = .ok document) :
    read .page (Json.readPage text).root = .ok document := by
  unfold ofText at loaded
  simp only at loaded
  split at loaded
  · cases loaded
  · rename_i read
    split at loaded
    · cases loaded
    · cases loaded
      exact read

theorem Document.isWritable_of_ofText {text : String} {document : Document}
    (loaded : ofText text = .ok document) (integral : document.HasIntegralShapes) :
    document.IsWritable := by
  have scanned : (Json.readPage text).root.IsScanned 0 := by
    have value := Json.scanValue_isScanned (3 * text.toList.length + 3) 0 text.toList
    unfold Json.readPage
    simp only
    split
    · rename_i found
      rw [found] at value
      exact value
    · rename_i found
      rw [found] at value
      exact value
  exact isWritable_of_isReadAt ⟨.page, _, scanned, read_root_of_ofText loaded⟩ integral

/-! ### Written documents -/

namespace Json

theorem membersAreBounded_append {level : Nat} {members others : List (String × Json)}
    (bounded : MembersAreBounded level members) (othersBounded : MembersAreBounded level others) :
    MembersAreBounded level (members ++ others) := by
  rw [membersAreBounded_iff] at bounded othersBounded ⊢
  exact List.forall_mem_append.mpr ⟨bounded, othersBounded⟩

theorem membersAreBounded_optionalMember {α : Type} {level : Nat} {name : String}
    {write : α → Json} {value? : Option α}
    (bounded : ∀ value ∈ value?, (write value).IsBounded level) :
    MembersAreBounded level (optionalMember name (value?.map write)) := by
  cases value? with
  | none => trivial
  | some value => exact ⟨bounded value rfl, trivial⟩

theorem isBounded_tagged {level : Nat} {tag : String} {members : List (String × Json)}
    (shallow : level < nestingLimit) (bounded : MembersAreBounded (level + 1) members) :
    (tagged tag members).IsBounded level :=
  ⟨shallow, trivial, bounded⟩

theorem isBounded_listed {α : Type} {level : Nat} {write : α → Json} {values : List α}
    (shallow : level < nestingLimit)
    (bounded : ∀ value ∈ values, (write value).IsBounded (level + 1)) :
    (Json.list (values.map write)).IsBounded level := by
  refine ⟨shallow, areBounded_iff.mpr fun item present => ?_⟩
  obtain ⟨value, holds, rfl⟩ := List.mem_map.mp present
  exact bounded value holds

theorem isBounded_texts {level : Nat} (shallow : level < nestingLimit) (values : List String) :
    (texts values).IsBounded level :=
  isBounded_listed shallow fun _ _ => trivial

end Json

open Json (isBounded_tagged isBounded_texts isBounded_listed membersAreBounded_append
  membersAreBounded_optionalMember leastInteger greatestInteger)

theorem QualifiedName.isBounded_toJson {level : Nat} (shallow : level + 1 < nestingLimit)
    (name : QualifiedName) : name.toJson.IsBounded level :=
  ⟨by omega, isBounded_texts shallow name.path, trivial, trivial⟩

theorem Literal.isBounded_toJson {level : Nat} (shallow : level < nestingLimit)
    (value : Literal) : value.toJson.IsBounded level := by
  cases value <;> exact isBounded_tagged shallow ⟨trivial, trivial⟩

namespace TypeReference

theorem isBounded_container {level : Nat} {tag : String} {members : List (String × Json)}
    (shallow : level + 1 < nestingLimit) (bounded : Json.MembersAreBounded (level + 2) members) :
    (container tag members).IsBounded level :=
  isBounded_tagged (by omega) ⟨isBounded_tagged shallow bounded, trivial⟩

theorem isBounded_toJson {level : Nat} {reference : TypeReference} (odd : level % 2 = 1)
    (fits : reference.FitsAt level) : reference.toJson.IsBounded level := by
  have shallow := lt_of_fitsAt fits
  induction reference generalizing level with
  | named name =>
      -- the limit is odd as well, so the path still fits
      have limit : nestingLimit = 127 := rfl
      exact isBounded_tagged shallow ⟨isBounded_texts (by omega) name.path, trivial, trivial⟩
  | primitive kind => exact isBounded_tagged shallow ⟨trivial, trivial⟩
  | unknown => exact isBounded_tagged shallow trivial
  | void => exact isBounded_tagged shallow trivial
  | list item ih | optional item ih | set item ih =>
      have inside : item.FitsAt (level + 2) := fits
      have deeper := lt_of_fitsAt inside
      exact isBounded_container (by omega) ⟨ih (by omega) inside deeper, trivial⟩
  | map key value ihKey ihValue =>
      obtain ⟨fitsKey, fitsValue⟩ := fits
      have deeper := lt_of_fitsAt fitsKey
      exact isBounded_container (by omega) ⟨ihKey (by omega) fitsKey deeper,
        ihValue (by omega) fitsValue deeper, trivial⟩
  | literal value =>
      have deeper : level + 2 < nestingLimit := fits
      exact isBounded_container (by omega) ⟨value.isBounded_toJson deeper, trivial⟩

end TypeReference

namespace Document

variable {document : Document}

theorem isBounded_type {declaration : TypeDeclaration}
    (bounded : ∀ shape ∈ declaration.shape, shape.value.IsBounded 3) :
    declaration.toJson.IsBounded 2 := by
  have name : declaration.name.toJson.IsBounded 3 :=
    declaration.name.isBounded_toJson (by decide)
  have descendants : (Json.list (declaration.descendants.map QualifiedName.toJson)).IsBounded 3 :=
    isBounded_listed (by decide) fun descendant _ => descendant.isBounded_toJson (by decide)
  have audiences : (Json.texts declaration.audiences).IsBounded 3 := isBounded_texts (by decide) _
  refine ⟨by decide, membersAreBounded_append (membersAreBounded_append ?_ ?_) ?_⟩
  · exact ⟨name, descendants, audiences, trivial⟩
  · exact membersAreBounded_optionalMember bounded
  · exact membersAreBounded_optionalMember fun _ _ => trivial

theorem isBounded_error {declaration : ErrorDeclaration}
    (fits : ∀ payload ∈ declaration.payload, payload.FitsAt 3) :
    declaration.toJson.IsBounded 2 := by
  have name : declaration.name.toJson.IsBounded 3 :=
    declaration.name.isBounded_toJson (by decide)
  refine ⟨by decide, membersAreBounded_append (membersAreBounded_append ?_ ?_) ?_⟩
  · exact ⟨name, trivial⟩
  · exact membersAreBounded_optionalMember fun payload holds =>
      payload.isBounded_toJson (by decide) (fits payload holds)
  · refine membersAreBounded_optionalMember fun code _ => ?_
    have small := code.toNat_lt
    have least : leastInteger = -0x8000000000000000 := rfl
    have greatest : greatestInteger = 0xffffffffffffffff := rfl
    exact ⟨by omega, by omega⟩

theorem isBounded_endpoint {endpoint : Endpoint}
    (requestFits : ∀ request ∈ endpoint.request, request.FitsAt 5)
    (responseFits : ∀ response ∈ endpoint.response, response.FitsAt 5) :
    endpoint.toJson.IsBounded 4 := by
  have errors : (Json.list (endpoint.errors.map ResponseError.toJson)).IsBounded 5 := by
    refine isBounded_listed (by decide) fun response _ => ?_
    have error : response.error.toJson.IsBounded 7 := response.error.isBounded_toJson (by decide)
    refine ⟨by decide, membersAreBounded_append ⟨error, trivial⟩ ?_⟩
    exact membersAreBounded_optionalMember fun _ _ => trivial
  have audiences : (Json.texts endpoint.audiences).IsBounded 5 := isBounded_texts (by decide) _
  refine ⟨by decide, membersAreBounded_append (membersAreBounded_append
    (membersAreBounded_append ?_ ?_) ?_) ⟨errors, audiences, trivial⟩⟩
  · exact ⟨trivial, trivial, trivial, trivial⟩
  · exact membersAreBounded_optionalMember fun request holds =>
      request.isBounded_toJson (by decide) (requestFits request holds)
  · exact membersAreBounded_optionalMember fun response holds =>
      response.isBounded_toJson (by decide) (responseFits response holds)

theorem isBounded_toJson (writable : document.IsWritable) : document.toJson.IsBounded 0 := by
  have types : (Json.list (document.types.map TypeDeclaration.toJson)).IsBounded 1 :=
    isBounded_listed (by decide) fun declaration declares =>
      isBounded_type (writable.shape_bounded declaration declares)
  have errors : (Json.list (document.errors.map ErrorDeclaration.toJson)).IsBounded 1 :=
    isBounded_listed (by decide) fun declaration declares =>
      isBounded_error (writable.payload_fits declaration declares)
  have services : (Json.list (document.services.map Service.toJson)).IsBounded 1 := by
    refine isBounded_listed (by decide) fun service declares => ?_
    have path : (Json.texts service.name.path).IsBounded 4 := isBounded_texts (by decide) _
    have audiences : (Json.texts service.audiences).IsBounded 3 := isBounded_texts (by decide) _
    have endpoints : (Json.list (service.endpoints.map Endpoint.toJson)).IsBounded 3 :=
      isBounded_listed (by decide) fun endpoint holds =>
        isBounded_endpoint (writable.request_fits service declares endpoint holds)
          (writable.response_fits service declares endpoint holds)
    exact ⟨by decide, ⟨by decide, path, trivial⟩, audiences, endpoints, trivial⟩
  exact ⟨by decide, trivial, types, errors, services, trivial⟩

end Document

end AudienceScope
