import AudienceScope.Proofs.Decoding
import AudienceScope.Proofs.Respecting

/-!
Decoding depends on known members only. Every reader of a document respects the edits of its form:
members in another order, unknown members put in or taken away, and members that may be left out
written out or left out. So two texts that edits lead from one to the other give the same document.
Main statements: `TypeReference.respects_read`, `Document.respects_read` and
`decoding_tolerates_edits`.
-/

set_option autoImplicit false

namespace AudienceScope

open Json (Tree Key Body Origin Reading Alike Record Choices ObjectEnd ListEnd readText)
open Json.Record (suits_required suits_defaulted suits_optional)

section Plain

variable {α : Type} {read : Reading α}

/-- Of what is plain only an object can be edited, by putting its members in another order. -/
theorem Edit.reorders_plain {level : Nat} {first second : Tree}
    (edit : Edit level .plain first second) :
    ∃ deep members others ending, members.Perm others ∧
      first = .object deep members ending ∧ second = .object deep others ending := by
  cases edit with
  | reorder perm _ => exact ⟨_, _, _, _, perm, rfl, rfl⟩
  | insert knows | writeOut knows | writeOutNext knows => cases knows
  | member behind => cases behind
  | item placed => cases placed

theorem respects_plain
    (refuses : ∀ origin deep members ending value,
      read origin (.object deep members ending) ≠ .ok value) : Respects .plain Eq read := by
  intro level first second _ edit origin
  obtain ⟨_, _, _, _, _, rfl, rfl⟩ := edit.reorders_plain
  exact .of_refused (refuses origin _ _ _) (refuses origin _ _ _)

theorem respects_readText : Respects .plain Eq readText :=
  respects_plain fun _ _ _ _ _ => nofun

theorem respects_readBoolean : Respects .plain Eq Json.readBoolean :=
  respects_plain fun _ _ _ _ _ => nofun

theorem respects_readNatural (bound : Nat) (phrase : String) :
    Respects .plain Eq (Json.readNatural bound phrase) :=
  respects_plain fun _ _ _ _ _ => nofun

theorem respects_readTag (choices : Choices α) : Respects .plain Eq (Json.readTag choices) := by
  apply respects_plain
  intro origin deep members ending picked read
  have aside := Json.readTag_aside read
  cases aside

theorem Json.readChoice_object_ne_ok {choices : Choices α} {origin : Origin} {deep : Bool}
    {members : List (Key × Tree)} {ending : ObjectEnd} (several : members.length ≠ 1)
    (picked : α) : readChoice choices origin (.object deep members ending) ≠ .ok picked := by
  intro read
  cases members with
  | nil =>
      cases origin with
      | page =>
          obtain ⟨_, read⟩ := unlessDeep_eq_ok_iff.mp read
          obtain ⟨_, read⟩ := unlessFault_eq_ok_iff.mp read
          cases read
      | value | aside => cases read
  | cons first rest =>
      cases rest with
      | nil => exact several rfl
      | cons second rest =>
          obtain ⟨key, value⟩ := first
          cases origin with
          | value | aside => cases key <;> cases read
          | page =>
              obtain ⟨_, read⟩ := unlessDeep_eq_ok_iff.mp read
              cases key with
              | flawed flaw => cases read
              | name name =>
                  rw [readChoiceObject] at read
                  cases picks : choices.pick name with
                  | error reason =>
                      rw [picks] at read
                      cases read
                  | ok named =>
                      rw [picks] at read
                      cases unit : readUnit .page value <;> simp [unit] at read

theorem respects_readChoice (choices : Choices α) :
    Respects .plain Eq (Json.readChoice choices) := by
  intro level first second _ edit origin
  obtain ⟨deep, members, others, ending, perm, rfl, rfl⟩ := edit.reorders_plain
  by_cases single : members.length = 1
  · obtain ⟨member, rfl⟩ := List.length_eq_one_iff.mp single
    rw [List.perm_singleton.mp perm.symm]
    exact .refl (fun _ => rfl) _
  · have alsoSeveral : others.length ≠ 1 := fun alsoSingle =>
      single (perm.length_eq.trans alsoSingle)
    exact .of_refused (Json.readChoice_object_ne_ok single)
      (Json.readChoice_object_ne_ok alsoSeveral)

theorem respects_readAny :
    Respects .shape (fun first second => first.canonical = second.canonical) Json.readAny := by
  intro level first second lies edit origin
  have faults := edit.fault?_iff lies
  by_cases faultless : first.fault? = none
  · rw [Json.readAny_eq_ok_iff.mpr ⟨faultless, rfl⟩,
      Json.readAny_eq_ok_iff.mpr ⟨faults.mp faultless, rfl⟩]
    exact .read (edit.canonical_eq faultless)
  · apply Alike.of_refused
    · intro value read
      exact faultless (Json.readAny_eq_ok_iff.mp read).1
    · intro value read
      exact faultless (faults.mpr (Json.readAny_eq_ok_iff.mp read).1)

end Plain

theorem QualifiedName.suits_record : QualifiedName.record.Suits Form.nameFields Eq :=
  suits_defaulted respects_readText (suits_required respects_readText .nil)

theorem QualifiedName.respects_read (phrase : String) :
    Respects .qualifiedName Eq (QualifiedName.read phrase) :=
  (suits_record.respects_read fun _ => rfl).map fun _ _ => congrArg ofMembers

theorem ServiceName.respects_read : Respects .serviceName Eq ServiceName.read := by
  have suits : ServiceName.record.Suits _ Eq := suits_required respects_readText.list .nil
  apply (suits.respects_read fun _ => rfl).map
  rintro _ _ rfl
  rfl

/-! ### References -/

theorem Json.Body.Agree.readSingle {α β : Type} {level : Nat} {form : Form} {first second : Body}
    {phrase name : String} {read : Reading α}
    (agree : first.Agree level [⟨name, .required, form⟩] second) (respects : Respects form Eq read)
    (build : α → β) :
    Alike Eq
      (first.readRecord phrase (.required name read .nil) >>= fun (value, ()) =>
        pure (build value))
      (second.readRecord phrase (.required name read .nil) >>= fun (value, ()) =>
        pure (build value)) := by
  apply (agree.readRecord (suits_required respects .nil) (List.nodup_singleton name)).bind
  rintro ⟨value, ⟨⟩⟩ _ rfl
  exact .read rfl

theorem Literal.respects_read : Respects .literal Eq Literal.read := by
  intro level first second lies edit origin
  have splits := respects_splitTag origin "internally tagged enum Literal"
    (respects_readTag Literal.choices) (fun _ => rfl) rfl rfl lies edit
  apply splits.bind
  rintro ⟨tag, kept⟩ ⟨_, others⟩ ⟨rfl, agree⟩
  cases tag with
  | string => exact agree.readSingle respects_readText _
  | boolean => exact agree.readSingle respects_readBoolean _

namespace TypeReference

theorem respects_readContainer {readInner : Reading TypeReference}
    (respects : Respects .reference Eq readInner) :
    Respects .container Eq (readContainer readInner) := by
  intro level first second lies edit origin
  have splits := respects_splitTag origin "internally tagged enum ContainerType"
    (respects_readTag containerChoices) (fun _ => rfl) rfl rfl lies edit
  apply splits.bind
  rintro ⟨tag, kept⟩ ⟨_, others⟩ ⟨rfl, agree⟩
  cases tag with
  | list => exact agree.readSingle respects _
  | optional => exact agree.readSingle respects _
  | set => exact agree.readSingle respects _
  | literal => exact agree.readSingle Literal.respects_read _
  | map =>
      have distinct : ["keyType", "valueType"].Nodup := by decide
      have entries : Record.Suits (Form.containerFields .map) Eq
          (.required "keyType" readInner (.required "valueType" readInner .nil)) :=
        suits_required respects (suits_required respects .nil)
      apply (agree.readRecord entries distinct).bind
      rintro ⟨key, value, ⟨⟩⟩ _ rfl
      exact .read rfl

/-- References of every depth respect edits, by induction on how deep a reader looks. -/
theorem respects_readWithin (fuel : Nat) : Respects .reference Eq (readWithin fuel) := by
  induction fuel with
  | zero => exact fun _ _ _ _ _ _ => .refused _ _
  | succ fuel ih =>
      intro level first second lies edit origin
      have splits := respects_splitTag origin "internally tagged enum TypeReference"
        (respects_readTag choices) (fun _ => rfl) rfl rfl lies edit
      apply splits.bind
      rintro ⟨tag, kept⟩ ⟨_, others⟩ ⟨rfl, agree⟩
      cases tag with
      | container => exact agree.readSingle (respects_readContainer ih) id
      | named =>
          have distinct : (Form.nameFields.map Field.name).Nodup := by decide
          apply (agree.readRecord QualifiedName.suits_record distinct).bind
          rintro name _ rfl
          exact .read rfl
      | primitive => exact agree.readSingle (respects_readChoice _) _
      | unknown =>
          apply agree.readNothing.bind
          rintro ⟨⟩ _ rfl
          exact .read rfl
      | void =>
          apply agree.readNothing.bind
          rintro ⟨⟩ _ rfl
          exact .read rfl

end TypeReference

namespace Json

theorem Tree.depth_lt_of_parts? {tree : Tree} {parts : List Tree}
    (opened : tree.parts? = some parts) : ∀ part ∈ parts, part.depth < tree.depth := by
  have ofItems (items : List Tree) : ∀ item ∈ items, item.depth ≤ itemsDepth items := by
    induction items with
    | nil => exact nofun
    | cons first rest ih =>
        rw [itemsDepth, List.forall_mem_cons]
        exact ⟨Nat.le_max_left .., fun item present =>
          Nat.le_trans (ih item present) (Nat.le_max_right ..)⟩
  have ofMembers (members : List (Key × Tree)) :
      ∀ value ∈ members.map Prod.snd, value.depth ≤ membersDepth members := by
    induction members with
    | nil => exact nofun
    | cons first rest ih =>
        rw [membersDepth, List.map_cons, List.forall_mem_cons]
        exact ⟨Nat.le_max_left .., fun value present =>
          Nat.le_trans (ih value present) (Nat.le_max_right ..)⟩
  unfold Tree.parts? at opened
  split at opened
  · cases opened
    exact fun part present => Nat.lt_succ_of_le (ofItems _ part present)
  · cases opened
    exact fun part present => Nat.lt_succ_of_le (ofMembers _ part present)
  · cases opened

theorem depth_lt_of_splitTag {α : Type} {phrase : String} {choices : Choices α} {origin : Origin}
    {tree : Tree} {tag : α} {body : Body}
    (split : splitTag phrase choices origin tree = .ok (tag, body)) :
    ∀ part ∈ body.parts, part.depth < tree.depth := by
  obtain ⟨parts, opened, among⟩ := splitTag_parts split
  exact fun part present => Tree.depth_lt_of_parts? opened part (among present)

/-- Whether one record reads from some trees whatever another one does, member by member. -/
inductive Record.Covers (parts : List Tree) : {α : Type} → Record α → Record α → Prop where
  | nil : Covers parts .nil .nil
  | cons {β γ : Type} {name : String} {read other : Reading β} {omitted : Option β}
      {rest others : Record γ}
      (reads : ∀ part ∈ parts, ∀ value, other .aside part = .ok value →
        read .aside part = .ok value)
      (behind : Covers parts rest others) :
      Covers parts (.cons ⟨name, read, omitted⟩ none rest)
        (.cons ⟨name, other, omitted⟩ none others)

namespace Record.Covers

variable {α : Type} {parts : List Tree} {record other : Record α} {values : α}

theorem names_eq (covers : record.Covers parts other) : record.names = other.names := by
  induction covers with
  | nil => rfl
  | cons reads behind ih => rw [names, names, ih]

theorem readsAs (covers : record.Covers parts other) {members : List (Key × Tree)}
    (among : members.map Prod.snd ⊆ parts) (found : other.ReadsAs .aside members values) :
    record.ReadsAs .aside members values := by
  induction covers with
  | nil => trivial
  | @cons _ _ name _ _ _ _ _ reads behind ih =>
      obtain ⟨takes, rest⟩ := found
      refine ⟨?_, ih rest⟩
      cases held : members.lookup (.name name) with
      | none =>
          simp only [held] at takes ⊢
          exact takes
      | some part =>
          simp only [held] at takes ⊢
          obtain ⟨before, after, split, _⟩ := List.lookup_eq_some_iff.mp held
          have present : part ∈ members.map Prod.snd := by simp [split]
          exact ⟨rfl, reads part (among present) _ takes.2⟩

theorem readsItems (covers : record.Covers parts other) {items : List Tree} (among : items ⊆ parts)
    (found : other.ReadsItems .aside items values) : record.ReadsItems .aside items values := by
  induction covers generalizing items with
  | nil => exact found
  | cons reads behind ih =>
      cases items with
      | nil => exact ⟨found.1, ih among found.2⟩
      | cons item items =>
          obtain ⟨present, others⟩ := List.cons_subset.mp among
          exact ⟨reads item present _ found.1, ih others found.2⟩

theorem readRecord {body : Body} {phrase : String} (covers : record.Covers body.parts other)
    (distinct : other.names.Nodup) (found : body.readRecord phrase other = .ok values) :
    body.readRecord phrase record = .ok values := by
  have same := covers.names_eq
  cases body with
  | members kept =>
      obtain ⟨closed, admits, reads⟩ := (Record.ofMembers_eq_ok_iff distinct).mp found
      exact (Record.ofMembers_eq_ok_iff (same ▸ distinct)).mpr
        ⟨closed, same ▸ admits, covers.readsAs (List.Subset.refl _) reads⟩
  | items kept =>
      obtain ⟨closed, reads⟩ := Record.ofItems_eq_ok_iff.mp found
      exact Record.ofItems_eq_ok_iff.mpr ⟨closed, covers.readsItems (List.Subset.refl _) reads⟩

theorem readSingle {read alsoRead : Reading α} {body : Body} {phrase name : String} {value : α}
    {rest : Unit}
    (covers : ∀ part ∈ body.parts, ∀ value, alsoRead .aside part = .ok value →
      read .aside part = .ok value)
    (found : body.readRecord phrase (.required name alsoRead .nil) = .ok (value, rest)) :
    body.readRecord phrase (.required name read .nil) = .ok (value, rest) := by
  have distinct : [name].Nodup := List.nodup_singleton name
  exact readRecord (.cons covers .nil) (by exact distinct) found

end Record.Covers

end Json

namespace TypeReference

open Json (bind_eq_ok_iff)
open Json.Record (Covers)

variable {tree : Tree} {origin : Origin} {reference : TypeReference}

theorem readContainer_of_covers {read other : Reading TypeReference}
    (covers : ∀ part, part.depth < tree.depth → ∀ value, other .aside part = .ok value →
      read .aside part = .ok value)
    (found : readContainer other origin tree = .ok reference) :
    readContainer read origin tree = .ok reference := by
  obtain ⟨⟨tag, body⟩, split, found⟩ := bind_eq_ok_iff.mp found
  have inside : ∀ part ∈ body.parts, ∀ value, other .aside part = .ok value →
      read .aside part = .ok value :=
    fun part present => covers part (Json.depth_lt_of_splitTag split part present)
  refine bind_eq_ok_iff.mpr ⟨_, split, ?_⟩
  cases tag with
  | list | optional | set =>
      obtain ⟨⟨item, _⟩, taken, same⟩ := bind_eq_ok_iff.mp found
      exact bind_eq_ok_iff.mpr ⟨_, Covers.readSingle inside taken, same⟩
  | map =>
      obtain ⟨⟨key, value, _⟩, taken, same⟩ := bind_eq_ok_iff.mp found
      have distinct : ["keyType", "valueType"].Nodup := by decide
      have both := Covers.readRecord (.cons inside (.cons inside .nil)) (by exact distinct)
        taken
      exact bind_eq_ok_iff.mpr ⟨_, both, same⟩
  | literal => exact found

theorem readWithin_of_depth_lt {fuel more : Nat} (enough : tree.depth < more)
    (found : readWithin fuel origin tree = .ok reference) :
    readWithin more origin tree = .ok reference := by
  induction fuel generalizing more tree origin reference with
  | zero => cases found
  | succ fuel ih =>
      obtain ⟨more, rfl⟩ : ∃ less, more = less + 1 := ⟨more - 1, by omega⟩
      obtain ⟨⟨tag, body⟩, split, found⟩ := bind_eq_ok_iff.mp found
      refine bind_eq_ok_iff.mpr ⟨_, split, ?_⟩
      cases tag with
      | container =>
          obtain ⟨⟨inner, _⟩, taken, same⟩ := bind_eq_ok_iff.mp found
          refine bind_eq_ok_iff.mpr ⟨_, Covers.readSingle ?_ taken, same⟩
          intro part present value
          have shallower := Json.depth_lt_of_splitTag split part present
          apply readContainer_of_covers
          intro inner deeper value
          exact ih (by omega)
      | named | primitive | unknown | void => exact found

/-- An edit may change how deep a reference lies, but not how it is read. -/
theorem respects_read : Respects .reference Eq read := by
  intro level first second lies edit origin
  apply Alike.of_eq_ok_iff
  intro reference
  -- one look that is deep enough for both stands for the two that are as deep as their trees
  have alike := respects_readWithin (max first.depth second.depth + 1) lies edit origin
  have ofFirst : read origin first = .ok reference ↔
      readWithin (max first.depth second.depth + 1) origin first = .ok reference :=
    ⟨readWithin_of_depth_lt (by omega), readWithin_of_depth_lt (by omega)⟩
  have ofSecond : read origin second = .ok reference ↔
      readWithin (max first.depth second.depth + 1) origin second = .ok reference :=
    ⟨readWithin_of_depth_lt (by omega), readWithin_of_depth_lt (by omega)⟩
  rw [ofFirst, ofSecond]
  exact alike.eq_ok_iff reference

end TypeReference

namespace TypeDeclaration

theorem suits_shape : Record.Suits
    [⟨"shape", .optional, .shape⟩, ⟨"docs", .optional, .plain⟩] SameShape
    (.optional "shape" Json.readAny (.optional "docs" readText .nil)) := by
  have shape : Respects .shape (fun first second : Option Json =>
      first.map Json.toCanonical = second.map Json.toCanonical) (Json.readOption Json.readAny) := by
    apply respects_readAny.option
    intro value other same
    simp only [Option.map_some, Json.toCanonical, same]
  have docs : Record.Suits _ Eq (.optional "docs" readText .nil) :=
    suits_optional respects_readText .nil
  exact .cons rfl shape (fun _ => rfl) (fun _ => Record.fills_optional) docs fun _ _ => And.intro

theorem respects_read : Respects .typeDeclaration Eq read := by
  have audiences : Record.Suits (⟨"audiences", .defaulted, .list .plain⟩ :: _) _
      (.defaulted "audiences" readText _) :=
    .cons rfl respects_readText.list (fun _ => rfl) (fun _ => Record.fills_defaulted) suits_shape
      fun _ _ => And.intro
  have descendants : Record.Suits (⟨"descendants", .defaulted, .list .qualifiedName⟩ :: _) _
      (.defaulted "descendants" QualifiedName.readType _) :=
    .cons rfl (QualifiedName.respects_read _).list (fun _ => rfl)
      (fun _ => Record.fills_defaulted) audiences fun _ _ => And.intro
  have suits : record.Suits (⟨"name", .required, .qualifiedName⟩ :: _) _ :=
    .cons rfl (QualifiedName.respects_read _) (fun _ => rfl) nofun descendants fun _ _ => And.intro
  apply (suits.respects_read fun _ => rfl).map
  rintro ⟨name, descendants, audiences, shape, docs, ⟨⟩⟩ ⟨_, _, _, edited, _, ⟨⟩⟩
    ⟨rfl, rfl, rfl, sameShape, same⟩
  cases same
  exact congrArg (fun shape => TypeDeclaration.mk name descendants audiences shape docs) sameShape

end TypeDeclaration

theorem ErrorDeclaration.respects_read : Respects .errorDeclaration Eq ErrorDeclaration.read := by
  have suits : ErrorDeclaration.record.Suits _ Eq :=
    suits_required (QualifiedName.respects_read _)
      (suits_optional TypeReference.respects_read
        (suits_optional (respects_readNatural _ _) .nil))
  apply (suits.respects_read fun _ => rfl).map
  rintro _ _ rfl
  rfl

theorem ResponseError.respects_read : Respects .responseError Eq ResponseError.read := by
  have suits : ResponseError.record.Suits _ Eq :=
    suits_required (QualifiedName.respects_read _) (suits_optional respects_readText .nil)
  apply (suits.respects_read fun _ => rfl).map
  rintro _ _ rfl
  rfl

theorem Endpoint.respects_read : Respects .endpoint Eq Endpoint.read := by
  have suits : Endpoint.record.Suits _ Eq :=
    suits_required respects_readText
      (suits_required (respects_readChoice _)
        (suits_required respects_readText
          (suits_optional TypeReference.respects_read
            (suits_optional TypeReference.respects_read
              (suits_defaulted ResponseError.respects_read
                (suits_defaulted respects_readText .nil))))))
  apply (suits.respects_read fun _ => rfl).map
  rintro _ _ rfl
  rfl

theorem Service.respects_read : Respects .service Eq Service.read := by
  have suits : Service.record.Suits _ Eq :=
    suits_required ServiceName.respects_read
      (suits_defaulted respects_readText (suits_defaulted Endpoint.respects_read .nil))
  apply (suits.respects_read fun _ => rfl).map
  rintro _ _ rfl
  rfl

theorem Document.respects_read : Respects .document Eq Document.read := by
  have suits : Document.record.Suits _ Eq :=
    suits_required respects_readText
      (suits_defaulted TypeDeclaration.respects_read
        (suits_defaulted ErrorDeclaration.respects_read
          (suits_defaulted Service.respects_read .nil)))
  apply (suits.respects_read fun _ => rfl).map
  rintro _ _ rfl
  rfl

/-! ### Texts -/

/-- Whether edits, done and undone, lead from the document in one text to that in another. -/
structure IsEditedTo (text other : String) : Prop where
  edits : Relation.EqvGen (Edit 0 .document) (Json.readPage text).root (Json.readPage other).root
  trailing : (Json.readPage text).trailing = (Json.readPage other).trailing

theorem Document.read_eq_ok_iff_of_edits {first second : Tree}
    (edits : Relation.EqvGen (Edit 0 .document) first second) (document : Document) :
    read .page first = .ok document ↔ read .page second = .ok document := by
  induction edits with
  | rel first second edit => exact (respects_read rfl edit .page).eq_ok_iff document
  | refl tree => exact Iff.rfl
  | symm first second edits ih => exact ih.symm
  | trans first second third edits others ih ihOthers => exact ih.trans ihOthers

theorem Document.ofText_eq_ok_iff {text : String} {document : Document} :
    ofText text = .ok document ↔
      read .page (Json.readPage text).root = .ok document ∧
        (Json.readPage text).trailing = false := by
  simp only [ofText]
  cases read .page (Json.readPage text).root with
  | error reason => simp
  | ok found => cases (Json.readPage text).trailing <;> simp

/-- A text to which edits lead from a text that is loaded is loaded as the same document. -/
theorem decoding_tolerates_edits {text other : String} {document : Document}
    (edited : IsEditedTo text other) (loaded : Document.ofText text = .ok document) :
    Document.ofText other = .ok document := by
  obtain ⟨found, noneBehind⟩ := Document.ofText_eq_ok_iff.mp loaded
  apply Document.ofText_eq_ok_iff.mpr
  exact ⟨(Document.read_eq_ok_iff_of_edits edited.edits document).mp found,
    edited.trailing ▸ noneBehind⟩

/-- A tag in front of the members that it governs, and a path that is left out. -/
def Document.tidyText : String :=
  "\x7b\"apiName\":\"a\",\"errors\":[\x7b\"name\":\x7b\"name\":\"E\"\x7d," ++
    "\"type\":\x7b\"_type\":\"named\",\"name\":\"A\"\x7d\x7d]\x7d"

/-- The same with the tag behind, the path written out, members in another order and a new one. -/
def Document.untidyText : String :=
  "\x7b\"errors\":[\x7b\"type\":\x7b\"name\":\"A\",\"path\":[],\"_type\":\"named\"\x7d," ++
    "\"name\":\x7b\"name\":\"E\"\x7d\x7d],\"new\":\x7b\"path\":0\x7d,\"apiName\":\"a\"\x7d"

def Document.tidyValue : Json :=
  .object [("apiName", .text "a"), ("errors", .list [.object
    [("name", .object [("name", .text "E")]),
      ("type", .object [("_type", .text "named"), ("name", .text "A")])]])]

def Document.untidyValue : Json :=
  .object [("errors", .list [.object
    [("type", .object [("name", .text "A"), ("path", .list []), ("_type", .text "named")]),
      ("name", .object [("name", .text "E")])]]),
    ("new", .object [("path", .natural 0)]), ("apiName", .text "a")]

/-- What stands in the first text, with something else for its error. -/
def Document.tidyMembers (error : Tree) : List (Key × Tree) :=
  [(.name "apiName", .text "a"), (.name "errors", .list false [error] .closed)]

/-- The error in the first text, with something else for its payload. -/
def Document.tidyError (payload : Tree) : List (Key × Tree) :=
  [(.name "name", .object false [(.name "name", .text "E")] .closed), (.name "type", payload)]

def Document.tidyPayload : List (Key × Tree) :=
  [(.name "_type", .text "named"), (.name "name", .text "A")]

theorem Edit.tidyMembers {first second : Tree} (edit : Edit 2 .errorDeclaration first second) :
    Edit 0 .document (.object false (Document.tidyMembers first) .closed)
      (.object false (Document.tidyMembers second) .closed) :=
  @member 0 .document (.list .errorDeclaration) false [(.name "apiName", .text "a")] [] .closed
    "errors" _ _ rfl (@item 1 _ _ false [] [] .closed _ _ rfl edit)

theorem Edit.tidyError {first second : Tree} (edit : Edit 3 .reference first second) :
    Edit 2 .errorDeclaration (.object false (Document.tidyError first) .closed)
      (.object false (Document.tidyError second) .closed) :=
  @member 2 .errorDeclaration .reference false
    [(.name "name", .object false [(.name "name", .text "E")] .closed)] [] .closed "type" _ _
    rfl edit

theorem Document.tidy_edits :
    Relation.EqvGen (Edit 0 .document) (Tree.ofValue tidyValue) (Tree.ofValue untidyValue) := by
  have pathWritten : Edit 3 .reference (.object false tidyPayload .closed)
      (.object false ((.name "path", .list false [] .closed) :: tidyPayload) .closed) :=
    @Edit.writeOut 3 .reference _ .closed _ ⟨"path", .defaulted, .list .plain⟩ _ rfl (by decide)
      (by decide) rfl
  have tagBehind {path : Key × Tree} : Edit 3 .reference
      (.object false (path :: tidyPayload) .closed)
      (.object false [(.name "name", .text "A"), path, (.name "_type", .text "named")] .closed) :=
    .reorder (List.perm_append_singleton _ [path, _]) nofun
  have payloadFirst {payload : Tree} : Edit 2 .errorDeclaration
      (.object false (tidyError payload) .closed)
      (.object false (tidyError payload).reverse .closed) :=
    .reorder (List.reverse_perm _).symm nofun
  have newMember {error : Tree} : Edit 0 .document
      (.object false (tidyMembers error) .closed)
      (.object false ((.name "new", Tree.ofValue (.object [("path", .natural 0)])) ::
        tidyMembers error) .closed) :=
    .insert rfl (by decide) rfl
  have lastFirst {new : Key × Tree} {error : Tree} : Edit 0 .document
      (.object false (new :: tidyMembers error) .closed)
      (.object false [(.name "errors", .list false [error] .closed), new,
        (.name "apiName", .text "a")] .closed) :=
    .reorder (List.perm_append_singleton _ [new, _]) nofun
  refine .trans _ _ _ (.rel _ _ pathWritten.tidyError.tidyMembers) ?_
  refine .trans _ _ _ (.rel _ _ tagBehind.tidyError.tidyMembers) ?_
  refine .trans _ _ _ (.rel _ _ payloadFirst.tidyMembers) ?_
  exact .trans _ _ _ (.rel _ _ newMember) (.rel _ _ lastFirst)

theorem decoding_tolerates_edits_untidy :
    IsEditedTo Document.tidyText Document.untidyText ∧
      Document.ofText Document.tidyText =
        .ok ⟨"a", [], [⟨⟨[], "E"⟩, some (.named ⟨[], "A"⟩), none⟩], []⟩ ∧
      Document.ofText Document.untidyText =
        .ok ⟨"a", [], [⟨⟨[], "E"⟩, some (.named ⟨[], "A"⟩), none⟩], []⟩ := by
  have tidy : Json.parse Document.tidyText = .ok Document.tidyValue :=
    Json.toOption_eq_some_iff.mp (by decide +kernel)
  have untidy : Json.parse Document.untidyText = .ok Document.untidyValue :=
    Json.toOption_eq_some_iff.mp (by decide +kernel)
  have loaded : Document.ofText Document.tidyText =
      .ok ⟨"a", [], [⟨⟨[], "E"⟩, some (.named ⟨[], "A"⟩), none⟩], []⟩ := by
    rw [Document.ofText_of_parse tidy]
    rfl
  have edited : IsEditedTo Document.tidyText Document.untidyText := by
    constructor
    · rw [Json.readPage_of_parse tidy, Json.readPage_of_parse untidy]
      exact Document.tidy_edits
    · rw [Json.readPage_of_parse tidy, Json.readPage_of_parse untidy]
  exact ⟨edited, loaded, decoding_tolerates_edits edited loaded⟩

end AudienceScope
