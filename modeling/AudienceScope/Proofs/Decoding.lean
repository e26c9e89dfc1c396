import AudienceScope.Proofs.Agreement

/-!
The two ways to load a document. A document is read from a text or from the value that the text
holds; where no object of the text repeats a name, the two give the same document or both refuse.
Main statements: `TypeReference.isSteady_readWithin`, `Document.isSteady_read` and
`decoding_agrees`.
-/

set_option autoImplicit false

namespace AudienceScope

open Json (IsSteady Alike Record Reading Tree Body isSteady_readText splitTag_alike readText)
open Json.Record (isSteady_required isSteady_defaulted isSteady_optional)

theorem QualifiedName.isSteady_record : QualifiedName.record.IsSteady Eq :=
  isSteady_defaulted isSteady_readText (isSteady_required isSteady_readText .nil)

theorem QualifiedName.isSteady_read (phrase : String) :
    IsSteady Eq (QualifiedName.read phrase) :=
  (isSteady_record.read (by decide)).map fun _ _ => congrArg ofMembers

theorem ServiceName.isSteady_read : IsSteady Eq ServiceName.read := by
  have steady : ServiceName.record.IsSteady Eq :=
    isSteady_required isSteady_readText.list .nil
  apply (steady.read (by decide)).map
  rintro _ _ rfl
  rfl

theorem Json.Body.Sorts.readSingle {α β : Type} {first second : Body}
    (sorts : first.Sorts second) {phrase name : String} {read : Reading α}
    (steady : IsSteady Eq read) (build : α → β) :
    Alike Eq
      (first.readRecord phrase (.required name read .nil) >>= fun (value, ()) =>
        pure (build value))
      (second.readRecord phrase (.required name read .nil) >>= fun (value, ()) =>
        pure (build value)) := by
  have known : (Record.required name read .nil).names.Nodup := List.nodup_singleton name
  apply (sorts.readRecord known (isSteady_required steady .nil)).bind
  rintro ⟨value, ⟨⟩⟩ _ rfl
  exact .read rfl

theorem Literal.isSteady_read : IsSteady Eq Literal.read := by
  intro origin other pairs value distinct
  apply (splitTag_alike pairs distinct).bind
  rintro ⟨tag, first⟩ ⟨_, second⟩ ⟨rfl, sorts⟩
  cases tag with
  | string => exact sorts.readSingle isSteady_readText _
  | boolean => exact sorts.readSingle Json.isSteady_readBoolean _

namespace TypeReference

theorem isSteady_readContainer {readInner : Reading TypeReference}
    (steady : IsSteady Eq readInner) : IsSteady Eq (readContainer readInner) := by
  intro origin other pairs value distinct
  apply (splitTag_alike pairs distinct).bind
  rintro ⟨tag, first⟩ ⟨_, second⟩ ⟨rfl, sorts⟩
  cases tag with
  | list => exact sorts.readSingle steady _
  | optional => exact sorts.readSingle steady _
  | set => exact sorts.readSingle steady _
  | literal => exact sorts.readSingle Literal.isSteady_read _
  | map =>
      have names : ["keyType", "valueType"].Nodup := by decide
      have entries : Record.IsSteady Eq
          (.required "keyType" readInner (.required "valueType" readInner .nil)) :=
        isSteady_required steady (isSteady_required steady .nil)
      have known : (Record.required "keyType" readInner
          (.required "valueType" readInner .nil)).names.Nodup := names
      apply (sorts.readRecord known entries).bind
      rintro ⟨key, value, ⟨⟩⟩ _ rfl
      exact .read rfl

/-- References of every depth are read alike, by induction on how deep a reader looks. -/
theorem isSteady_readWithin (fuel : Nat) : IsSteady Eq (readWithin fuel) := by
  induction fuel with
  | zero => exact fun _ _ _ _ _ => .refused _ _
  | succ fuel ih =>
      intro origin other pairs value distinct
      apply (splitTag_alike pairs distinct).bind
      rintro ⟨tag, first⟩ ⟨_, second⟩ ⟨rfl, sorts⟩
      cases tag with
      | container => exact sorts.readSingle (isSteady_readContainer ih) id
      | named =>
          apply (sorts.readRecord (by decide) QualifiedName.isSteady_record).bind
          rintro name _ rfl
          exact .read rfl
      | primitive => exact sorts.readSingle (Json.isSteady_readChoice _) _
      | unknown =>
          apply sorts.readNothing.bind
          rintro ⟨⟩ _ rfl
          exact .read rfl
      | void =>
          apply sorts.readNothing.bind
          rintro ⟨⟩ _ rfl
          exact .read rfl

theorem isSteady_read : IsSteady Eq read := by
  intro origin other pairs value distinct
  unfold read
  rw [Json.depth_canonical value distinct]
  exact isSteady_readWithin _ pairs value distinct

end TypeReference

theorem Json.toCanonical_canonical (value : Json) :
    value.canonical.toCanonical = value.toCanonical :=
  value.toCanonical.toCanonical_value

namespace TypeDeclaration

/-- Whether two shapes, along with what is read behind them, are the same in canonical form. -/
def SameShape (first second : Option Json × Option String × Unit) : Prop :=
  first.1.map Json.toCanonical = second.1.map Json.toCanonical ∧ first.2 = second.2

/-- A shape is kept as it stands at first, so the shapes that are read from a text and from its
value may differ in the order of their members. -/
theorem isSteady_shape : Record.IsSteady SameShape
    (.optional "shape" Json.readAny (.optional "docs" readText .nil)) := by
  have docs : Record.IsSteady Eq (.optional "docs" readText .nil) :=
    isSteady_optional isSteady_readText .nil
  have shape : IsSteady (fun first second : Option Json =>
      first.map Json.toCanonical = second.map Json.toCanonical) (Json.readOption Json.readAny) := by
    apply IsSteady.option Json.isSteady_readAny
    · rfl
    · rintro value _ rfl
      exact congrArg some value.toCanonical_canonical.symm
  exact .cons shape (fun _ _ => rfl) docs fun _ _ => And.intro

theorem isSteady_read : IsSteady Eq read := by
  have audiences : Record.IsSteady _ (.defaulted "audiences" readText _) :=
    .cons isSteady_readText.list (fun _ _ => rfl) isSteady_shape fun _ _ => And.intro
  have descendants : Record.IsSteady _ (.defaulted "descendants" QualifiedName.readType _) :=
    .cons (QualifiedName.isSteady_read _).list (fun _ _ => rfl) audiences fun _ _ => And.intro
  have steady : record.IsSteady _ :=
    .cons (QualifiedName.isSteady_read _) nofun descendants fun _ _ => And.intro
  apply (steady.read (by decide)).map
  rintro ⟨name, descendants, audiences, shape, docs, ⟨⟩⟩ ⟨_, _, _, sorted, _, ⟨⟩⟩
    ⟨rfl, rfl, rfl, sameShape, same⟩
  cases same
  exact congrArg (fun shape => TypeDeclaration.mk name descendants audiences shape docs) sameShape

end TypeDeclaration

theorem ErrorDeclaration.isSteady_read : IsSteady Eq ErrorDeclaration.read := by
  have steady : ErrorDeclaration.record.IsSteady Eq :=
    isSteady_required (QualifiedName.isSteady_read _)
      (isSteady_optional TypeReference.isSteady_read
        (isSteady_optional (Json.isSteady_readNatural _ _) .nil))
  apply (steady.read (by decide)).map
  rintro _ _ rfl
  rfl

theorem ResponseError.isSteady_read : IsSteady Eq ResponseError.read := by
  have steady : ResponseError.record.IsSteady Eq :=
    isSteady_required (QualifiedName.isSteady_read _) (isSteady_optional isSteady_readText .nil)
  apply (steady.read (by decide)).map
  rintro _ _ rfl
  rfl

theorem Endpoint.isSteady_read : IsSteady Eq Endpoint.read := by
  have steady : Endpoint.record.IsSteady Eq :=
    isSteady_required isSteady_readText
      (isSteady_required (Json.isSteady_readChoice _)
        (isSteady_required isSteady_readText
          (isSteady_optional TypeReference.isSteady_read
            (isSteady_optional TypeReference.isSteady_read
              (isSteady_defaulted ResponseError.isSteady_read
                (isSteady_defaulted isSteady_readText .nil))))))
  apply (steady.read (by decide)).map
  rintro _ _ rfl
  rfl

theorem Service.isSteady_read : IsSteady Eq Service.read := by
  have steady : Service.record.IsSteady Eq :=
    isSteady_required ServiceName.isSteady_read
      (isSteady_defaulted isSteady_readText (isSteady_defaulted Endpoint.isSteady_read .nil))
  apply (steady.read (by decide)).map
  rintro _ _ rfl
  rfl

theorem Document.isSteady_read : IsSteady Eq Document.read := by
  have steady : Document.record.IsSteady Eq :=
    isSteady_required isSteady_readText
      (isSteady_defaulted TypeDeclaration.isSteady_read
        (isSteady_defaulted ErrorDeclaration.isSteady_read
          (isSteady_defaulted Service.isSteady_read .nil)))
  apply (steady.read (by decide)).map
  rintro _ _ rfl
  rfl

/-! ### Documents -/

theorem Json.readPage_of_parse {text : String} {value : Json}
    (parsed : Json.parse text = .ok value) : Json.readPage text = ⟨Tree.ofValue value, false⟩ := by
  cases page : Json.readPage text with
  | mk root trailing =>
      simp only [Json.parse, page, Tree.toValue] at parsed
      cases faultless : root.fault? with
      | some fault =>
          rw [faultless] at parsed
          cases parsed
      | none =>
          rw [faultless] at parsed
          cases trailing with
          | true => cases parsed
          | false =>
              cases parsed
              rw [Json.ofValue_bareValue root faultless]

theorem Document.ofText_of_parse {text : String} {value : Json}
    (parsed : Json.parse text = .ok value) :
    Document.ofText text = read .page (Tree.ofValue value) := by
  simp only [Document.ofText, Json.readPage_of_parse parsed]
  cases read .page (Tree.ofValue value) <;> rfl

/-- A text in which no object repeats a name is loaded as the value is that it holds: both give
the same document, or both are refused. -/
theorem decoding_agrees {text : String} {value : Json} (parsed : Json.parse text = .ok value)
    (distinct : value.hasDistinctNames = true) :
    (∀ document, Document.ofText text = .ok document ↔ Document.ofJson value = .ok document) ∧
      ((∃ reason, Document.ofText text = .error reason) ↔
        ∃ reason, Document.ofJson value = .error reason) := by
  have alike : Alike Eq (Document.ofText text) (Document.ofJson value) := by
    rw [Document.ofText_of_parse parsed]
    exact Document.isSteady_read .inPlace value distinct
  exact ⟨alike.eq_ok_iff, alike.exists_error_iff⟩

/-- Records and tagged values as lists and as objects with the tag behind, a method as an object, a
member that is `null`, members left out, and members out of order. -/
def Document.mixedText : String :=
  "[\"a\",[[\x7b\"name\":\"A\"\x7d,[],[],\x7b\"b\":0,\"a\":1\x7d]],[],[[[[]],[]," ++
    "[\x7b\"path\":\"/\",\"method\":\x7b\"GET\":null\x7d,\"name\":\"r\",\"request\":null," ++
      "\"response\":[\"container\",\x7b\"list\":[\"void\"],\"_type\":\"list\"\x7d]\x7d]]]]"

def Document.mixedValue : Json :=
  .list [.text "a",
    .list [.list [.object [("name", .text "A")], .list [], .list [],
      .object [("b", .natural 0), ("a", .natural 1)]]],
    .list [],
    .list [.list [.list [.list []], .list [], .list [.object [("path", .text "/"),
      ("method", .object [("GET", .null)]), ("name", .text "r"), ("request", .null),
      ("response", .list [.text "container",
        .object [("list", .list [.text "void"]), ("_type", .text "list")]])]]]]]

def Document.mixed : Document where
  apiName := "a"
  types := [⟨⟨[], "A"⟩, [], [], some (Json.toCanonical
    (.object [("a", .natural 1), ("b", .natural 0)])), none⟩]
  errors := []
  services := [⟨⟨[]⟩, [], [⟨"r", .get, "/", none, some (.list .void), [], []⟩]⟩]

theorem decoding_agrees_mixed :
    Json.parse Document.mixedText = .ok Document.mixedValue ∧
      Document.mixedValue.hasDistinctNames = true ∧
        Document.ofText Document.mixedText = .ok .mixed ∧
          Document.ofJson Document.mixedValue = .ok .mixed := by
  have scanned : (Json.parse Document.mixedText).toOption = some Document.mixedValue := by
    decide +kernel
  have parsed : Json.parse Document.mixedText = .ok Document.mixedValue := by
    cases found : Json.parse Document.mixedText with
    | error fault =>
        rw [found] at scanned
        cases scanned
    | ok value =>
        rw [found] at scanned
        rw [Option.some.inj scanned]
  have distinct : Document.mixedValue.hasDistinctNames = true := by decide +kernel
  have loaded : Document.ofText Document.mixedText = .ok .mixed := by
    rw [Document.ofText_of_parse parsed]
    rfl
  have agrees := decoding_agrees parsed distinct
  exact ⟨parsed, distinct, loaded, (agrees.1 .mixed).mp loaded⟩

end AudienceScope
