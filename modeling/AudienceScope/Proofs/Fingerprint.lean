import AudienceScope.Manifest
import AudienceScope.Proofs.Backing
import Mathlib.Data.List.TakeWhile

/-!
What the bytes behind a tag tell about a manifest. The end mark of a section occurs in no UTF-8
text, so the sections can be told apart. Within a section every identifier stands between zero
characters, and these are not escaped in names: a path that holds one makes one identifier look like
two. Where no path does, identifiers can be read off from the end, because a simple name holds no
colon once it is escaped, and a manifest that was computed for a document can be recovered. Main
statements: `etagInput_eq_iff_framed`, `framed_inj`, `etagInput_eq_iff_of_plain_documents` and
`etag_identifies_manifest`.
-/

set_option autoImplicit false

namespace AudienceScope

section Marks

variable {α : Type} {mark : α} {first second rest others : List α}

private theorem append_inj_of_first_mark (unmarked : mark ∉ first) (otherUnmarked : mark ∉ second)
    (same : first ++ mark :: rest = second ++ mark :: others) : first = second ∧ rest = others := by
  induction first generalizing second with
  | nil =>
      cases second with
      | nil => exact ⟨rfl, (List.cons.inj same).2⟩
      | cons head tail =>
          exact absurd ((List.cons.inj same).1 ▸ List.mem_cons_self) otherUnmarked
  | cons head first ih =>
      cases second with
      | nil => exact absurd ((List.cons.inj same).1 ▸ List.mem_cons_self) unmarked
      | cons otherHead tail =>
          obtain ⟨sameHead, sameTail⟩ := List.cons.inj same
          obtain ⟨sameFirst, sameRest⟩ := ih (List.not_mem_of_not_mem_cons unmarked)
            (List.not_mem_of_not_mem_cons otherUnmarked) sameTail
          exact ⟨by rw [sameHead, sameFirst], sameRest⟩

private theorem append_inj_of_last_mark (unmarked : mark ∉ rest) (otherUnmarked : mark ∉ others)
    (same : first ++ mark :: rest = second ++ mark :: others) : first = second ∧ rest = others := by
  have reversed : rest.reverse ++ mark :: first.reverse =
      others.reverse ++ mark :: second.reverse := by
    simpa using congrArg List.reverse same
  obtain ⟨sameRest, sameFirst⟩ := append_inj_of_first_mark
    (mt List.mem_reverse.mp unmarked) (mt List.mem_reverse.mp otherUnmarked) reversed
  exact ⟨List.reverse_inj.mp sameFirst, List.reverse_inj.mp sameRest⟩

end Marks

namespace Manifest

private theorem toList_loop (bytes : ByteArray) (position : Nat) (reversed : List UInt8) :
    ByteArray.toList.loop bytes position reversed =
      reversed.reverse ++ bytes.data.toList.drop position := by
  fun_induction ByteArray.toList.loop bytes position reversed with
  | case1 position reversed inside ih =>
      have bounded : position < bytes.data.toList.length := by simpa using inside
      have byte : bytes.get! position = bytes.data.toList[position] := by
        have read : bytes.get! position = bytes.data[position]! := rfl
        rw [read, getElem!_pos bytes.data position inside, Array.getElem_toList]
      rw [ih, List.drop_eq_getElem_cons bounded, byte, List.reverse_cons, List.append_assoc]
      rfl
  | case2 position reversed outside =>
      have past : bytes.data.toList.length ≤ position := by simpa using Nat.le_of_not_lt outside
      rw [List.drop_eq_nil_of_le past, List.append_nil]

theorem utf8_eq (text : String) : utf8 text = text.toList.flatMap String.utf8EncodeChar := by
  rw [utf8, String.toUTF8_eq_toByteArray, ← String.utf8Encode_toList, ByteArray.toList, toList_loop,
    List.utf8Encode, List.toList_data_toByteArray]
  rfl

theorem encode_injective {chars others : List Char}
    (same : chars.flatMap String.utf8EncodeChar = others.flatMap String.utf8EncodeChar) :
    chars = others := by
  have bytes : (String.ofList chars).toByteArray = (String.ofList others).toByteArray := by
    rw [← String.utf8Encode_toList, ← String.utf8Encode_toList, String.toList_ofList,
      String.toList_ofList, List.utf8Encode, List.utf8Encode, same]
  exact String.ofList_inj.mp (String.toByteArray_inj.mp bytes)

private theorem endMark_ne_ofNat {value : Nat} (small : value < 255) :
    (0xff : UInt8) ≠ UInt8.ofNat value := by
  intro same
  have sameValue : 255 = value % 2 ^ 8 :=
    (congrArg UInt8.toNat same).trans UInt8.toNat_ofNat'
  omega

theorem endMark_not_mem_utf8EncodeChar (c : Char) : (0xff : UInt8) ∉ String.utf8EncodeChar c := by
  unfold String.utf8EncodeChar
  dsimp only
  split_ifs <;> simp (disch := omega) only [List.mem_cons, List.not_mem_nil, endMark_ne_ofNat,
    or_false, not_false_eq_true]

theorem endMark_not_mem_encode (chars : List Char) :
    (0xff : UInt8) ∉ chars.flatMap String.utf8EncodeChar := by
  intro member
  obtain ⟨c, _, byte⟩ := List.mem_flatMap.mp member
  exact endMark_not_mem_utf8EncodeChar c byte

/-! ### Sections -/

/-- The identifiers of a section, each behind a zero character. -/
def framed (texts : List String) : List Char := texts.flatMap fun text => '\x00' :: text.toList

theorem framed_cons (text : String) (texts : List String) :
    framed (text :: texts) = '\x00' :: (text.toList ++ framed texts) :=
  List.flatMap_cons

theorem framed_concat (texts : List String) (text : String) :
    framed (texts ++ [text]) = framed texts ++ '\x00' :: text.toList := by
  rw [framed, framed, List.flatMap_append, List.flatMap_singleton]

theorem framed_concat_ne_nil (texts : List String) (text : String) :
    framed (texts ++ [text]) ≠ [] := by
  rw [framed_concat]
  exact List.append_ne_nil_of_right_ne_nil _ (List.cons_ne_nil _ _)

theorem encode_text (text : String) (rest : List Char) :
    ('\x00' :: (text.toList ++ rest)).flatMap String.utf8EncodeChar =
      0x00 :: (utf8 text ++ rest.flatMap String.utf8EncodeChar) := by
  rw [List.flatMap_cons, List.flatMap_append, utf8_eq]
  rfl

theorem encode_framed (texts : List String) :
    0x00 :: texts.flatMap (fun text => utf8 text ++ [0x00]) =
      (framed texts ++ ['\x00']).flatMap String.utf8EncodeChar := by
  induction texts with
  | nil => rfl
  | cons text texts ih =>
      calc 0x00 :: (text :: texts).flatMap (fun text => utf8 text ++ [0x00])
          = 0x00 :: (utf8 text ++ 0x00 :: texts.flatMap fun text => utf8 text ++ [0x00]) := by
            rw [List.flatMap_cons, List.append_assoc]
            rfl
        _ = 0x00 :: (utf8 text ++ (framed texts ++ ['\x00']).flatMap String.utf8EncodeChar) := by
            rw [ih]
        _ = ('\x00' :: (text.toList ++ (framed texts ++ ['\x00']))).flatMap
            String.utf8EncodeChar := (encode_text text _).symm
        _ = (framed (text :: texts) ++ ['\x00']).flatMap String.utf8EncodeChar := by
            rw [framed_cons, List.cons_append, List.append_assoc]

theorem etagSection_eq (name : String) (texts : List String) :
    etagSection name texts =
      (name.toList ++ (framed texts ++ ['\x00'])).flatMap String.utf8EncodeChar ++ [0xff] := by
  rw [List.flatMap_append, ← encode_framed, etagSection, utf8_eq, List.append_assoc]
  rfl

theorem etagSection_append_inj {name : String} {texts others : List String}
    {rest otherRest : List UInt8}
    (same : etagSection name texts ++ rest = etagSection name others ++ otherRest) :
    framed texts = framed others ∧ rest = otherRest := by
  rw [etagSection_eq, etagSection_eq, List.append_assoc, List.append_assoc] at same
  obtain ⟨sameText, sameRest⟩ := append_inj_of_first_mark (endMark_not_mem_encode _)
    (endMark_not_mem_encode _) same
  have sameFrame := List.append_cancel_left (encode_injective sameText)
  exact ⟨List.append_cancel_right sameFrame, sameRest⟩

theorem etagSection_congr {name : String} {texts others : List String}
    (same : framed texts = framed others) : etagSection name texts = etagSection name others := by
  rw [etagSection_eq, etagSection_eq, same]

def framedIds {kind : DeclarationKind} (ids : IdSet kind) : List Char :=
  framed (ids.toList.map Id.text)

/-- What the hashed bytes tell about any manifest, also about one that belongs to no document. -/
theorem etagInput_eq_iff_framed {manifest other : Manifest} :
    manifest.etagInput = other.etagInput ↔
      framedIds manifest.types = framedIds other.types ∧
      framedIds manifest.errors = framedIds other.errors ∧
      framedIds manifest.services = framedIds other.services ∧
      framedIds manifest.endpoints = framedIds other.endpoints := by
  constructor
  · intro same
    rw [etagInput, etagInput, List.append_assoc, List.append_assoc, List.append_assoc,
      List.append_assoc] at same
    obtain ⟨types, same⟩ := etagSection_append_inj same
    obtain ⟨errors, same⟩ := etagSection_append_inj same
    obtain ⟨services, same⟩ := etagSection_append_inj same
    have closed := congrArg (· ++ []) same
    exact ⟨types, errors, services, (etagSection_append_inj closed).1⟩
  · intro same
    obtain ⟨types, errors, services, endpoints⟩ := same
    rw [etagInput, etagInput, etagSection_congr types, etagSection_congr errors,
      etagSection_congr services, etagSection_congr endpoints]

/-- The last identifier is read first, and what precedes it is a shorter section. -/
theorem framed_inj {texts others : List String}
    (readable : ∀ text ∈ texts, ∀ other ∈ others, ∀ front otherFront : List Char,
      front ++ '\x00' :: text.toList = otherFront ++ '\x00' :: other.toList →
        front = otherFront ∧ text = other)
    (same : framed texts = framed others) : texts = others := by
  induction texts using List.reverseRecOn generalizing others with
  | nil =>
      cases others using List.reverseRecOn with
      | nil => rfl
      | append_singleton others other => exact absurd same.symm (framed_concat_ne_nil others other)
  | append_singleton texts text ih =>
      cases others using List.reverseRecOn with
      | nil => exact absurd same (framed_concat_ne_nil texts text)
      | append_singleton others other =>
          rw [framed_concat, framed_concat] at same
          obtain ⟨sameFront, sameText⟩ := readable text List.mem_concat_self other
            List.mem_concat_self _ _ same
          have sameTexts := ih (fun text member other otherMember =>
            readable text (List.mem_append_left _ member) other
              (List.mem_append_left _ otherMember)) sameFront
          rw [sameTexts, sameText]

end Manifest

namespace Ident

theorem zero_mem_escape_iff {raw : List Char} : '\x00' ∈ escape raw ↔ '\x00' ∈ raw := by
  have escaped (c : Char) : '\x00' ∈ escapeChar c ↔ c = '\x00' := by
    unfold escapeChar
    split_ifs <;> simp_all [eq_comm]
  simp only [escape, List.mem_flatMap, escaped, exists_eq_right]

theorem zero_not_mem_pathText_iff {path : DeclarationPath} :
    '\x00' ∉ pathText path ↔ ∀ segment ∈ path, '\x00' ∉ segment.toList := by
  have notSlash : '\x00' ∉ ['/'] := by decide
  simp only [pathText, List.mem_flatMap, List.mem_append, zero_mem_escape_iff, notSlash, or_false,
    not_exists, not_and]

theorem takeWhile_pathText (path : DeclarationPath) :
    (pathText path).takeWhile (· ≠ ':') = pathText path := by
  refine List.takeWhile_eq_self_iff.mpr fun c member => decide_eq_true fun colon => ?_
  exact colon_not_mem_pathText path (colon ▸ member)

/-- A simple name begins behind the last colon, whatever it holds, and a path behind the last zero
character before that. -/
theorem qualifiedText_read_back {path other : DeclarationPath} {name otherName : String}
    {front otherFront : List Char} (plain : '\x00' ∉ pathText path)
    (otherPlain : '\x00' ∉ pathText other)
    (same : front ++ '\x00' :: qualifiedText path name =
      otherFront ++ '\x00' :: qualifiedText other otherName) :
    front = otherFront ∧ qualifiedText path name = qualifiedText other otherName := by
  have regrouped : (front ++ '\x00' :: pathText path) ++ ':' :: escape name.toList =
      (otherFront ++ '\x00' :: pathText other) ++ ':' :: escape otherName.toList := by
    rw [List.append_assoc, List.append_assoc]
    exact same
  obtain ⟨samePath, sameName⟩ := append_inj_of_last_mark (colon_not_mem_escape _)
    (colon_not_mem_escape _) regrouped
  obtain ⟨sameFront, samePath⟩ := append_inj_of_last_mark plain otherPlain samePath
  exact ⟨sameFront, by rw [qualifiedText, qualifiedText, samePath, sameName]⟩

end Ident

/-! ### Plain paths -/

namespace Id

variable {kind : DeclarationKind}

/-- No zero character stands before the first colon, which is where a path ends. -/
def HasPlainPath (id : Id kind) : Prop := '\x00' ∉ id.text.toList.takeWhile (· ≠ ':')

instance (id : Id kind) : Decidable id.HasPlainPath := inferInstanceAs (Decidable (_ ∉ _))

def IsQualified (id : Id kind) : Prop :=
  ∃ path name, id = ⟨String.ofList (Ident.qualifiedText path name)⟩

theorem hasPlainPath_qualified_iff {path : DeclarationPath} {name : String} :
    (⟨String.ofList (Ident.qualifiedText path name)⟩ : Id kind).HasPlainPath ↔
      '\x00' ∉ Ident.pathText path := by
  rw [HasPlainPath, String.toList_ofList, Ident.takeWhile_qualifiedText]

theorem IsQualified.read_back {id other : Id kind} (qualified : id.IsQualified)
    (otherQualified : other.IsQualified) (plain : id.HasPlainPath) (otherPlain : other.HasPlainPath)
    {front otherFront : List Char}
    (same : front ++ '\x00' :: id.text.toList = otherFront ++ '\x00' :: other.text.toList) :
    front = otherFront ∧ id = other := by
  obtain ⟨path, name, rfl⟩ := qualified
  obtain ⟨otherPath, otherName, rfl⟩ := otherQualified
  rw [String.toList_ofList, String.toList_ofList] at same
  obtain ⟨sameFront, sameText⟩ := Ident.qualifiedText_read_back
    (hasPlainPath_qualified_iff.mp plain) (hasPlainPath_qualified_iff.mp otherPlain) same
  exact ⟨sameFront, by rw [sameText]⟩

end Id

namespace QualifiedName

theorem isQualified_typeId (name : QualifiedName) : name.typeId.IsQualified :=
  ⟨name.path, name.name, rfl⟩

theorem isQualified_errorId (name : QualifiedName) : name.errorId.IsQualified :=
  ⟨name.path, name.name, rfl⟩

end QualifiedName

namespace ServiceName

theorem isQualified_endpointId (service : ServiceName) (endpoint : Endpoint) :
    (service.endpointId endpoint).IsQualified :=
  ⟨service.path, endpoint.name, rfl⟩

theorem hasPlainPath_id_iff {service : ServiceName} :
    service.id.HasPlainPath ↔ '\x00' ∉ Ident.pathText service.path := by
  rw [Id.HasPlainPath, id, String.toList_ofList, Ident.takeWhile_pathText]

theorem hasPlainPath_endpointId {service : ServiceName} (plain : service.id.HasPlainPath)
    (endpoint : Endpoint) : (service.endpointId endpoint).HasPlainPath :=
  Id.hasPlainPath_qualified_iff.mpr (hasPlainPath_id_iff.mp plain)

theorem read_back {service other : ServiceName} (plain : service.id.HasPlainPath)
    (otherPlain : other.id.HasPlainPath) {front otherFront : List Char}
    (same : front ++ '\x00' :: service.id.text.toList =
      otherFront ++ '\x00' :: other.id.text.toList) :
    front = otherFront ∧ service.id = other.id := by
  rw [id, id, String.toList_ofList, String.toList_ofList] at same
  obtain ⟨sameFront, samePath⟩ := append_inj_of_last_mark (hasPlainPath_id_iff.mp plain)
    (hasPlainPath_id_iff.mp otherPlain) same
  exact ⟨sameFront, by rw [id, id, samePath]⟩

end ServiceName

namespace Document

def NamesType (document : Document) (name : QualifiedName) : Prop :=
  ∃ declaration ∈ document.types, name ∈ declaration.name :: declaration.descendants

/-- No segment of a path holds a zero character. -/
structure HasPlainPaths (document : Document) : Prop where
  types : ∀ name, document.NamesType name → ∀ segment ∈ name.path, '\x00' ∉ segment.toList
  errors : ∀ declaration ∈ document.errors, ∀ segment ∈ declaration.name.path,
    '\x00' ∉ segment.toList
  services : ∀ service ∈ document.services, ∀ segment ∈ service.name.path, '\x00' ∉ segment.toList

end Document

namespace Manifest

/-- No retained declaration has a zero character in its path. The simple names may hold some. -/
structure HasPlainPaths (manifest : Manifest) : Prop where
  types : ∀ id ∈ manifest.types, id.HasPlainPath
  errors : ∀ id ∈ manifest.errors, id.HasPlainPath
  services : ∀ id ∈ manifest.services, id.HasPlainPath

instance (manifest : Manifest) : Decidable manifest.HasPlainPaths :=
  decidable_of_iff
    ((∀ id ∈ manifest.types.toList, id.HasPlainPath) ∧
      (∀ id ∈ manifest.errors.toList, id.HasPlainPath) ∧
        ∀ id ∈ manifest.services.toList, id.HasPlainPath)
    ⟨fun plain => ⟨plain.1, plain.2.1, plain.2.2⟩,
      fun plain => ⟨plain.types, plain.errors, plain.services⟩⟩

theorem framedIds_inj {kind : DeclarationKind} {ids others : IdSet kind}
    (readable : ∀ id ∈ ids, ∀ other ∈ others, ∀ front otherFront : List Char,
      front ++ '\x00' :: id.text.toList = otherFront ++ '\x00' :: other.text.toList →
        front = otherFront ∧ id = other)
    (same : framedIds ids = framedIds others) : ids = others := by
  have sameTexts : ids.toList.map Id.text = others.toList.map Id.text := by
    refine framed_inj ?_ same
    intro text member otherText otherMember front otherFront sameEnd
    obtain ⟨id, kept, rfl⟩ := List.mem_map.mp member
    obtain ⟨other, otherKept, rfl⟩ := List.mem_map.mp otherMember
    obtain ⟨sameFront, sameId⟩ := readable id kept other otherKept front otherFront sameEnd
    exact ⟨sameFront, congrArg Id.text sameId⟩
  have injective : Function.Injective (Id.text : Id kind → String) := by
    intro id other sameText
    cases id
    exact congrArg Id.mk sameText
  have sameList : ids.toList = others.toList := List.map_injective_iff.mpr injective sameTexts
  exact OrderedSet.ext_mem fun id => by rw [OrderedSet.mem_iff, OrderedSet.mem_iff, sameList]

theorem framedIds_inj_of_qualified {kind : DeclarationKind} {ids others : IdSet kind}
    (qualified : ∀ id ∈ ids, id.IsQualified ∧ id.HasPlainPath)
    (otherQualified : ∀ id ∈ others, id.IsQualified ∧ id.HasPlainPath)
    (same : framedIds ids = framedIds others) : ids = others :=
  framedIds_inj (fun id kept other otherKept _ _ =>
    (qualified id kept).1.read_back (otherQualified other otherKept).1 (qualified id kept).2
      (otherQualified other otherKept).2) same

namespace IsBackedBy

variable {manifest : Manifest} {document : Document} (backed : manifest.IsBackedBy document)
include backed

theorem type_named {id : TypeId} (kept : id ∈ manifest.types) :
    ∃ name, document.NamesType name ∧ name.typeId = id := by
  rcases backed.types id kept with ⟨declaration, declares, same⟩ | ⟨_, _, declaration, last, listed⟩
  · exact ⟨declaration.name, ⟨declaration, declares, List.mem_cons_self⟩, same⟩
  · obtain ⟨name, member, same⟩ := List.mem_map.mp (OrderedSet.mem_ofList.mp listed)
    have declares : declaration ∈ document.types := (Document.mem_of_lastType? last).1
    exact ⟨name, ⟨declaration, declares, List.mem_cons_of_mem _ member⟩, same⟩

theorem isQualified_type {id : TypeId} (kept : id ∈ manifest.types) : id.IsQualified := by
  obtain ⟨name, _, rfl⟩ := backed.type_named kept
  exact name.isQualified_typeId

theorem isQualified_error {id : ErrorId} (kept : id ∈ manifest.errors) : id.IsQualified := by
  obtain ⟨declaration, _, rfl⟩ := backed.errors id kept
  exact declaration.name.isQualified_errorId

theorem isQualified_endpoint (plain : manifest.HasPlainPaths) {id : EndpointId}
    (kept : id ∈ manifest.endpoints) : id.IsQualified ∧ id.HasPlainPath := by
  obtain ⟨declared, _, rfl, held⟩ := backed.endpoints id kept
  exact ⟨declared.1.isQualified_endpointId declared.2,
    ServiceName.hasPlainPath_endpointId (plain.services _ held) declared.2⟩

theorem hasPlainPaths (plain : document.HasPlainPaths) : manifest.HasPlainPaths where
  types id kept := by
    obtain ⟨name, names, rfl⟩ := backed.type_named kept
    exact Id.hasPlainPath_qualified_iff.mpr
      (Ident.zero_not_mem_pathText_iff.mpr (plain.types name names))
  errors id kept := by
    obtain ⟨declaration, declares, rfl⟩ := backed.errors id kept
    exact Id.hasPlainPath_qualified_iff.mpr
      (Ident.zero_not_mem_pathText_iff.mpr (plain.errors declaration declares))
  services id kept := by
    obtain ⟨service, declares, rfl⟩ := backed.services id kept
    exact ServiceName.hasPlainPath_id_iff.mpr
      (Ident.zero_not_mem_pathText_iff.mpr (plain.services service declares))

end IsBackedBy

theorem IsBackedBy.etagInput_inj {manifest otherManifest : Manifest} {document other : Document}
    (backed : manifest.IsBackedBy document) (otherBacked : otherManifest.IsBackedBy other)
    (plain : manifest.HasPlainPaths) (otherPlain : otherManifest.HasPlainPaths)
    (same : manifest.etagInput = otherManifest.etagInput) : manifest = otherManifest := by
  obtain ⟨sameTypes, sameErrors, sameServices, sameEndpoints⟩ := etagInput_eq_iff_framed.mp same
  have types : manifest.types = otherManifest.types := framedIds_inj_of_qualified
    (fun id kept => ⟨backed.isQualified_type kept, plain.types id kept⟩)
    (fun id kept => ⟨otherBacked.isQualified_type kept, otherPlain.types id kept⟩) sameTypes
  have errors : manifest.errors = otherManifest.errors := framedIds_inj_of_qualified
    (fun id kept => ⟨backed.isQualified_error kept, plain.errors id kept⟩)
    (fun id kept => ⟨otherBacked.isQualified_error kept, otherPlain.errors id kept⟩) sameErrors
  have services : manifest.services = otherManifest.services := by
    refine framedIds_inj (fun id kept otherId otherKept front otherFront sameEnd => ?_) sameServices
    obtain ⟨service, _, rfl⟩ := backed.services id kept
    obtain ⟨otherService, _, rfl⟩ := otherBacked.services otherId otherKept
    exact ServiceName.read_back (plain.services _ kept) (otherPlain.services _ otherKept) sameEnd
  have endpoints : manifest.endpoints = otherManifest.endpoints := framedIds_inj_of_qualified
    (fun _ kept => backed.isQualified_endpoint plain kept)
    (fun _ kept => otherBacked.isQualified_endpoint otherPlain kept) sameEndpoints
  calc manifest
      = ⟨manifest.types, manifest.errors, manifest.services, manifest.endpoints⟩ := rfl
    _ = ⟨otherManifest.types, otherManifest.errors, otherManifest.services,
          otherManifest.endpoints⟩ := by rw [types, errors, services, endpoints]
    _ = otherManifest := rfl

end Manifest

/-- For documents without a zero character in a path, whatever is selected, the bytes that are hashed
tell manifests apart. -/
theorem etagInput_eq_iff_of_plain_documents {document other : Document}
    (plain : document.HasPlainPaths) (otherPlain : other.HasPlainPaths)
    {selection otherSelection : Selection} {manifest otherManifest : Manifest}
    (found : document.filter selection = .ok manifest)
    (foundOther : other.filter otherSelection = .ok otherManifest) :
    manifest.etagInput = otherManifest.etagInput ↔ manifest = otherManifest := by
  have backed := Manifest.isBackedBy_of_filter found
  have otherBacked := Manifest.isBackedBy_of_filter foundOther
  exact ⟨backed.etagInput_inj otherBacked (backed.hasPlainPaths plain)
    (otherBacked.hasPlainPaths otherPlain), congrArg Manifest.etagInput⟩

def Sha256.Collides (first second : List UInt8) : Prop :=
  first ≠ second ∧ hexDigest first = hexDigest second

/-- Collisions of the digest apart, equal tags mean equal manifests, if no path holds a zero
character. -/
theorem etag_identifies_manifest {document other : Document} {selection otherSelection : Selection}
    {manifest otherManifest : Manifest} (found : document.filter selection = .ok manifest)
    (foundOther : other.filter otherSelection = .ok otherManifest)
    (plain : manifest.HasPlainPaths) (otherPlain : otherManifest.HasPlainPaths) :
    (manifest.etagInput = otherManifest.etagInput ↔ manifest = otherManifest) ∧
      (manifest.etag = otherManifest.etag ↔ manifest = otherManifest ∨
        Sha256.Collides manifest.etagInput otherManifest.etagInput) := by
  have faithful : manifest.etagInput = otherManifest.etagInput ↔ manifest = otherManifest :=
    ⟨(Manifest.isBackedBy_of_filter found).etagInput_inj
      (Manifest.isBackedBy_of_filter foundOther) plain otherPlain, congrArg Manifest.etagInput⟩
  refine ⟨faithful, ?_, ?_⟩
  · intro sameTag
    by_cases same : manifest.etagInput = otherManifest.etagInput
    · exact .inl (faithful.mp same)
    · exact .inr ⟨same, sameTag⟩
  · rintro (same | collision)
    · rw [same]
    · exact collision.2

namespace Document

/-- Simple names end in the character that separates identifiers. -/
def terminated : Document where
  apiName := "terminated"
  types := [⟨⟨[], "A\x00"⟩, [⟨[], "C"⟩], ["web"], none, none⟩, ⟨⟨[], "B"⟩, [], [], none, none⟩]
  errors := []
  services := [⟨⟨["a"]⟩, ["web"], [⟨"read\x00", .get, "/", none, none, [], []⟩]⟩]

def zeroed : Document where
  apiName := "zeroed"
  types := []
  errors := []
  services := [⟨⟨["\x00a"]⟩, [], []⟩]

/-- The service at the root, and one whose path is what stands behind that zero character. -/
def parted : Document where
  apiName := "parted"
  types := []
  errors := []
  services := [⟨⟨[]⟩, [], []⟩, ⟨⟨["a"]⟩, [], []⟩]

end Document

theorem etag_identifies_manifest_terminated :
    ∃ manifest otherManifest, Document.terminated.filter (.only ["web"]) = .ok manifest ∧
      Document.terminated.filter .all = .ok otherManifest ∧
        manifest.HasPlainPaths ∧ otherManifest.HasPlainPaths ∧
          manifest.etagInput ≠ otherManifest.etagInput := by
  let manifest : Manifest := ⟨.ofList [⟨":A\x00"⟩, ⟨":C"⟩], .empty, .ofList [⟨"a/"⟩],
    .ofList [⟨"a/:read\x00"⟩]⟩
  let otherManifest : Manifest := ⟨.ofList [⟨":A\x00"⟩, ⟨":B"⟩], .empty, .ofList [⟨"a/"⟩],
    .ofList [⟨"a/:read\x00"⟩]⟩
  have found : Document.terminated.filter (.only ["web"]) = .ok manifest := rfl
  have foundOther : Document.terminated.filter .all = .ok otherManifest := rfl
  have plain : manifest.HasPlainPaths := by decide
  have otherPlain : otherManifest.HasPlainPaths := by decide
  have different : manifest ≠ otherManifest := by decide
  refine ⟨manifest, otherManifest, found, foundOther, plain, otherPlain, ?_⟩
  exact mt (etag_identifies_manifest found foundOther plain otherPlain).1.mp different

/-- With a zero character in a path, one identifier can look like two. -/
theorem etagInput_confuses_paths :
    ¬ ∀ (document other : Document) (selection otherSelection : Selection)
        (manifest otherManifest : Manifest), document.filter selection = .ok manifest →
        other.filter otherSelection = .ok otherManifest →
          (manifest.etagInput = otherManifest.etagInput ↔ manifest = otherManifest) := by
  intro identifies
  have same : (Manifest.everything .zeroed).etagInput = (Manifest.everything .parted).etagInput :=
    Manifest.etagInput_eq_iff_framed.mpr ⟨rfl, rfl, by decide, rfl⟩
  have different : Manifest.everything .zeroed ≠ Manifest.everything .parted := by decide
  exact different ((identifies .zeroed .parted .all .all _ _ rfl rfl).mp same)

end AudienceScope
