import AudienceScope.CommandLine.Run
import AudienceScope.Proofs.Encoding
import AudienceScope.Proofs.Nesting
import AudienceScope.Proofs.Pruning

/-!
Documents written and loaded again. A document that was loaded can be written, in one line or
indented, and loading the text gives the document; so the text that pruning writes can be loaded and
pruned again, which gives the same text. Main statements: `Document.ofText_print` and
`loaded_text_reloads`.
-/

set_option autoImplicit false

namespace AudienceScope

open Json (Layout)

namespace Document

variable {document : Document}

theorem ofText_print {layout : Layout} (blank : layout.IsBlank) (writable : document.IsWritable)
    {ending : String} (allGap : ∀ c ∈ ending.toList, Json.isGap c = true) :
    ofText (document.toJson.print layout ++ ending) = .ok document := by
  have page := Json.readPage_print blank (isBounded_toJson writable) allGap
  have root : read .page (Json.Tree.ofValue document.toJson) = .ok document :=
    read_ofValue writable.shape_ne_null
  rw [ofText, page]
  simp only [root]
  rfl

theorem ofText_compact (writable : document.IsWritable) :
    ofText document.compact = .ok document := by
  have noEnding : document.compact ++ "" = document.compact := String.append_empty
  rw [← noEnding]
  exact ofText_print Layout.isBlank_compact writable (by simp)

theorem ofText_fileText (writable : document.IsWritable) :
    ofText (CommandLine.fileText document) = .ok document :=
  ofText_print Layout.isBlank_indented writable (by simp [Json.isGap])

end Document

section Pruned

variable {document : Document} {manifest : Manifest}

theorem Document.IsWritable.prune (writable : document.IsWritable) (manifest : Manifest) :
    (manifest.prune document).IsWritable := by
  have endpoints : ∀ service ∈ (manifest.prune document).services,
      ∀ endpoint ∈ service.endpoints,
        ∃ original ∈ document.services, endpoint ∈ original.endpoints := by
    intro service survives endpoint holds
    obtain ⟨original, declares, _, rfl⟩ := Manifest.mem_prune_services.mp survives
    exact ⟨original, declares, (Manifest.mem_pruneService_endpoints.mp holds).1⟩
  constructor
  · intro declaration survives
    exact writable.shape_ne_null declaration (Manifest.mem_prune_types.mp survives).1
  · intro declaration survives
    exact writable.shape_bounded declaration (Manifest.mem_prune_types.mp survives).1
  · intro declaration survives
    exact writable.payload_fits declaration (Manifest.mem_prune_errors.mp survives).1
  · intro service survives endpoint holds
    obtain ⟨original, declares, held⟩ := endpoints service survives endpoint holds
    exact writable.request_fits original declares endpoint held
  · intro service survives endpoint holds
    obtain ⟨original, declares, held⟩ := endpoints service survives endpoint holds
    exact writable.response_fits original declares endpoint held

end Pruned

open CommandLine (fileText textOf outputOf)

/-- A document that was loaded, with integers only in its shapes, is loaded from the texts that are
written for it. So the text that pruning writes or prints is loaded as the pruned document, and
pruning that for the same selection gives the same text again. -/
theorem loaded_text_reloads {text : String} {document : Document}
    (loaded : Document.ofText text = .ok document) (integral : document.HasIntegralShapes) :
    Document.ofText document.compact = .ok document ∧
      Document.ofText (document.pretty ++ "\n") = .ok document ∧
        ∀ selection manifest, document.filter selection = .ok manifest →
          (∀ presentation, textOf (outputOf presentation (.document (manifest.prune document))) =
            fileText (manifest.prune document)) ∧
          Document.ofText (fileText (manifest.prune document)) = .ok (manifest.prune document) ∧
          (manifest.prune document).filter selection = .ok manifest ∧
          fileText (manifest.prune (manifest.prune document)) =
            fileText (manifest.prune document) := by
  have writable := Document.isWritable_of_ofText loaded integral
  refine ⟨Document.ofText_compact writable, Document.ofText_fileText writable, ?_⟩
  intro selection manifest found
  refine ⟨?_, ?_, Document.filter_prune found, ?_⟩
  · intro presentation
    simp [textOf, outputOf, fileText, String.join]
  · exact Document.ofText_fileText (writable.prune manifest)
  · rw [Manifest.prune_prune]

/-- Records and tagged values as lists, a method as an object, a name without path, an escaped
letter, and a shape that repeats a member. -/
def Document.terseText : String :=
  "[\"\\u00e9\",[\x7b\"shape\":\x7b\"b\":1.5,\"a\":-2,\"b\":null\x7d,\"name\":[[],\"A\"]\x7d],[]," ++
    "[[[[]],[\"w\"],[[\"r\",\x7b\"GET\":null\x7d,\"/\",null," ++
      "[\"container\",[\"list\",\x7b\"name\":\"A\",\"_type\":\"named\"\x7d]]]]]]]"

def Document.terse : Document where
  apiName := "é"
  types := [⟨⟨[], "A"⟩, [], [], some (Json.toCanonical
    (.object [("a", .number (.integer (-2))), ("b", .null)])), none⟩]
  errors := []
  services := [⟨⟨[]⟩, ["w"],
    [⟨"r", .get, "/", none, some (.list (.named ⟨[], "A"⟩)), [], []⟩]⟩]

theorem loaded_text_reloads_terse :
    Document.ofText Document.terseText = .ok .terse ∧ Document.terse.HasIntegralShapes ∧
      Document.ofText Document.terse.compact = .ok .terse ∧
        ∃ manifest, Document.terse.filter (.only ["w"]) = .ok manifest ∧
          Document.ofText (fileText (manifest.prune .terse)) = .ok (manifest.prune .terse) := by
  have loaded : Document.ofText Document.terseText = .ok .terse :=
    Json.toOption_eq_some_iff.mp (by decide +kernel)
  have integral : Document.terse.HasIntegralShapes := by
    intro declaration declares shape holds
    cases List.mem_singleton.mp declares
    cases holds
    rfl
  obtain ⟨reloaded, _, pruned⟩ := loaded_text_reloads loaded integral
  exact ⟨loaded, integral, reloaded, _, rfl, (pruned (.only ["w"]) _ rfl).2.1⟩

end AudienceScope
