import AudienceScope.Proofs.Isolation
import AudienceScope.Report

/-!
Reports account for pruning. A report counts declarations on its own, without pruning anything; its
counts are those of the original and of the pruned document, whatever identifiers the manifest
holds. So a report without findings tells that pruning changes nothing, and the warning that nothing
is visible tells that no declaration is tagged for the audiences. Main statements:
`counts_eq_tally`, `exclusions_eq_nil_iff`, `isEmpty_of_filter_iff` and
`report_accounts_for_pruning`.
-/

set_option autoImplicit false

namespace AudienceScope

/-- The kinds of declarations in the order of a report. -/
def DeclarationKind.reported : List DeclarationKind := [type, error, service, endpoint]

/-- How many declarations of a kind a document holds. A repeated declaration counts each time. -/
def Document.count (document : Document) : DeclarationKind → Nat
  | .type => document.types.length
  | .error => document.errors.length
  | .service => document.services.length
  | .endpoint => document.endpoints.length

namespace Manifest

/-- The declarations that pruning leaves, against all. -/
def tally (manifest : Manifest) (document : Document) (kind : DeclarationKind) : KindCount :=
  ⟨(manifest.prune document).count kind, document.count kind⟩

variable {manifest : Manifest} {document : Document}

theorem length_endpoints (document : Document) :
    document.endpoints.length =
      DeclarationCounts.total (document.services.map fun service => service.endpoints.length) := by
  rw [Document.endpoints, List.length_flatMap]
  simp only [List.length_map]
  rfl

theorem length_endpoints_prune (manifest : Manifest) (document : Document) :
    (manifest.prune document).endpoints.length =
      DeclarationCounts.total ((document.services.filter manifest.keepsService).map
        fun service => service.endpoints.countP (manifest.keepsEndpoint service.name)) := by
  rw [length_endpoints, prune, List.map_map]
  congr 1
  apply List.map_congr_left
  intro service _
  rw [List.countP_eq_length_filter]
  rfl

theorem counts_eq_tally (document : Document) (manifest : Manifest) :
    DeclarationCounts.of document manifest =
      { types := manifest.tally document .type
        errors := manifest.tally document .error
        services := manifest.tally document .service
        endpoints := manifest.tally document .endpoint } := by
  have services : (manifest.prune document).services.length =
      document.services.countP manifest.keepsService := by
    rw [prune, List.length_map, List.countP_eq_length_filter]
  unfold DeclarationCounts.of tally Document.count
  rw [List.countP_eq_length_filter, List.countP_eq_length_filter, ← services,
    ← length_endpoints_prune, ← length_endpoints]
  rfl

theorem count_prune_le (manifest : Manifest) (document : Document) (kind : DeclarationKind) :
    (manifest.prune document).count kind ≤ document.count kind := by
  cases kind with
  | type => exact List.length_filter_le _ _
  | error => exact List.length_filter_le _ _
  | service =>
      unfold Document.count prune
      rw [List.length_map]
      exact List.length_filter_le _ _
  | endpoint =>
      unfold Document.count
      rw [endpoints_prune]
      exact List.length_filter_le _ _

theorem pruneService_of_count (same : (manifest.prune document).count .endpoint =
    document.count .endpoint) {service : Service} (declares : service ∈ document.services) :
    manifest.pruneService service = service := by
  unfold Document.count at same
  rw [endpoints_prune] at same
  have unchanged := List.filter_sublist.eq_of_length same
  have kept : service.endpoints.filter (manifest.keepsEndpoint service.name) =
      service.endpoints := by
    apply List.filter_eq_self.mpr
    intro endpoint holds
    have member : (service.name, endpoint) ∈ document.endpoints :=
      Document.mem_endpoints.mpr ⟨service, declares, rfl, holds⟩
    have both := List.filter_eq_self.mp unchanged _ member
    exact (Bool.and_eq_true_iff.mp both).2
  unfold pruneService
  rw [kept]

theorem prune_eq_self_iff :
    manifest.prune document = document ↔
      ∀ kind, (manifest.prune document).count kind = document.count kind := by
  constructor
  · intro unchanged kind
    rw [unchanged]
  · intro same
    have types : document.types.filter manifest.keepsType = document.types :=
      List.filter_sublist.eq_of_length (same .type)
    have errors : document.errors.filter manifest.keepsError = document.errors :=
      List.filter_sublist.eq_of_length (same .error)
    have services : document.services.filter manifest.keepsService = document.services := by
      apply List.filter_sublist.eq_of_length
      have sameServices := same .service
      unfold Document.count prune at sameServices
      rw [List.length_map] at sameServices
      exact sameServices
    have endpoints : document.services.map manifest.pruneService = document.services := by
      have unchanged : ∀ service ∈ document.services, manifest.pruneService service = id service :=
        fun service declares => pruneService_of_count (same .endpoint) declares
      rw [List.map_congr_left unchanged, List.map_id]
    rw [prune, types, errors, services, endpoints]

theorem exclusions_eq_map (document : Document) (manifest : Manifest) :
    Finding.exclusions (DeclarationCounts.of document manifest) =
      (DeclarationKind.reported.filter fun kind =>
        (manifest.prune document).count kind < document.count kind).map fun kind =>
          .excluded kind (manifest.tally document kind) := by
  have byKind : (DeclarationCounts.of document manifest).byKind =
      DeclarationKind.reported.map fun kind => (kind, manifest.tally document kind) := by
    rw [counts_eq_tally]
    rfl
  unfold Finding.exclusions
  rw [byKind, List.filter_map, List.map_map]
  congr 1
  apply List.filter_congr
  intro kind _
  apply decide_eq_decide.mpr
  change 0 < document.count kind - (manifest.prune document).count kind ↔ _
  omega

theorem exclusions_eq_nil_iff :
    Finding.exclusions (DeclarationCounts.of document manifest) = [] ↔
      manifest.prune document = document := by
  rw [exclusions_eq_map, List.map_eq_nil_iff, List.filter_eq_nil_iff, prune_eq_self_iff]
  constructor
  · intro none kind
    have reported : kind ∈ DeclarationKind.reported := by
      cases kind <;> decide
    have notLess := of_decide_eq_false (Bool.eq_false_iff.mpr (none kind reported))
    have atMost := count_prune_le manifest document kind
    omega
  · intro same kind _
    rw [same kind]
    simp

end Manifest

theorem OrderedSet.isEmpty_iff {α : Type} [LT α] {set : OrderedSet α} :
    set.isEmpty = true ↔ ∀ element, element ∉ set := by
  unfold OrderedSet.isEmpty
  rw [List.isEmpty_iff, List.eq_nil_iff_forall_not_mem]
  rfl

theorem OrderedSet.isEmpty_iff_eq {α : Type} [LT α] {set : OrderedSet α} :
    set.isEmpty = true ↔ set = .empty := by
  obtain ⟨members, ascending⟩ := set
  unfold OrderedSet.isEmpty OrderedSet.empty
  rw [List.isEmpty_iff, OrderedSet.mk.injEq]

theorem Manifest.isEmpty_iff {manifest : Manifest} :
    manifest.isEmpty = true ↔ manifest = ⟨.empty, .empty, .empty, .empty⟩ := by
  obtain ⟨types, errors, services, endpoints⟩ := manifest
  unfold Manifest.isEmpty
  simp only [Bool.and_eq_true, OrderedSet.isEmpty_iff_eq, Manifest.mk.injEq, and_assoc]

namespace Document

def HasTagFor (document : Document) (audiences : List String) : Prop :=
  (∃ declaration ∈ document.types, IsAddressed audiences declaration.audiences) ∨
    ∃ service ∈ document.services, IsAddressed audiences service.audiences ∨
      ∃ endpoint ∈ service.endpoints, IsAddressed audiences endpoint.audiences

variable {document : Document} {audiences : List String} {manifest : Manifest}

theorem mentions_eq_nil_of_untagged (untagged : ¬ document.HasTagFor audiences) :
    (document.graph audiences).mentions = [] := by
  have noTypes : (document.graph audiences).neededTypes.toList = [] := by
    apply List.eq_nil_iff_forall_not_mem.mpr
    intro id needed
    obtain ⟨declaration, declares, _, addressed⟩ := mem_neededTypes.mp needed
    exact untagged (.inl ⟨declaration, declares, addressed⟩)
  have noEndpoints : (document.graph audiences).neededEndpoints.toList = [] := by
    apply List.eq_nil_iff_forall_not_mem.mpr
    intro id needed
    obtain ⟨service, declares, endpoint, holds, _, addressed⟩ := mem_neededEndpoints.mp needed
    apply untagged
    rcases addressed with ofService | own
    · exact .inr ⟨service, declares, .inl ofService⟩
    · exact .inr ⟨service, declares, .inr ⟨endpoint, holds, own⟩⟩
  unfold AudienceGraph.mentions
  rw [noTypes, noEndpoints]
  rfl

theorem isEmpty_of_untagged (built : (document.graph audiences).build = .ok manifest)
    (untagged : ¬ document.HasTagFor audiences) : manifest.isEmpty = true := by
  have nothing := mentions_eq_nil_of_untagged untagged
  unfold Manifest.isEmpty
  simp only [Bool.and_eq_true, OrderedSet.isEmpty_iff]
  refine ⟨⟨⟨?types, ?errors⟩, ?services⟩, ?endpoints⟩
  case types =>
    intro id kept
    rcases (AudienceGraph.mem_types_of_build built).mp kept with mentioned | ⟨_, lookedUp, _⟩
    · rw [nothing] at mentioned
      exact absurd mentioned List.not_mem_nil
    · rw [nothing] at lookedUp
      exact absurd lookedUp List.not_mem_nil
  case errors =>
    intro id kept
    have mentioned := (AudienceGraph.mem_errors_of_build built).mp kept
    rw [nothing] at mentioned
    exact absurd mentioned List.not_mem_nil
  case services =>
    intro id kept
    rw [AudienceGraph.services_of_build built, mem_neededServices] at kept
    obtain ⟨service, declares, _, addressed⟩ := kept
    exact untagged (.inr ⟨service, declares, addressed⟩)
  case endpoints =>
    intro id kept
    rw [AudienceGraph.endpoints_of_build built] at kept
    have mentioned := AudienceGraph.endpoint_mem_mentions.mpr kept
    rw [nothing] at mentioned
    exact absurd mentioned List.not_mem_nil

theorem not_isEmpty_of_tagged (built : (document.graph audiences).build = .ok manifest)
    (tagged : document.HasTagFor audiences) : ¬ manifest.isEmpty = true := by
  intro isEmpty
  unfold Manifest.isEmpty at isEmpty
  simp only [Bool.and_eq_true, OrderedSet.isEmpty_iff] at isEmpty
  obtain ⟨⟨⟨noTypes, _⟩, noServices⟩, _⟩ := isEmpty
  rcases tagged with ⟨declaration, declares, addressed⟩ | ⟨service, declares, addressed⟩
  · have needed : declaration.name.typeId ∈ (document.graph audiences).neededTypes :=
      mem_neededTypes.mpr ⟨declaration, declares, rfl, addressed⟩
    have candidate := AudienceGraph.mem_candidates_iff.mpr (.inr (.inr needed))
    apply noTypes declaration.name.typeId
    exact (AudienceGraph.mem_types_of_build built).mpr
      (.inl (AudienceGraph.mem_candidates.mp candidate))
  · apply noServices service.name.id
    rw [AudienceGraph.services_of_build built]
    exact mem_neededServices.mpr ⟨service, declares, rfl, addressed⟩

theorem isEmpty_of_filter_iff (found : document.filter (.only audiences) = .ok manifest) :
    manifest.isEmpty = true ↔ ¬ document.HasTagFor audiences := by
  constructor
  · intro isEmpty tagged
    exact not_isEmpty_of_tagged found tagged isEmpty
  · exact isEmpty_of_untagged found

end Document

/-! ### Reports -/

def Report.Warns (report : Report) : Prop :=
  ∃ finding ∈ report.findings, finding.isWarning = true

theorem Finding.not_isWarning_of_mem_exclusions {counts : DeclarationCounts} {finding : Finding}
    (member : finding ∈ exclusions counts) : finding.isWarning = false := by
  obtain ⟨entry, _, rfl⟩ := List.mem_map.mp member
  rfl

theorem Report.warns_iff {document : Document} {audiences : List String}
    {generator : Option Generator} {manifest : Manifest} :
    (Report.of document (.only audiences) generator manifest).Warns ↔
      manifest.isEmpty = true := by
  unfold Report.Warns Report.of Finding.list
  by_cases isEmpty : manifest.isEmpty = true
  · simp [isEmpty, Finding.isWarning]
  · simp only [if_neg isEmpty, iff_false_right isEmpty]
    rintro ⟨finding, member, warns⟩
    rw [Finding.not_isWarning_of_mem_exclusions member] at warns
    exact Bool.false_ne_true warns

/-- How a report on a selection tells what pruning to a manifest does to a document. The only
finding on an empty manifest for chosen audiences is a warning; else the findings are the kinds that
lose declarations, and there is none exactly if pruning changes nothing. -/
structure Report.AccountsFor (report : Report) (selection : Selection) (manifest : Manifest)
    (document : Document) : Prop where
  selected : report.selection = selection
  retained : report.retained = manifest
  counts : report.counts =
    { types := manifest.tally document .type
      errors := manifest.tally document .error
      services := manifest.tally document .service
      endpoints := manifest.tally document .endpoint }
  retained_le : ∀ kind,
    (manifest.tally document kind).retained ≤ (manifest.tally document kind).total
  excluded : ∀ kind,
    (manifest.prune document).count kind + (manifest.tally document kind).excluded =
      document.count kind
  ofEmpty : ∀ audiences, selection = .only audiences →
    manifest = ⟨.empty, .empty, .empty, .empty⟩ →
      report.findings = [.nothingVisible audiences] ∧
        (Finding.nothingVisible audiences).isWarning = true
  otherwise : selection = .all ∨ manifest ≠ ⟨.empty, .empty, .empty, .empty⟩ →
    report.findings =
        (DeclarationKind.reported.filter fun kind =>
          (manifest.prune document).count kind < document.count kind).map
            (fun kind => .excluded kind (manifest.tally document kind)) ∧
      (report.findings = [] ↔ manifest.prune document = document)
  wording : ∀ kind, (Finding.excluded kind (manifest.tally document kind)).isWarning = false ∧
    (Finding.excluded kind (manifest.tally document kind)).message =
      toString (document.count kind - (manifest.prune document).count kind) ++ " of " ++
        toString (document.count kind) ++ " " ++ kind.text ++ "(s) excluded"
  warns : ∀ audiences, selection = .only audiences →
    document.filter (.only audiences) = .ok manifest →
      (report.Warns ↔ ¬ document.HasTagFor audiences)

/-- A report accounts for what pruning to its manifest does, for every manifest. -/
theorem report_accounts_for_pruning (document : Document) (selection : Selection)
    (generator : Option Generator) (manifest : Manifest) :
    (Report.of document selection generator manifest).AccountsFor selection manifest document := by
  refine
    { selected := rfl
      retained := rfl
      counts := Manifest.counts_eq_tally document manifest
      retained_le := Manifest.count_prune_le manifest document
      excluded := ?excluded
      ofEmpty := ?ofEmpty
      otherwise := ?otherwise
      wording := fun _ => ⟨rfl, rfl⟩
      warns := ?warns }
  case excluded =>
    intro kind
    have atMost := Manifest.count_prune_le manifest document kind
    unfold Manifest.tally KindCount.excluded
    exact Nat.add_sub_of_le atMost
  case ofEmpty =>
    rintro audiences rfl rfl
    exact ⟨rfl, rfl⟩
  case otherwise =>
    intro some
    have findings : (Report.of document selection generator manifest).findings =
        Finding.exclusions (DeclarationCounts.of document manifest) := by
      unfold Report.of Finding.list
      cases selection with
      | all => rfl
      | only audiences =>
          rcases some with all | nonempty
          · cases all
          · exact if_neg fun isEmpty => nonempty (Manifest.isEmpty_iff.mp isEmpty)
    rw [findings]
    exact ⟨Manifest.exclusions_eq_map document manifest, Manifest.exclusions_eq_nil_iff⟩
  case warns =>
    rintro audiences rfl found
    rw [Report.warns_iff, Document.isEmpty_of_filter_iff found]

-- An endpoint whose service is not kept is not counted, nor is a type that is declared nowhere.
example :
    (Report.of
      ⟨"orphaned", [⟨⟨[], "A"⟩, [], [], none, none⟩], [],
        [⟨⟨[]⟩, [], [⟨"read", .get, "/", none, none, [], []⟩]⟩]⟩
      .all none ⟨.ofList [⟨":A"⟩, ⟨":Ghost"⟩], .empty, .empty, .ofList [⟨":read"⟩]⟩).counts =
      ⟨⟨1, 1⟩, ⟨0, 0⟩, ⟨0, 1⟩, ⟨0, 1⟩⟩ := by
  decide

end AudienceScope
