import AudienceScope.Proofs.Walk
import Mathlib.Data.Set.Basic

/-!
What the closure keeps, and how it fails. The types that endpoints, payloads and marks mention are
its candidates. A candidate brings its descendants along unless a candidate that was visited before
and brought its own along lists it; these conditions determine the candidates that do. Main
statements: `isExpansion_lookups`, `IsExpansion.eq`, `build_ok_iff` and `build_error_iff`.
-/

set_option autoImplicit false

namespace AudienceScope

def Mention.type? : Mention → Option TypeId
  | .type id => some id
  | _ => none

theorem Mention.mem_filterMap_type? {mentions : List Mention} {id : TypeId} :
    id ∈ mentions.filterMap Mention.type? ↔ .type id ∈ mentions := by
  rw [List.mem_filterMap]
  constructor
  · intro found
    obtain ⟨mention, member, same⟩ := found
    cases mention with
    | type other => exact Option.some.inj same ▸ member
    | endpoint other => cases same
    | error other => cases same
  · intro member
    exact ⟨.type id, member, rfl⟩

private theorem idxOf_lt_idxOf_iff {α : Type} [DecidableEq α] {before after : List α}
    {earlier element : α} (first : element ∉ before) :
    (before ++ element :: after).idxOf earlier < (before ++ element :: after).idxOf element ↔
      earlier ∈ before := by
  rw [List.idxOf_append, List.idxOf_append, if_neg first, List.idxOf_cons_self, Nat.zero_add]
  constructor
  · intro smaller
    by_contra absent
    rw [if_neg absent] at smaller
    omega
  · intro member
    rw [if_pos member]
    exact List.idxOf_lt_length_of_mem member

namespace AudienceGraph

/-- The types that are mentioned, in the order of the closure and as often as it comes by them. -/
def candidates (graph : AudienceGraph) : List TypeId :=
  (graph.neededEndpoints.toList.flatMap fun endpoint =>
    ((graph.endpointNode endpoint).errors.toList.flatMap fun error =>
      (graph.payload error).toList) ++ (graph.endpointNode endpoint).types.toList) ++
    graph.neededTypes.toList

def IsVisitedBefore (graph : AudienceGraph) (earlier candidate : TypeId) : Prop :=
  graph.candidates.idxOf earlier < graph.candidates.idxOf candidate

/-- The candidates whose descendants are kept: those that none of them visited before lists. -/
def IsExpansion (graph : AudienceGraph) (expanded : Set TypeId) : Prop :=
  ∀ candidate, candidate ∈ expanded ↔
    candidate ∈ graph.candidates ∧
      ∀ earlier ∈ expanded, graph.IsVisitedBefore earlier candidate →
        candidate ∉ graph.descendants earlier

variable {graph : AudienceGraph}

/-! ### Candidates -/

theorem filterMap_type?_errorMentions (error : ErrorId) :
    (graph.errorMentions error).filterMap Mention.type? = (graph.payload error).toList := by
  rw [errorMentions, List.filterMap_cons_none rfl, List.filterMap_map]
  exact List.filterMap_some

theorem filterMap_type?_mentions (graph : AudienceGraph) :
    graph.mentions.filterMap Mention.type? = graph.candidates := by
  have ofTypes (types : List TypeId) : (types.map .type).filterMap Mention.type? = types := by
    rw [List.filterMap_map]
    exact List.filterMap_some
  have ofEndpoint (endpoint : EndpointId) :
      (graph.endpointMentions endpoint).filterMap Mention.type? =
        ((graph.endpointNode endpoint).errors.toList.flatMap fun error =>
          (graph.payload error).toList) ++ (graph.endpointNode endpoint).types.toList := by
    rw [endpointMentions, List.filterMap_cons_none rfl, List.filterMap_append,
      List.filterMap_flatMap, ofTypes]
    simp only [filterMap_type?_errorMentions]
  rw [mentions, candidates, List.filterMap_append, List.filterMap_flatMap, ofTypes]
  simp only [ofEndpoint]

theorem mem_candidates {id : TypeId} :
    id ∈ graph.candidates ↔ .type id ∈ graph.mentions := by
  rw [← filterMap_type?_mentions, Mention.mem_filterMap_type?]

theorem error_mem_mentions {id : ErrorId} :
    .error id ∈ graph.mentions ↔
      ∃ endpoint ∈ graph.neededEndpoints, id ∈ (graph.endpointNode endpoint).errors := by
  simp [mentions, endpointMentions, errorMentions, OrderedSet.mem_iff]

theorem endpoint_mem_mentions {id : EndpointId} :
    .endpoint id ∈ graph.mentions ↔ id ∈ graph.neededEndpoints := by
  simp [mentions, endpointMentions, errorMentions, OrderedSet.mem_iff]

theorem mem_candidates_iff {candidate : TypeId} :
    candidate ∈ graph.candidates ↔
      (∃ endpoint ∈ graph.neededEndpoints, candidate ∈ (graph.endpointNode endpoint).types) ∨
      (∃ endpoint ∈ graph.neededEndpoints, ∃ error ∈ (graph.endpointNode endpoint).errors,
        candidate ∈ graph.payload error) ∨
      candidate ∈ graph.neededTypes := by
  simp only [candidates, List.mem_append, List.mem_flatMap, ← OrderedSet.mem_iff]
  constructor
  · intro member
    rcases member with ⟨endpoint, needed, ⟨error, listed, inPayload⟩ | own⟩ | marked
    · exact .inr (.inl ⟨endpoint, needed, error, listed, inPayload⟩)
    · exact .inl ⟨endpoint, needed, own⟩
    · exact .inr (.inr marked)
  · intro member
    rcases member with ⟨endpoint, needed, own⟩ | ⟨endpoint, needed, error, listed, inPayload⟩ |
      marked
    · exact .inl ⟨endpoint, needed, .inr own⟩
    · exact .inl ⟨endpoint, needed, .inl ⟨error, listed, inPayload⟩⟩
    · exact .inr marked

theorem type_mem_lookups_before {before after : List Mention} {id : TypeId} :
    .type id ∈ graph.lookups .none before ↔
      .type id ∈ graph.lookups .none (before ++ after) ∧ .type id ∈ before := by
  rw [lookups_append, List.mem_append]
  constructor
  · intro member
    exact ⟨.inl member, mem_of_mem_lookups member⟩
  · intro both
    rcases both with ⟨member | later, mentioned⟩
    · exact member
    · have present : id ∈ (graph.keepAll .none before).types :=
        mem_keepAll_types.mpr (.inr (.inl mentioned))
      exact absurd later (type_not_mem_lookups present)

/-- Whether a type is looked up is decided at its first mention: by then it must not be listed by a
type that was looked up. -/
theorem type_mem_lookups_of_first {before after : List Mention} {id : TypeId}
    (first : .type id ∉ before) :
    .type id ∈ graph.lookups .none (before ++ .type id :: after) ↔
      ∀ source, .type source ∈ graph.lookups .none before → id ∉ graph.descendants source := by
  have absent : .type id ∉ graph.lookups .none before := mt mem_of_mem_lookups first
  have listed : id ∈ (graph.keepAll .none before).types ↔
      ∃ source, .type source ∈ graph.lookups .none before ∧ id ∈ graph.descendants source := by
    rw [mem_keepAll_types]
    simp [first, Kept.none, OrderedSet.not_mem_empty]
  rw [lookups_append, List.mem_append, type_mem_lookups_cons, listed]
  constructor
  · intro lookedUp
    rcases lookedUp with member | ⟨_, fresh⟩ | later
    · exact absurd member absent
    · intro source lookedUp among
      exact fresh ⟨source, lookedUp, among⟩
    · have present : id ∈ (graph.keep (graph.keepAll .none before) (.type id)).types :=
        mem_keep_types.mpr (.inr (.inl rfl))
      exact absurd later (type_not_mem_lookups present)
  · intro fresh
    refine .inr (.inl ⟨rfl, fun hidden => ?_⟩)
    obtain ⟨source, lookedUp, among⟩ := hidden
    exact fresh source lookedUp among

theorem isVisitedBefore_iff {before after : List Mention} {earlier candidate : TypeId}
    (split : graph.mentions = before ++ .type candidate :: after)
    (first : .type candidate ∉ before) :
    graph.IsVisitedBefore earlier candidate ↔ .type earlier ∈ before := by
  have order : graph.candidates = before.filterMap Mention.type? ++
      candidate :: after.filterMap Mention.type? := by
    rw [← filterMap_type?_mentions, split, List.filterMap_append,
      List.filterMap_cons_some (by rfl)]
  rw [IsVisitedBefore, order, idxOf_lt_idxOf_iff (mt Mention.mem_filterMap_type?.mp first),
    Mention.mem_filterMap_type?]

theorem isExpansion_lookups (graph : AudienceGraph) :
    graph.IsExpansion {id | .type id ∈ graph.lookups .none graph.mentions} := by
  intro candidate
  simp only [Set.mem_ofPred_eq]
  by_cases mentioned : .type candidate ∈ graph.mentions
  · -- At its first mention it is decided whether the candidate is looked up.
    obtain ⟨before, after, split, first⟩ := List.eq_append_cons_of_mem mentioned
    rw [and_iff_right (mem_candidates.mpr mentioned)]
    simp only [isVisitedBefore_iff split first]
    rw [split, type_mem_lookups_of_first first]
    constructor
    · intro fresh source lookedUp earlier
      exact fresh source (type_mem_lookups_before.mpr ⟨lookedUp, earlier⟩)
    · intro fresh source lookedUp
      obtain ⟨later, earlier⟩ := type_mem_lookups_before.mp lookedUp
      exact fresh source later earlier
  · constructor
    · intro lookedUp
      exact absurd (mem_of_mem_lookups lookedUp) mentioned
    · intro fresh
      exact absurd (mem_candidates.mp fresh.1) mentioned

theorem type_mem_lookups_or_listed {id : TypeId} (mentioned : .type id ∈ graph.mentions) :
    .type id ∈ graph.lookups .none graph.mentions ∨
      ∃ source, .type source ∈ graph.lookups .none graph.mentions ∧
        id ∈ graph.descendants source := by
  by_cases listed : ∃ source, .type source ∈ graph.lookups .none graph.mentions ∧
      id ∈ graph.descendants source
  · exact .inr listed
  · refine .inl ((graph.isExpansion_lookups id).mpr ⟨mem_candidates.mpr mentioned, ?_⟩)
    intro source lookedUp _ among
    exact listed ⟨source, lookedUp, among⟩

theorem IsExpansion.eq {expanded other : Set TypeId} (isExpansion : graph.IsExpansion expanded)
    (otherIsExpansion : graph.IsExpansion other) : other = expanded := by
  -- Whether a candidate is expanded depends on those that are visited first before it.
  have agree : ∀ position candidate, graph.candidates.idxOf candidate = position →
      (candidate ∈ other ↔ candidate ∈ expanded) := by
    intro position
    induction position using Nat.strongRecOn with
    | ind position ih =>
        intro candidate here
        rw [isExpansion candidate, otherIsExpansion candidate]
        refine and_congr_right fun _ => forall_congr' fun earlier => ?_
        constructor
        · intro fresh member before
          exact fresh ((ih _ (here ▸ before) earlier rfl).mpr member) before
        · intro fresh member before
          exact fresh ((ih _ (here ▸ before) earlier rfl).mp member) before
  exact Set.ext fun candidate => agree _ candidate rfl

/-! ### Success and failure -/

theorem build_ok_iff {manifest : Manifest} :
    graph.build = .ok manifest ↔
      (∀ mention ∈ graph.lookups .none graph.mentions, graph.registers mention = true) ∧
        ⟨(graph.keepAll .none graph.mentions).types, (graph.keepAll .none graph.mentions).errors,
          graph.neededServices, graph.neededEndpoints⟩ = manifest := by
  rw [build_eq_walk]
  constructor
  · intro built
    cases passed : graph.walk .none graph.mentions with
    | error dangling =>
        rw [passed] at built
        cases built
    | ok kept =>
        rw [passed] at built
        obtain ⟨registered, rfl⟩ := walk_ok_iff.mp passed
        exact ⟨registered, Except.ok.inj built⟩
  · intro passed
    obtain ⟨registered, rfl⟩ := passed
    rw [walk_ok_iff.mpr ⟨registered, rfl⟩]

theorem build_error_iff {dangling : DanglingReference} :
    graph.build = .error dangling ↔
      ∃ missing, (graph.lookups .none graph.mentions).find?
        (fun mention => !graph.registers mention) = some missing ∧
          missing.dangling = dangling := by
  rw [← walk_error_iff, build_eq_walk]
  cases graph.walk .none graph.mentions with
  | error other => simp
  | ok kept => simp

theorem services_of_build {manifest : Manifest} (built : graph.build = .ok manifest) :
    manifest.services = graph.neededServices := by
  obtain ⟨_, rfl⟩ := build_ok_iff.mp built
  rfl

theorem endpoints_of_build {manifest : Manifest} (built : graph.build = .ok manifest) :
    manifest.endpoints = graph.neededEndpoints := by
  obtain ⟨_, rfl⟩ := build_ok_iff.mp built
  rfl

theorem mem_errors_of_build {manifest : Manifest} (built : graph.build = .ok manifest)
    {error : ErrorId} : error ∈ manifest.errors ↔ .error error ∈ graph.mentions := by
  obtain ⟨_, rfl⟩ := build_ok_iff.mp built
  rw [mem_keepAll_errors]
  simp [Kept.none, OrderedSet.not_mem_empty]

theorem mem_types_of_build {manifest : Manifest} (built : graph.build = .ok manifest)
    {type : TypeId} :
    type ∈ manifest.types ↔ .type type ∈ graph.mentions ∨
      ∃ source, .type source ∈ graph.lookups .none graph.mentions ∧
        type ∈ graph.descendants source := by
  obtain ⟨_, rfl⟩ := build_ok_iff.mp built
  rw [mem_keepAll_types]
  simp [Kept.none, OrderedSet.not_mem_empty]

theorem exists_build_error_iff :
    (∃ dangling, graph.build = .error dangling) ↔
      ∃ mention ∈ graph.lookups .none graph.mentions, graph.registers mention = false := by
  constructor
  · intro fails
    obtain ⟨dangling, failed⟩ := fails
    obtain ⟨missing, found, _⟩ := build_error_iff.mp failed
    refine ⟨missing, List.mem_of_find?_eq_some found, ?_⟩
    simpa using List.find?_some found
  · intro dangles
    obtain ⟨mention, lookedUp, unregistered⟩ := dangles
    cases found : (graph.lookups .none graph.mentions).find?
        (fun mention => !graph.registers mention) with
    | none =>
        have registered := List.find?_eq_none.mp found mention lookedUp
        rw [unregistered] at registered
        exact absurd rfl registered
    | some missing => exact ⟨missing.dangling, build_error_iff.mpr ⟨missing, found, rfl⟩⟩

theorem exists_build_of_registers
    (endpoints : ∀ endpoint ∈ graph.neededEndpoints,
      graph.registers (.endpoint endpoint) = true ∧
        ∀ error ∈ (graph.endpointNode endpoint).errors, graph.registers (.error error) = true)
    (candidates : ∀ candidate ∈ graph.candidates, graph.registers (.type candidate) = true) :
    ∃ manifest, graph.build = .ok manifest := by
  refine ⟨_, build_ok_iff.mpr ⟨fun mention lookedUp => ?_, rfl⟩⟩
  have mentioned := mem_of_mem_lookups lookedUp
  cases mention with
  | endpoint id => exact (endpoints id (endpoint_mem_mentions.mp mentioned)).1
  | error id =>
      obtain ⟨endpoint, needed, listed⟩ := error_mem_mentions.mp mentioned
      exact (endpoints endpoint needed).2 id listed
  | type id => exact candidates id (mem_candidates.mpr mentioned)

/-- Endpoints and errors cannot come along as descendants: each of them is looked up. -/
theorem registers_of_build {manifest : Manifest} (built : graph.build = .ok manifest)
    {endpoint : EndpointId} (needed : endpoint ∈ graph.neededEndpoints) :
    graph.registers (.endpoint endpoint) = true ∧
      ∀ error ∈ (graph.endpointNode endpoint).errors, graph.registers (.error error) = true := by
  obtain ⟨registered, _⟩ := build_ok_iff.mp built
  constructor
  · exact registered _ (endpoint_mem_lookups (endpoint_mem_mentions.mpr needed))
  · intro error listed
    have mentioned : .error error ∈ graph.mentions :=
      error_mem_mentions.mpr ⟨endpoint, needed, listed⟩
    exact registered _ (error_mem_lookups mentioned (OrderedSet.not_mem_empty error))

/-- What the closure of a graph keeps. Of the candidates, those bring their descendants along that
nothing visited before has brought along itself. -/
structure IsClosure (graph : AudienceGraph) (manifest : Manifest) : Prop where
  services : manifest.services = graph.neededServices
  endpoints : manifest.endpoints = graph.neededEndpoints
  errors : ∀ error, error ∈ manifest.errors ↔
    ∃ endpoint ∈ graph.neededEndpoints, error ∈ (graph.endpointNode endpoint).errors
  candidates : ∀ candidate, candidate ∈ graph.candidates ↔
    (∃ endpoint ∈ graph.neededEndpoints, candidate ∈ (graph.endpointNode endpoint).types) ∨
    (∃ error ∈ manifest.errors, candidate ∈ graph.payload error) ∨
    candidate ∈ graph.neededTypes
  types : ∃ expanded : Set TypeId, graph.IsExpansion expanded ∧
    (∀ other, graph.IsExpansion other → other = expanded) ∧
    (∀ source ∈ expanded, graph.registers (.type source) = true) ∧
    ∀ type, type ∈ manifest.types ↔
      type ∈ graph.candidates ∨ ∃ source ∈ expanded, type ∈ graph.descendants source

/-- A manifest that is built is the closure of its graph. -/
theorem build_manifest_exact {graph : AudienceGraph} {manifest : Manifest}
    (built : graph.build = .ok manifest) : graph.IsClosure manifest := by
  have errors (error : ErrorId) : error ∈ manifest.errors ↔
      ∃ endpoint ∈ graph.neededEndpoints, error ∈ (graph.endpointNode endpoint).errors := by
    rw [mem_errors_of_build built, error_mem_mentions]
  obtain ⟨registered, _⟩ := build_ok_iff.mp built
  refine
    { services := services_of_build built
      endpoints := endpoints_of_build built
      errors := errors
      candidates := ?_
      types := ⟨_, graph.isExpansion_lookups, fun other => graph.isExpansion_lookups.eq,
        fun source => registered (.type source), ?_⟩ }
  · intro candidate
    rw [mem_candidates_iff]
    refine or_congr_right (or_congr_left ?_)
    constructor
    · intro fromPayload
      obtain ⟨endpoint, needed, error, listed, inPayload⟩ := fromPayload
      exact ⟨error, (errors error).mpr ⟨endpoint, needed, listed⟩, inPayload⟩
    · intro fromPayload
      obtain ⟨error, kept, inPayload⟩ := fromPayload
      obtain ⟨endpoint, needed, listed⟩ := (errors error).mp kept
      exact ⟨endpoint, needed, error, listed, inPayload⟩
  · intro type
    rw [mem_types_of_build built, mem_candidates]
    rfl

def maskingEndpoint : Endpoint :=
  ⟨"read", .get, "/", none, some (.named ⟨[], "B"⟩), [⟨⟨[], "E"⟩, none⟩], []⟩

/-- The payload `A` of an error lists `B`, so that `B`, which the endpoint mentions later, does not
bring `C` along. -/
def masking : AudienceGraph :=
  (empty ["web"]).populateAll
    [.addType ⟨[], "A"⟩ [⟨[], "B"⟩],
      .addType ⟨[], "B"⟩ [⟨[], "C"⟩],
      .addError ⟨⟨[], "E"⟩, some (.named ⟨[], "A"⟩), none⟩,
      .addEndpoint ⟨[]⟩ maskingEndpoint,
      .markEndpoints ⟨[]⟩ [maskingEndpoint] ["web"]]

theorem isClosure_masking :
    ∃ manifest, masking.build = .ok manifest ∧ masking.IsClosure manifest ∧
      ⟨":B"⟩ ∈ manifest.types ∧ ⟨":C"⟩ ∉ manifest.types :=
  ⟨_, rfl, build_manifest_exact rfl, by decide, by decide⟩

/-- How the closure fails: at the first identifier that has to be looked up and is not registered.
An identifier that no look-up needs may be missing. -/
theorem build_failure_exact (graph : AudienceGraph) :
    (∀ dangling, graph.build = .error dangling ↔
      ∃ missing, (graph.lookups .none graph.mentions).find?
        (fun mention => !graph.registers mention) = some missing ∧
          missing.dangling = dangling) ∧
    ((∃ dangling, graph.build = .error dangling) ↔
      ∃ mention ∈ graph.lookups .none graph.mentions, graph.registers mention = false) ∧
    ((∀ endpoint ∈ graph.neededEndpoints, graph.registers (.endpoint endpoint) = true ∧
        ∀ error ∈ (graph.endpointNode endpoint).errors, graph.registers (.error error) = true) →
      (∀ candidate ∈ graph.candidates, graph.registers (.type candidate) = true) →
        ∃ manifest, graph.build = .ok manifest) ∧
    (∀ manifest, graph.build = .ok manifest →
      ∀ endpoint ∈ graph.neededEndpoints, graph.registers (.endpoint endpoint) = true ∧
        ∀ error ∈ (graph.endpointNode endpoint).errors,
          graph.registers (.error error) = true) := by
  refine ⟨fun dangling => build_error_iff, exists_build_error_iff, exists_build_of_registers, ?_⟩
  intro manifest built endpoint needed
  exact registers_of_build built needed

-- Nothing is registered behind `B`, but `A` lists it and comes first.
example : ∃ manifest,
    ({ masking with types := .ofList [(⟨":A"⟩, .ofList [⟨":B"⟩])] }).build = .ok manifest :=
  ⟨_, rfl⟩

-- Neither `A` nor `B` is registered, and the payload of `E` is looked up before the response.
example : ({ masking with types := .empty }).build = .error ⟨.type, ":A"⟩ := rfl

end AudienceGraph

end AudienceScope
