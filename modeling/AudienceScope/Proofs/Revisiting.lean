import AudienceScope.Proofs.Walk

/-!
The closure without its shortcut for errors. An error that was kept before is neither looked up nor
expanded again; the plain closure does both each time an endpoint lists the error. Both come to the
same result, because a kept error is registered and its whole payload is kept. Main statements:
`visitErrors_eq_revisitErrors` and `build_eq_buildRevisiting`.
-/

set_option autoImplicit false

namespace AudienceScope

namespace AudienceGraph

/-- Keeps errors and their payload types. Every error is looked up and expanded. -/
def revisitErrors (graph : AudienceGraph) (kept : Kept) :
    (errors : List ErrorId) → Except DanglingReference Kept
  | [] => .ok kept
  | error :: rest =>
    match require graph.errors error with
    | .error dangling => .error dangling
    | .ok payload =>
      match graph.expand kept.types payload.toList with
      | .error dangling => .error dangling
      | .ok types => graph.revisitErrors ⟨types, kept.errors.insert error⟩ rest

def revisitEndpoints (graph : AudienceGraph) (kept : Kept) :
    (endpoints : List EndpointId) → Except DanglingReference Kept
  | [] => .ok kept
  | endpoint :: rest =>
    match require graph.endpoints endpoint with
    | .error dangling => .error dangling
    | .ok node =>
      match graph.revisitErrors kept node.errors.toList with
      | .error dangling => .error dangling
      | .ok afterErrors =>
        match graph.expand afterErrors.types node.types.toList with
        | .error dangling => .error dangling
        | .ok types => graph.revisitEndpoints { afterErrors with types } rest

/-- The closure that visits an error each time it is listed. -/
def buildRevisiting (graph : AudienceGraph) : Except DanglingReference Manifest :=
  match graph.revisitEndpoints ⟨.empty, .empty⟩ graph.neededEndpoints.toList with
  | .error dangling => .error dangling
  | .ok kept =>
    match graph.expand kept.types graph.neededTypes.toList with
    | .error dangling => .error dangling
    | .ok types => .ok ⟨types, kept.errors, graph.neededServices, graph.neededEndpoints⟩

variable {graph : AudienceGraph}

theorem mem_of_expand {types after : IdSet .type} {candidates : List TypeId} {id : TypeId}
    (expanded : graph.expand types candidates = .ok after)
    (known : id ∈ types ∨ id ∈ candidates) : id ∈ after := by
  have passed : graph.walk ⟨types, .empty⟩ (candidates.map .type) = .ok ⟨after, .empty⟩ := by
    rw [walk_types, expanded]
  have keeps : (graph.keepAll ⟨types, .empty⟩ (candidates.map .type)).types = after :=
    congrArg Kept.types (walk_ok_iff.mp passed).2
  rw [← keeps]
  apply mem_keepAll_types.mpr
  rcases known with present | candidate
  · exact .inl present
  · exact .inr (.inl (List.mem_map_of_mem candidate))

theorem expand_of_kept {types : IdSet .type} {candidates : List TypeId}
    (kept : ∀ candidate ∈ candidates, candidate ∈ types) :
    graph.expand types candidates = .ok types := by
  induction candidates with
  | nil => rfl
  | cons candidate rest ih =>
      have present := kept candidate List.mem_cons_self
      rw [expand, if_pos (OrderedSet.contains_iff.mpr present)]
      exact ih fun later member => kept later (List.mem_cons_of_mem _ member)

/-- Every error that is kept is registered, and its whole payload is kept. -/
def IsSettled (graph : AudienceGraph) (kept : Kept) : Prop :=
  ∀ error ∈ kept.errors, ∃ payload, graph.errors.get? error = some payload ∧
    ∀ type ∈ payload, type ∈ kept.types

theorem isSettled_none : graph.IsSettled .none :=
  fun error present => absurd present (OrderedSet.not_mem_empty error)

theorem IsSettled.of_expand {kept : Kept} {candidates : List TypeId} {types : IdSet .type}
    (settled : graph.IsSettled kept) (expanded : graph.expand kept.types candidates = .ok types) :
    graph.IsSettled { kept with types } := by
  intro error present
  obtain ⟨payload, found, whole⟩ := settled error present
  refine ⟨payload, found, ?_⟩
  intro type listed
  exact mem_of_expand expanded (.inl (whole type listed))

theorem IsSettled.insert {kept : Kept} {error : ErrorId} {payload types : IdSet .type}
    (settled : graph.IsSettled kept) (found : graph.errors.get? error = some payload)
    (expanded : graph.expand kept.types payload.toList = .ok types) :
    graph.IsSettled ⟨types, kept.errors.insert error⟩ := by
  intro other present
  rcases OrderedSet.mem_insert.mp present with rfl | before
  · refine ⟨payload, found, ?_⟩
    intro type listed
    exact mem_of_expand expanded (.inr listed)
  · exact settled.of_expand expanded other before

theorem insert_of_kept {kept : Kept} {error : ErrorId} (present : error ∈ kept.errors) :
    kept.errors.insert error = kept.errors := by
  apply OrderedSet.ext_mem
  intro other
  rw [OrderedSet.mem_insert]
  constructor
  · intro either
    rcases either with rfl | before
    · exact present
    · exact before
  · exact .inr

theorem revisitErrors_of_kept {kept : Kept} (settled : graph.IsSettled kept) {error : ErrorId}
    (present : error ∈ kept.errors) (rest : List ErrorId) :
    graph.revisitErrors kept (error :: rest) = graph.revisitErrors kept rest := by
  obtain ⟨payload, found, whole⟩ := settled error present
  have expanded : graph.expand kept.types payload.toList = .ok kept.types := expand_of_kept whole
  rw [revisitErrors, require_of_get? found]
  simp only [expanded, insert_of_kept present]

theorem visitErrors_eq_revisitErrors {kept : Kept} (settled : graph.IsSettled kept)
    (errors : List ErrorId) : graph.visitErrors kept errors = graph.revisitErrors kept errors := by
  -- each visit leaves what is kept settled, so that a later one may be passed over
  induction errors generalizing kept with
  | nil => rfl
  | cons error rest ih =>
      by_cases present : error ∈ kept.errors
      · rw [revisitErrors_of_kept settled present, visitErrors,
          if_pos (OrderedSet.contains_iff.mpr present)]
        exact ih settled
      · rw [visitErrors, revisitErrors, if_neg (mt OrderedSet.contains_iff.mp present)]
        cases found : graph.errors.get? error with
        | none => rw [require_of_missing found]
        | some payload =>
            rw [require_of_get? found]
            cases expanded : graph.expand kept.types payload.toList with
            | error dangling => simp only [expanded]
            | ok types =>
                simp only [expanded]
                exact ih (settled.insert found expanded)

theorem IsSettled.of_visitErrors {kept after : Kept} {errors : List ErrorId}
    (settled : graph.IsSettled kept) (visited : graph.visitErrors kept errors = .ok after) :
    graph.IsSettled after := by
  induction errors generalizing kept with
  | nil =>
      cases visited
      exact settled
  | cons error rest ih =>
      rw [visitErrors] at visited
      split at visited
      · exact ih settled visited
      · cases found : graph.errors.get? error with
        | none =>
            rw [require_of_missing found] at visited
            cases visited
        | some payload =>
            rw [require_of_get? found] at visited
            cases expanded : graph.expand kept.types payload.toList with
            | error dangling => simp [expanded] at visited
            | ok types =>
                simp only [expanded] at visited
                exact ih (settled.insert found expanded) visited

theorem visitEndpoints_eq_revisitEndpoints {kept : Kept} (settled : graph.IsSettled kept)
    (endpoints : List EndpointId) :
    graph.visitEndpoints kept endpoints = graph.revisitEndpoints kept endpoints := by
  induction endpoints generalizing kept with
  | nil => rfl
  | cons endpoint rest ih =>
      rw [visitEndpoints, revisitEndpoints]
      cases require graph.endpoints endpoint with
      | error dangling => rfl
      | ok node =>
          simp only [← visitErrors_eq_revisitErrors settled]
          cases visited : graph.visitErrors kept node.errors.toList with
          | error dangling => rfl
          | ok afterErrors =>
              have settledErrors := settled.of_visitErrors visited
              cases expanded : graph.expand afterErrors.types node.types.toList with
              | error dangling => simp only [expanded]
              | ok types =>
                  simp only [expanded]
                  exact ih (settledErrors.of_expand expanded)

/-- Passing over errors that are kept already changes neither the manifest nor the failure of the
closure. -/
theorem build_eq_buildRevisiting (graph : AudienceGraph) :
    graph.build = graph.buildRevisiting := by
  unfold build buildRevisiting
  have settled : graph.IsSettled .none := isSettled_none
  have same := visitEndpoints_eq_revisitEndpoints settled graph.neededEndpoints.toList
  unfold Kept.none at same
  generalize graph.visitEndpoints ⟨.empty, .empty⟩ graph.neededEndpoints.toList = visited at same ⊢
  subst same
  rfl

end AudienceGraph

end AudienceScope
