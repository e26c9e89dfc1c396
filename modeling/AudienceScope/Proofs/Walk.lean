import AudienceScope.Graph.Closure

/-!
The closure as one pass over a list. The nested loops of the closure come by identifiers in a fixed
order, and each of them is looked up unless it is kept at that moment. Passing over the payload of
an error a second time changes nothing, because all of it is kept by then; so the loops agree with
the pass over the plain list of mentions. Main statements: `build_eq_walk`, `walk_ok_iff`,
`walk_error_iff`, `mem_keepAll_types` and `mem_keepAll_errors`.
-/

set_option autoImplicit false

namespace AudienceScope

inductive Mention where
  | endpoint (id : EndpointId)
  | error (id : ErrorId)
  | type (id : TypeId)
deriving DecidableEq

def Mention.dangling : Mention → DanglingReference
  | .endpoint id => ⟨.endpoint, id.text⟩
  | .error id => ⟨.error, id.text⟩
  | .type id => ⟨.type, id.text⟩

namespace Kept

def none : Kept := ⟨.empty, .empty⟩

/-- Whether a mention is passed over. Endpoints never are. -/
def holds (kept : Kept) : Mention → Bool
  | .endpoint _ => false
  | .error id => kept.errors.contains id
  | .type id => kept.types.contains id

theorem holds_error {kept : Kept} {id : ErrorId} :
    kept.holds (.error id) = true ↔ id ∈ kept.errors := OrderedSet.contains_iff

theorem holds_type {kept : Kept} {id : TypeId} :
    kept.holds (.type id) = true ↔ id ∈ kept.types := OrderedSet.contains_iff

end Kept

namespace AudienceGraph

/-- What an endpoint mentions. Where nothing is registered, this and the next two are empty. -/
def endpointNode (graph : AudienceGraph) (id : EndpointId) : EndpointNode :=
  (graph.endpoints.get? id).getD ⟨.empty, .empty⟩

def payload (graph : AudienceGraph) (id : ErrorId) : IdSet .type :=
  (graph.errors.get? id).getD .empty

def descendants (graph : AudienceGraph) (id : TypeId) : IdSet .type :=
  (graph.types.get? id).getD .empty

def registers (graph : AudienceGraph) : Mention → Bool
  | .endpoint id => graph.endpoints.contains id
  | .error id => graph.errors.contains id
  | .type id => graph.types.contains id

def errorMentions (graph : AudienceGraph) (id : ErrorId) : List Mention :=
  .error id :: (graph.payload id).toList.map .type

def endpointMentions (graph : AudienceGraph) (id : EndpointId) : List Mention :=
  .endpoint id :: ((graph.endpointNode id).errors.toList.flatMap graph.errorMentions ++
    (graph.endpointNode id).types.toList.map .type)

/-- All that the closure comes by: the needed endpoints in ascending order with what they mention,
and the needed types at the end. -/
def mentions (graph : AudienceGraph) : List Mention :=
  graph.neededEndpoints.toList.flatMap graph.endpointMentions ++
    graph.neededTypes.toList.map .type

/-! ### One pass over mentions -/

/-- Keeps what is mentioned, a type along with its descendants. What is kept is passed over. -/
def keep (graph : AudienceGraph) (kept : Kept) (mention : Mention) : Kept :=
  if kept.holds mention then kept
  else
    match mention with
    | .endpoint _ => kept
    | .error id => { kept with errors := kept.errors.insert id }
    | .type id => { kept with types := (kept.types.insert id).union (graph.descendants id) }

def keepAll (graph : AudienceGraph) (kept : Kept) (mentions : List Mention) : Kept :=
  mentions.foldl graph.keep kept

/-- The mentions that have to be looked up: those that are not kept at that moment. -/
def lookups (graph : AudienceGraph) (kept : Kept) : List Mention → List Mention
  | [] => []
  | mention :: rest =>
    if kept.holds mention then graph.lookups kept rest
    else mention :: graph.lookups (graph.keep kept mention) rest

/-- A pass that ends at the first look-up that finds nothing. -/
def walk (graph : AudienceGraph) (kept : Kept) : List Mention → Except DanglingReference Kept
  | [] => .ok kept
  | mention :: rest =>
    if kept.holds mention then graph.walk kept rest
    else if graph.registers mention then graph.walk (graph.keep kept mention) rest
    else .error mention.dangling

variable {graph : AudienceGraph}

theorem keepAll_cons (kept : Kept) (mention : Mention) (rest : List Mention) :
    graph.keepAll kept (mention :: rest) = graph.keepAll (graph.keep kept mention) rest := rfl

theorem keep_of_holds {kept : Kept} {mention : Mention} (held : kept.holds mention = true) :
    graph.keep kept mention = kept := if_pos held

theorem keep_endpoint (kept : Kept) (id : EndpointId) :
    graph.keep kept (.endpoint id) = kept := rfl

theorem keep_error {kept : Kept} {id : ErrorId} (absent : id ∉ kept.errors) :
    graph.keep kept (.error id) = { kept with errors := kept.errors.insert id } :=
  if_neg (mt Kept.holds_error.mp absent)

theorem keep_type {kept : Kept} {id : TypeId} (absent : id ∉ kept.types) :
    graph.keep kept (.type id) =
      { kept with types := (kept.types.insert id).union (graph.descendants id) } :=
  if_neg (mt Kept.holds_type.mp absent)

theorem walk_of_holds {kept : Kept} {mention : Mention} (held : kept.holds mention = true)
    (rest : List Mention) : graph.walk kept (mention :: rest) = graph.walk kept rest := by
  rw [walk, if_pos held]

theorem walk_of_registers {kept : Kept} {mention : Mention} (fresh : ¬ kept.holds mention = true)
    (registered : graph.registers mention = true) (rest : List Mention) :
    graph.walk kept (mention :: rest) = graph.walk (graph.keep kept mention) rest := by
  rw [walk, if_neg fresh, if_pos registered]

theorem walk_of_missing {kept : Kept} {mention : Mention} (fresh : ¬ kept.holds mention = true)
    (missing : ¬ graph.registers mention = true) (rest : List Mention) :
    graph.walk kept (mention :: rest) = .error mention.dangling := by
  rw [walk, if_neg fresh, if_neg missing]

theorem walk_append (kept : Kept) (first second : List Mention) :
    graph.walk kept (first ++ second) =
      match graph.walk kept first with
      | .error dangling => .error dangling
      | .ok after => graph.walk after second := by
  induction first generalizing kept with
  | nil => rfl
  | cons mention rest ih =>
      rw [List.cons_append]
      by_cases held : kept.holds mention = true
      · rw [walk_of_holds held, walk_of_holds held, ih]
      · by_cases registered : graph.registers mention = true
        · rw [walk_of_registers held registered, walk_of_registers held registered, ih]
        · rw [walk_of_missing held registered, walk_of_missing held registered]

theorem walk_of_all_held {kept : Kept} {mentions : List Mention}
    (held : ∀ mention ∈ mentions, kept.holds mention = true) :
    graph.walk kept mentions = .ok kept := by
  induction mentions with
  | nil => rfl
  | cons mention rest ih =>
      rw [walk_of_holds (held mention List.mem_cons_self)]
      exact ih fun later member => held later (List.mem_cons_of_mem _ member)

theorem walk_ok_iff {kept after : Kept} {mentions : List Mention} :
    graph.walk kept mentions = .ok after ↔
      (∀ mention ∈ graph.lookups kept mentions, graph.registers mention = true) ∧
        graph.keepAll kept mentions = after := by
  induction mentions generalizing kept with
  | nil => simp [walk, lookups, keepAll]
  | cons mention rest ih =>
      rw [keepAll_cons]
      by_cases held : kept.holds mention = true
      · rw [walk_of_holds held, ih, keep_of_holds held]
        simp [lookups, held]
      · by_cases registered : graph.registers mention = true
        · rw [walk_of_registers held registered, ih]
          simp [lookups, held, registered]
        · rw [walk_of_missing held registered]
          simp [lookups, held, registered]

theorem walk_error_iff {kept : Kept} {mentions : List Mention} {dangling : DanglingReference} :
    graph.walk kept mentions = .error dangling ↔
      ∃ missing, (graph.lookups kept mentions).find? (fun mention => !graph.registers mention) =
        some missing ∧ missing.dangling = dangling := by
  induction mentions generalizing kept with
  | nil => simp [walk, lookups]
  | cons mention rest ih =>
      by_cases held : kept.holds mention = true
      · rw [walk_of_holds held, ih]
        simp [lookups, held]
      · by_cases registered : graph.registers mention = true
        · rw [walk_of_registers held registered, ih]
          simp [lookups, held, registered]
        · rw [walk_of_missing held registered]
          simp [lookups, held, registered]

theorem mem_keep_errors {kept : Kept} {mention : Mention} {id : ErrorId} :
    id ∈ (graph.keep kept mention).errors ↔ id ∈ kept.errors ∨ mention = .error id := by
  cases mention with
  | endpoint other => simp [keep_endpoint]
  | type other =>
      by_cases present : other ∈ kept.types
      · simp [keep_of_holds (Kept.holds_type.mpr present)]
      · simp [keep_type present]
  | error other =>
      rw [Mention.error.injEq]
      by_cases present : other ∈ kept.errors
      · rw [keep_of_holds (Kept.holds_error.mpr present)]
        constructor
        · exact .inl
        · intro member
          rcases member with held | rfl
          · exact held
          · exact present
      · rw [keep_error present, OrderedSet.mem_insert, or_comm, eq_comm]

theorem mem_keepAll_errors {kept : Kept} {mentions : List Mention} {id : ErrorId} :
    id ∈ (graph.keepAll kept mentions).errors ↔ id ∈ kept.errors ∨ .error id ∈ mentions := by
  induction mentions generalizing kept with
  | nil => simp [keepAll]
  | cons mention rest ih =>
      rw [keepAll_cons, ih, mem_keep_errors, List.mem_cons, or_assoc, eq_comm]

theorem mem_keep_types {kept : Kept} {mention : Mention} {id : TypeId} :
    id ∈ (graph.keep kept mention).types ↔
      id ∈ kept.types ∨ mention = .type id ∨
        ∃ source, mention = .type source ∧ source ∉ kept.types ∧ id ∈ graph.descendants source := by
  cases mention with
  | endpoint other => simp [keep_endpoint]
  | error other =>
      by_cases present : other ∈ kept.errors
      · simp [keep_of_holds (Kept.holds_error.mpr present)]
      · simp [keep_error present]
  | type other =>
      simp only [Mention.type.injEq]
      by_cases present : other ∈ kept.types
      · rw [keep_of_holds (Kept.holds_type.mpr present)]
        constructor
        · exact .inl
        · intro member
          rcases member with held | rfl | ⟨source, rfl, absent, _⟩
          · exact held
          · exact present
          · exact absurd present absent
      · rw [keep_type present, OrderedSet.mem_union, OrderedSet.mem_insert]
        constructor
        · intro member
          rcases member with listed | rfl | held
          · exact .inr (.inr ⟨other, rfl, present, listed⟩)
          · exact .inr (.inl rfl)
          · exact .inl held
        · intro member
          rcases member with held | rfl | ⟨source, rfl, _, listed⟩
          · exact .inr (.inr held)
          · exact .inr (.inl rfl)
          · exact .inl listed

theorem lookups_append (kept : Kept) (first second : List Mention) :
    graph.lookups kept (first ++ second) =
      graph.lookups kept first ++ graph.lookups (graph.keepAll kept first) second := by
  induction first generalizing kept with
  | nil => rfl
  | cons mention rest ih =>
      rw [List.cons_append, lookups, lookups, keepAll_cons]
      split
      · rename_i held
        rw [keep_of_holds held]
        exact ih kept
      · exact congrArg (mention :: ·) (ih (graph.keep kept mention))

theorem mem_of_mem_lookups {kept : Kept} {mentions : List Mention} {mention : Mention}
    (member : mention ∈ graph.lookups kept mentions) : mention ∈ mentions := by
  induction mentions generalizing kept with
  | nil => exact absurd member List.not_mem_nil
  | cons head rest ih =>
      rw [lookups] at member
      split at member
      · exact List.mem_cons_of_mem _ (ih member)
      · rcases List.mem_cons.mp member with same | later
        · exact same ▸ List.mem_cons_self
        · exact List.mem_cons_of_mem _ (ih later)

theorem mem_lookups_of_fresh {kept : Kept} {before after : List Mention} {mention : Mention}
    (fresh : ¬ (graph.keepAll kept before).holds mention = true) :
    mention ∈ graph.lookups kept (before ++ mention :: after) := by
  rw [lookups_append, lookups, if_neg fresh]
  exact List.mem_append_right _ List.mem_cons_self

theorem endpoint_mem_lookups {kept : Kept} {mentions : List Mention} {id : EndpointId}
    (member : .endpoint id ∈ mentions) : .endpoint id ∈ graph.lookups kept mentions := by
  obtain ⟨before, after, rfl⟩ := List.append_of_mem member
  exact mem_lookups_of_fresh Bool.false_ne_true

theorem error_mem_lookups {kept : Kept} {mentions : List Mention} {id : ErrorId}
    (member : .error id ∈ mentions) (fresh : id ∉ kept.errors) :
    .error id ∈ graph.lookups kept mentions := by
  obtain ⟨before, after, rfl, first⟩ := List.eq_append_cons_of_mem member
  refine mem_lookups_of_fresh fun held => ?_
  rcases mem_keepAll_errors.mp (Kept.holds_error.mp held) with present | earlier
  · exact fresh present
  · exact first earlier

theorem type_not_mem_lookups {kept : Kept} {mentions : List Mention} {id : TypeId}
    (present : id ∈ kept.types) : .type id ∉ graph.lookups kept mentions := by
  induction mentions generalizing kept with
  | nil => exact List.not_mem_nil
  | cons head rest ih =>
      rw [lookups]
      split
      · exact ih present
      · rename_i fresh
        intro member
        rcases List.mem_cons.mp member with rfl | later
        · exact fresh (Kept.holds_type.mpr present)
        · exact ih (mem_keep_types.mpr (.inl present)) later

theorem type_mem_lookups_cons {kept : Kept} {mention : Mention} {rest : List Mention}
    {id : TypeId} :
    .type id ∈ graph.lookups kept (mention :: rest) ↔
      (mention = .type id ∧ id ∉ kept.types) ∨
        .type id ∈ graph.lookups (graph.keep kept mention) rest := by
  rw [lookups]
  split
  · rename_i held
    rw [keep_of_holds held]
    constructor
    · exact .inr
    · intro member
      rcases member with ⟨rfl, absent⟩ | later
      · exact absurd (Kept.holds_type.mp held) absent
      · exact later
  · rename_i fresh
    rw [List.mem_cons]
    constructor
    · intro member
      rcases member with rfl | later
      · exact .inl ⟨rfl, fun present => fresh (Kept.holds_type.mpr present)⟩
      · exact .inr later
    · intro member
      rcases member with ⟨rfl, _⟩ | later
      · exact .inl rfl
      · exact .inr later

/-- At the end are kept the types that were, those that are mentioned and the descendants of those
that were looked up. -/
theorem mem_keepAll_types {kept : Kept} {mentions : List Mention} {id : TypeId} :
    id ∈ (graph.keepAll kept mentions).types ↔
      id ∈ kept.types ∨ .type id ∈ mentions ∨
        ∃ source, .type source ∈ graph.lookups kept mentions ∧ id ∈ graph.descendants source := by
  induction mentions generalizing kept with
  | nil => simp [keepAll, lookups]
  | cons mention rest ih =>
      rw [keepAll_cons, ih, mem_keep_types]
      simp only [type_mem_lookups_cons, List.mem_cons]
      -- The head is a source only if it was not kept before, which is when it is looked up.
      constructor
      · intro member
        rcases member with (present | same | ⟨source, same, absent, listed⟩) | later |
          ⟨source, later, listed⟩
        · exact .inl present
        · exact .inr (.inl (.inl same.symm))
        · exact .inr (.inr ⟨source, .inl ⟨same, absent⟩, listed⟩)
        · exact .inr (.inl (.inr later))
        · exact .inr (.inr ⟨source, .inr later, listed⟩)
      · intro member
        rcases member with present | (same | later) | ⟨source, ⟨same, absent⟩ | later, listed⟩
        · exact .inl (.inl present)
        · exact .inl (.inr (.inl same.symm))
        · exact .inr (.inl later)
        · exact .inl (.inr (.inr ⟨source, same, absent, listed⟩))
        · exact .inr (.inr ⟨source, later, listed⟩)

/-! ### The loops of the closure -/

theorem require_of_get? {kind : DeclarationKind} {ν : Type} {nodes : OrderedMap (Id kind) ν}
    {id : Id kind} {node : ν} (found : nodes.get? id = some node) :
    require nodes id = .ok node := by
  rw [require, found]

theorem require_of_missing {kind : DeclarationKind} {ν : Type} {nodes : OrderedMap (Id kind) ν}
    {id : Id kind} (missing : nodes.get? id = none) :
    require nodes id = .error ⟨kind, id.text⟩ := by
  rw [require, missing]

theorem registers_iff_type {id : TypeId} :
    graph.registers (.type id) = true ↔ ∃ descendants, graph.types.get? id = some descendants :=
  Option.isSome_iff_exists

theorem registers_iff_error {id : ErrorId} :
    graph.registers (.error id) = true ↔ ∃ payload, graph.errors.get? id = some payload :=
  Option.isSome_iff_exists

theorem registers_iff_endpoint {id : EndpointId} :
    graph.registers (.endpoint id) = true ↔ ∃ node, graph.endpoints.get? id = some node :=
  Option.isSome_iff_exists

theorem walk_types (kept : Kept) (candidates : List TypeId) :
    graph.walk kept (candidates.map .type) =
      match graph.expand kept.types candidates with
      | .error dangling => .error dangling
      | .ok types => .ok { kept with types } := by
  induction candidates generalizing kept with
  | nil => rfl
  | cons candidate rest ih =>
      rw [List.map_cons, expand]
      by_cases present : candidate ∈ kept.types
      · rw [walk_of_holds (Kept.holds_type.mpr present), ih,
          if_pos (OrderedSet.contains_iff.mpr present)]
      · have fresh : ¬ kept.holds (.type candidate) = true := mt Kept.holds_type.mp present
        rw [if_neg (mt OrderedSet.contains_iff.mp present)]
        cases found : graph.types.get? candidate with
        | none =>
            have missing : ¬ graph.registers (.type candidate) = true := by
              simp [registers_iff_type, found]
            rw [walk_of_missing fresh missing, require_of_missing found]
            rfl
        | some descendants =>
            have listed : graph.descendants candidate = descendants := by
              rw [AudienceGraph.descendants, found]
              rfl
            rw [walk_of_registers fresh (registers_iff_type.mpr ⟨descendants, found⟩),
              keep_type present, ih, require_of_get? found, listed]

/-- Of every error that is kept the whole payload is kept. -/
def IsClosed (graph : AudienceGraph) (kept : Kept) : Prop :=
  ∀ error ∈ kept.errors, ∀ type ∈ graph.payload error, type ∈ kept.types

theorem IsClosed.of_walk {kept after : Kept} {mentions : List Mention}
    (closed : graph.IsClosed kept)
    (complete : ∀ error, .error error ∈ mentions →
      ∀ type ∈ graph.payload error, .type type ∈ mentions)
    (passed : graph.walk kept mentions = .ok after) : graph.IsClosed after := by
  obtain ⟨_, rfl⟩ := walk_ok_iff.mp passed
  intro error member type listed
  rw [mem_keepAll_types]
  rcases mem_keepAll_errors.mp member with present | mentioned
  · exact .inl (closed error present type listed)
  · exact .inr (.inl (complete error mentioned type listed))

theorem errorMentions_complete {origin error : ErrorId}
    (member : .error error ∈ graph.errorMentions origin) :
    ∀ type ∈ graph.payload error, .type type ∈ graph.errorMentions origin := by
  intro type listed
  have same : error = origin := by
    simpa [errorMentions] using member
  exact List.mem_cons_of_mem _ (List.mem_map_of_mem (same ▸ listed))

theorem endpointMentions_complete {endpoint : EndpointId} {error : ErrorId}
    (member : .error error ∈ graph.endpointMentions endpoint) :
    ∀ type ∈ graph.payload error, .type type ∈ graph.endpointMentions endpoint := by
  intro type listed
  have among : .error error ∈ (graph.endpointNode endpoint).errors.toList.flatMap
      graph.errorMentions := by
    simpa [endpointMentions] using member
  obtain ⟨origin, mentioned, here⟩ := List.mem_flatMap.mp among
  refine List.mem_cons_of_mem _ (List.mem_append_left _ ?_)
  exact List.mem_flatMap.mpr ⟨origin, mentioned, errorMentions_complete here type listed⟩

/-- Coming by an error again changes nothing, although its payload is mentioned again. -/
theorem walk_errorMentions_of_kept {kept : Kept} (closed : graph.IsClosed kept) {error : ErrorId}
    (present : error ∈ kept.errors) : graph.walk kept (graph.errorMentions error) = .ok kept := by
  refine walk_of_all_held fun mention member => ?_
  rcases List.mem_cons.mp member with rfl | inPayload
  · exact Kept.holds_error.mpr present
  · obtain ⟨type, listed, rfl⟩ := List.mem_map.mp inPayload
    exact Kept.holds_type.mpr (closed error present type listed)

theorem walk_errorMentions_of_fresh {kept : Kept} {error : ErrorId}
    (absent : error ∉ kept.errors) :
    graph.walk kept (graph.errorMentions error) =
      match require graph.errors error with
      | .error dangling => .error dangling
      | .ok payload =>
        match graph.expand kept.types payload.toList with
        | .error dangling => .error dangling
        | .ok types => .ok ⟨types, kept.errors.insert error⟩ := by
  have fresh : ¬ kept.holds (.error error) = true := mt Kept.holds_error.mp absent
  rw [errorMentions]
  cases found : graph.errors.get? error with
  | none =>
      have missing : ¬ graph.registers (.error error) = true := by
        simp [registers_iff_error, found]
      rw [walk_of_missing fresh missing, require_of_missing found]
      rfl
  | some payload =>
      have listed : graph.payload error = payload := by
        rw [AudienceGraph.payload, found]
        rfl
      rw [walk_of_registers fresh (registers_iff_error.mpr ⟨payload, found⟩), keep_error absent,
        listed, walk_types, require_of_get? found]

theorem visitErrors_cons {kept : Kept} (closed : graph.IsClosed kept) (error : ErrorId)
    (rest : List ErrorId) :
    graph.visitErrors kept (error :: rest) =
      match graph.walk kept (graph.errorMentions error) with
      | .error dangling => .error dangling
      | .ok after => graph.visitErrors after rest := by
  rw [visitErrors]
  by_cases present : error ∈ kept.errors
  · rw [if_pos (OrderedSet.contains_iff.mpr present), walk_errorMentions_of_kept closed present]
  · rw [if_neg (mt OrderedSet.contains_iff.mp present), walk_errorMentions_of_fresh present]
    cases require graph.errors error with
    | error dangling => rfl
    | ok payload => cases expanded : graph.expand kept.types payload.toList <;> simp only [expanded]

theorem walk_errors {kept : Kept} (closed : graph.IsClosed kept) (errors : List ErrorId) :
    graph.walk kept (errors.flatMap graph.errorMentions) = graph.visitErrors kept errors := by
  induction errors generalizing kept with
  | nil => rfl
  | cons error rest ih =>
      rw [List.flatMap_cons, walk_append, visitErrors_cons closed]
      cases passed : graph.walk kept (graph.errorMentions error) with
      | error dangling => rfl
      | ok after => exact ih (closed.of_walk (fun _ => errorMentions_complete) passed)

theorem walk_endpointMentions {kept : Kept} (closed : graph.IsClosed kept)
    (endpoint : EndpointId) :
    graph.walk kept (graph.endpointMentions endpoint) =
      match require graph.endpoints endpoint with
      | .error dangling => .error dangling
      | .ok node =>
        match graph.visitErrors kept node.errors.toList with
        | .error dangling => .error dangling
        | .ok afterErrors =>
          match graph.expand afterErrors.types node.types.toList with
          | .error dangling => .error dangling
          | .ok types => .ok { afterErrors with types } := by
  have fresh : ¬ kept.holds (.endpoint endpoint) = true := Bool.false_ne_true
  rw [endpointMentions]
  cases found : graph.endpoints.get? endpoint with
  | none =>
      have missing : ¬ graph.registers (.endpoint endpoint) = true := by
        simp [registers_iff_endpoint, found]
      rw [walk_of_missing fresh missing, require_of_missing found]
      rfl
  | some node =>
      have mentioned : graph.endpointNode endpoint = node := by
        rw [endpointNode, found]
        rfl
      rw [walk_of_registers fresh (registers_iff_endpoint.mpr ⟨node, found⟩), keep_endpoint,
        mentioned, walk_append, walk_errors closed, require_of_get? found]
      cases visited : graph.visitErrors kept node.errors.toList with
      | error dangling => simp only [visited]
      | ok afterErrors => simp only [visited, walk_types]

theorem visitEndpoints_cons {kept : Kept} (closed : graph.IsClosed kept) (endpoint : EndpointId)
    (rest : List EndpointId) :
    graph.visitEndpoints kept (endpoint :: rest) =
      match graph.walk kept (graph.endpointMentions endpoint) with
      | .error dangling => .error dangling
      | .ok after => graph.visitEndpoints after rest := by
  rw [visitEndpoints, walk_endpointMentions closed]
  cases require graph.endpoints endpoint with
  | error dangling => rfl
  | ok node =>
      cases visited : graph.visitErrors kept node.errors.toList with
      | error dangling => simp only [visited]
      | ok afterErrors =>
          cases expanded : graph.expand afterErrors.types node.types.toList <;>
            simp only [visited, expanded]

theorem walk_endpoints {kept : Kept} (closed : graph.IsClosed kept)
    (endpoints : List EndpointId) :
    graph.walk kept (endpoints.flatMap graph.endpointMentions) =
      graph.visitEndpoints kept endpoints := by
  induction endpoints generalizing kept with
  | nil => rfl
  | cons endpoint rest ih =>
      rw [List.flatMap_cons, walk_append, visitEndpoints_cons closed]
      cases passed : graph.walk kept (graph.endpointMentions endpoint) with
      | error dangling => rfl
      | ok after => exact ih (closed.of_walk (fun _ => endpointMentions_complete) passed)

/-- The manifest of a graph is what one pass over its mentions keeps. -/
theorem build_eq_walk (graph : AudienceGraph) :
    graph.build =
      match graph.walk .none graph.mentions with
      | .error dangling => .error dangling
      | .ok kept =>
        .ok ⟨kept.types, kept.errors, graph.neededServices, graph.neededEndpoints⟩ := by
  have closed : graph.IsClosed .none := fun _ member => absurd member (OrderedSet.not_mem_empty _)
  rw [build, mentions, walk_append, walk_endpoints closed, Kept.none]
  cases graph.visitEndpoints ⟨.empty, .empty⟩ graph.neededEndpoints.toList with
  | error dangling => rfl
  | ok kept =>
      simp only [walk_types]
      cases graph.expand kept.types graph.neededTypes.toList <;> rfl

end AudienceGraph

end AudienceScope
