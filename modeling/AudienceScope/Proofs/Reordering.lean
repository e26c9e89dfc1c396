import AudienceScope.Proofs.Closure
import AudienceScope.Proofs.Population
import AudienceScope.Graph.Closure
import Mathlib.Data.List.Forall2
import Mathlib.Data.List.Nodup

/-!
The order in which a graph is filled. A graph holds what its calls mark, each mark as often as it
likes, and for every identifier what the last call registers; so calls may be exchanged and repeated
as long as the last registrations stay the same, and two calls have an order that matters only if
they register one identifier with different nodes. Main statements: `populateAll_congr`,
`populateAll_swap_iff`, `filter_reordered` and `population_order_irrelevant`.
-/

set_option autoImplicit false

namespace AudienceScope

namespace Population

def isMark : Population → Bool
  | .markType _ _ | .markEndpoints _ _ _ => true
  | _ => false

/-- What the last of some calls registers under a key, given what a single call registers. -/
def lastNode? {κ ν : Type} [DecidableEq κ] (node? : Population → Option (κ × ν))
    (calls : List Population) (key : κ) : Option ν :=
  ((calls.filterMap node?).filter fun entry => entry.1 = key).getLast?.map Prod.snd

/-- Whether two calls register one key with different nodes. -/
def Differ {κ ν : Type} (node? : Population → Option (κ × ν)) (first second : Population) : Prop :=
  ∃ key node other, node? first = some (key, node) ∧ node? second = some (key, other) ∧
    node ≠ other

def Conflicts (first second : Population) : Prop :=
  Differ typeEntry? first second ∨ Differ errorEntry? first second ∨
    Differ endpointEntry? first second

/-- Calls with the same marks, in any order and multiplicity, and the same last registrations. -/
structure Amounts (first second : List Population) : Prop where
  marks : ∀ call, call.isMark = true → (call ∈ first ↔ call ∈ second)
  types : ∀ id, lastNode? typeEntry? first id = lastNode? typeEntry? second id
  errors : ∀ id, lastNode? errorEntry? first id = lastNode? errorEntry? second id
  endpoints : ∀ id, lastNode? endpointEntry? first id = lastNode? endpointEntry? second id

theorem marked_eq_nil {call : Population} (registers : call.isMark = false)
    (audiences : List String) :
    call.markedTypes audiences = [] ∧ call.markedServices audiences = [] ∧
      call.markedEndpoints audiences = [] := by
  cases call with
  | markType name tags => cases registers
  | markEndpoints service endpoints tags => cases registers
  | addType name descendants => exact ⟨rfl, rfl, rfl⟩
  | addError declaration => exact ⟨rfl, rfl, rfl⟩
  | addEndpoint service endpoint => exact ⟨rfl, rfl, rfl⟩

theorem mem_marked_congr {α : Type} {marked : Population → List α}
    (onlyMarks : ∀ call, call.isMark = false → marked call = []) {first second : List Population}
    (same : ∀ call, call.isMark = true → (call ∈ first ↔ call ∈ second)) (element : α) :
    element ∈ first.flatMap marked ↔ element ∈ second.flatMap marked := by
  have isMark {call : Population} (marks : element ∈ marked call) : call.isMark = true := by
    by_contra registers
    rw [onlyMarks call (Bool.eq_false_iff.mpr registers)] at marks
    exact List.not_mem_nil marks
  rw [List.mem_flatMap, List.mem_flatMap]
  constructor
  · intro found
    obtain ⟨call, member, marks⟩ := found
    exact ⟨call, (same call (isMark marks)).mp member, marks⟩
  · intro found
    obtain ⟨call, member, marks⟩ := found
    exact ⟨call, (same call (isMark marks)).mpr member, marks⟩

section LastNode

variable {κ ν : Type} [DecidableEq κ] {node? : Population → Option (κ × ν)}

private theorem getLast?_eq_of_perm {α : Type} {items others : List α} (perm : items.Perm others)
    (equal : ∀ first ∈ items, ∀ second ∈ items, first = second) :
    items.getLast? = others.getLast? := by
  cases last : others.getLast? with
  | none =>
      rw [List.getLast?_eq_none_iff] at last ⊢
      exact (last ▸ perm).eq_nil
  | some other =>
      have otherMember : other ∈ items := perm.mem_iff.mpr (List.mem_of_getLast? last)
      cases first : items.getLast? with
      | none =>
          rw [List.getLast?_eq_none_iff.mp first] at otherMember
          exact absurd otherMember List.not_mem_nil
      | some item => exact congrArg some (equal item (List.mem_of_getLast? first) other otherMember)

theorem lastNode?_eq_of_perm {first second : List Population} (perm : first.Perm second)
    (agree : ∀ call ∈ first, ∀ other ∈ first, ¬ Differ node? call other) (key : κ) :
    lastNode? node? first key = lastNode? node? second key := by
  rw [lastNode?, lastNode?, ← List.getLast?_map, ← List.getLast?_map]
  refine getLast?_eq_of_perm (((perm.filterMap node?).filter _).map _) ?_
  intro node fromFirst other fromSecond
  by_contra different
  have source {found : ν} (member : found ∈ ((first.filterMap node?).filter fun entry =>
      entry.1 = key).map Prod.snd) : ∃ call ∈ first, node? call = some (key, found) := by
    obtain ⟨entry, kept, rfl⟩ := List.mem_map.mp member
    obtain ⟨registered, sameKey⟩ := List.mem_filter.mp kept
    obtain ⟨call, member, gives⟩ := List.mem_filterMap.mp registered
    refine ⟨call, member, ?_⟩
    rw [gives, ← of_decide_eq_true sameKey]
  obtain ⟨call, member, gives⟩ := source fromFirst
  obtain ⟨otherCall, otherMember, otherGives⟩ := source fromSecond
  exact agree call member otherCall otherMember ⟨key, node, other, gives, otherGives, different⟩

theorem lastNode?_append_self (calls : List Population) (key : κ) :
    lastNode? node? (calls ++ calls) key = lastNode? node? calls key := by
  rw [lastNode?, lastNode?, List.filterMap_append, List.filter_append, List.getLast?_append,
    Option.or_self]

theorem lastNode?_append (first second : List Population) (key : κ) :
    lastNode? node? (first ++ second) key =
      (lastNode? node? second key).or (lastNode? node? first key) := by
  rw [lastNode?, List.filterMap_append, List.filter_append, List.getLast?_append, Option.map_or]
  rfl

theorem lastNode?_pair_swap {first second : Population} (agree : ¬ Differ node? first second)
    (swapped : ¬ Differ node? second first) (key : κ) :
    lastNode? node? [first, second] key = lastNode? node? [second, first] key := by
  refine lastNode?_eq_of_perm (.swap second first []) ?_ key
  intro call member other otherMember
  have self (call : Population) : ¬ Differ node? call call := by
    intro differ
    obtain ⟨key, node, other, gives, again, different⟩ := differ
    rw [gives] at again
    exact different (congrArg Prod.snd (Option.some.inj again))
  rcases List.mem_pair.mp member with rfl | rfl
  · rcases List.mem_pair.mp otherMember with rfl | rfl
    · exact self _
    · exact agree
  · rcases List.mem_pair.mp otherMember with rfl | rfl
    · exact swapped
    · exact self _

omit [DecidableEq κ] in
theorem Differ.symm {first second : Population} (differ : Differ node? first second) :
    Differ node? second first := by
  obtain ⟨key, node, other, gives, otherGives, different⟩ := differ
  exact ⟨key, other, node, otherGives, gives, different.symm⟩

theorem lastNode?_swap {first second : Population} (agree : ¬ Differ node? first second)
    (before after : List Population) (key : κ) :
    lastNode? node? (before ++ first :: second :: after) key =
      lastNode? node? (before ++ second :: first :: after) key := by
  have split (one two : Population) :
      before ++ one :: two :: after = before ++ ([one, two] ++ after) := rfl
  rw [split, split, lastNode?_append, lastNode?_append, lastNode?_append, lastNode?_append,
    lastNode?_pair_swap agree (mt Differ.symm agree)]

theorem Differ.lastNode?_ne {first second : Population} (differ : Differ node? first second) :
    ∃ key, lastNode? node? [first, second] key ≠ lastNode? node? [second, first] key := by
  obtain ⟨key, node, other, gives, otherGives, different⟩ := differ
  refine ⟨key, ?_⟩
  simp [lastNode?, gives, otherGives, different.symm]

end LastNode

end Population

/-! ### Graphs -/

namespace AudienceGraph

open Population

variable {audiences : List String}

theorem populateAll_congr {first second : List Population} (amounts : Amounts first second) :
    (empty audiences).populateAll first = (empty audiences).populateAll second := by
  have types : OrderedMap.ofList (first.filterMap typeEntry?) =
      OrderedMap.ofList (second.filterMap typeEntry?) :=
    OrderedMap.ext_get? fun id => by
      rw [OrderedMap.get?_ofList, OrderedMap.get?_ofList]
      exact amounts.types id
  have errors : OrderedMap.ofList (first.filterMap errorEntry?) =
      OrderedMap.ofList (second.filterMap errorEntry?) :=
    OrderedMap.ext_get? fun id => by
      rw [OrderedMap.get?_ofList, OrderedMap.get?_ofList]
      exact amounts.errors id
  have endpoints : OrderedMap.ofList (first.filterMap endpointEntry?) =
      OrderedMap.ofList (second.filterMap endpointEntry?) :=
    OrderedMap.ext_get? fun id => by
      rw [OrderedMap.get?_ofList, OrderedMap.get?_ofList]
      exact amounts.endpoints id
  have marked {α : Type} [LT α] [DecidableLT α] [StrictOrder α] {marked : Population → List α}
      (onlyMarks : ∀ call, call.isMark = false → marked call = []) :
      OrderedSet.ofList (first.flatMap marked) = OrderedSet.ofList (second.flatMap marked) :=
    OrderedSet.ext_mem fun element => by
      rw [OrderedSet.mem_ofList, OrderedSet.mem_ofList]
      exact mem_marked_congr onlyMarks amounts.marks element
  rw [populateAll_eq, populateAll_eq, ofCalls, ofCalls, types, errors, endpoints,
    marked fun call registers => (marked_eq_nil registers audiences).1,
    marked fun call registers => (marked_eq_nil registers audiences).2.1,
    marked fun call registers => (marked_eq_nil registers audiences).2.2]

theorem get?_types_populateAll (calls : List Population) (id : TypeId) :
    ((empty audiences).populateAll calls).types.get? id = lastNode? typeEntry? calls id := by
  rw [populateAll_eq, ofCalls, OrderedMap.get?_ofList]
  rfl

theorem get?_errors_populateAll (calls : List Population) (id : ErrorId) :
    ((empty audiences).populateAll calls).errors.get? id = lastNode? errorEntry? calls id := by
  rw [populateAll_eq, ofCalls, OrderedMap.get?_ofList]
  rfl

theorem get?_endpoints_populateAll (calls : List Population) (id : EndpointId) :
    ((empty audiences).populateAll calls).endpoints.get? id =
      lastNode? endpointEntry? calls id := by
  rw [populateAll_eq, ofCalls, OrderedMap.get?_ofList]
  rfl

/-- Two calls may be exchanged at every place unless they register one identifier with different
nodes; then the one that comes last counts. -/
theorem populateAll_swap_iff (audiences : List String) (first second : Population) :
    (∀ before after, (empty audiences).populateAll (before ++ first :: second :: after) =
      (empty audiences).populateAll (before ++ second :: first :: after)) ↔
        ¬ first.Conflicts second := by
  constructor
  · intro exchange conflicts
    have same := exchange [] []
    rcases conflicts with differ | differ | differ
    · obtain ⟨id, different⟩ := differ.lastNode?_ne
      rw [← get?_types_populateAll, ← get?_types_populateAll] at different
      exact different (congrArg (fun graph => graph.types.get? id) same)
    · obtain ⟨id, different⟩ := differ.lastNode?_ne
      rw [← get?_errors_populateAll, ← get?_errors_populateAll] at different
      exact different (congrArg (fun graph => graph.errors.get? id) same)
    · obtain ⟨id, different⟩ := differ.lastNode?_ne
      rw [← get?_endpoints_populateAll, ← get?_endpoints_populateAll] at different
      exact different (congrArg (fun graph => graph.endpoints.get? id) same)
  · intro compatible before after
    have perm : (before ++ first :: second :: after).Perm (before ++ second :: first :: after) :=
      (List.Perm.swap second first after).append_left before
    refine populateAll_congr
      { marks := fun call _ => perm.mem_iff
        types := lastNode?_swap (fun differ => compatible (.inl differ)) before after
        errors := lastNode?_swap (fun differ => compatible (.inr (.inl differ))) before after
        endpoints := lastNode?_swap (fun differ => compatible (.inr (.inr differ))) before after }

theorem populateAll_perm {first second : List Population} (perm : first.Perm second)
    (compatible : ∀ call ∈ first, ∀ other ∈ first, ¬ call.Conflicts other) :
    (empty audiences).populateAll first = (empty audiences).populateAll second := by
  refine populateAll_congr
    { marks := fun call _ => perm.mem_iff
      types := lastNode?_eq_of_perm perm fun call member other otherMember differ =>
        compatible call member other otherMember (.inl differ)
      errors := lastNode?_eq_of_perm perm fun call member other otherMember differ =>
        compatible call member other otherMember (.inr (.inl differ))
      endpoints := lastNode?_eq_of_perm perm fun call member other otherMember differ =>
        compatible call member other otherMember (.inr (.inr differ)) }

theorem populateAll_append_self (calls : List Population) :
    (empty audiences).populateAll (calls ++ calls) = (empty audiences).populateAll calls := by
  refine populateAll_congr
    { marks := fun call _ => by rw [List.mem_append, or_self]
      types := lastNode?_append_self calls
      errors := lastNode?_append_self calls
      endpoints := lastNode?_append_self calls }

end AudienceGraph

/-! ### Documents -/

/-- The same service declaration with its endpoints in some other order. -/
structure Service.Reorders (service other : Service) : Prop where
  name : service.name = other.name
  audiences : service.audiences = other.audiences
  endpoints : service.endpoints.Perm other.endpoints

namespace Document

/-- The same declarations in some other order, the endpoints of each service among themselves. -/
structure Reorders (document other : Document) : Prop where
  apiName : document.apiName = other.apiName
  types : document.types.Perm other.types
  errors : document.errors.Perm other.errors
  services : ∃ middle, document.services.Perm middle ∧
    List.Forall₂ Service.Reorders middle other.services

/-- A service that is declared twice does no harm as long as it does not repeat an endpoint. -/
structure RepeatsNoId (document : Document) : Prop where
  types : (document.types.map fun declaration => declaration.name.typeId).Nodup
  errors : (document.errors.map fun declaration => declaration.name.errorId).Nodup
  endpoints : (document.endpoints.map fun declared => declared.1.endpointId declared.2).Nodup

variable {document other : Document} {audiences : List String}

theorem Reorders.exists_service_iff (reorders : document.Reorders other) {property : Service → Prop}
    (invariant : ∀ service other, service.Reorders other → (property service ↔ property other)) :
    (∃ service ∈ document.services, property service) ↔
      ∃ service ∈ other.services, property service := by
  obtain ⟨middle, perm, related⟩ := reorders.services
  have alongRelated : (∃ service ∈ middle, property service) ↔
      ∃ service ∈ other.services, property service := by
    clear perm
    generalize other.services = others at related
    induction related with
    | nil => exact Iff.rfl
    | cons head tail ih => rw [List.exists_mem_cons_iff, List.exists_mem_cons_iff, ih,
        invariant _ _ head]
  rw [← alongRelated]
  exact exists_congr fun service => and_congr_left fun _ => perm.mem_iff

theorem Reorders.endpoints_perm (reorders : document.Reorders other) :
    document.endpoints.Perm other.endpoints := by
  obtain ⟨middle, perm, related⟩ := reorders.services
  refine (perm.flatMap_right _).trans ?_
  rw [endpoints]
  clear perm
  generalize other.services = others at related
  induction related with
  | nil => exact .nil
  | cons head tail ih =>
      rw [List.flatMap_cons, List.flatMap_cons, head.name]
      exact (head.endpoints.map _).append ih

private theorem getLast?_filter_eq {α κ : Type} [DecidableEq κ] {items others : List α} {id : α → κ}
    (perm : items.Perm others) (distinct : (items.map id).Nodup) (key : κ) :
    (items.filter fun item => id item = key).getLast? =
      (others.filter fun item => id item = key).getLast? := by
  refine Population.getLast?_eq_of_perm (perm.filter _) ?_
  intro first firstMember second secondMember
  obtain ⟨firstIn, firstKey⟩ := List.mem_filter.mp firstMember
  obtain ⟨secondIn, secondKey⟩ := List.mem_filter.mp secondMember
  refine List.inj_on_of_nodup_map distinct firstIn secondIn ?_
  rw [of_decide_eq_true firstKey, of_decide_eq_true secondKey]

theorem graph_reordered (unrepeated : document.RepeatsNoId) (reorders : document.Reorders other)
    (audiences : List String) : document.graph audiences = other.graph audiences := by
  have types : (document.graph audiences).types = (other.graph audiences).types :=
    OrderedMap.ext_get? fun id => by
      rw [get?_types, get?_types, lastType?, lastType?,
        getLast?_filter_eq reorders.types unrepeated.types id]
  have errors : (document.graph audiences).errors = (other.graph audiences).errors :=
    OrderedMap.ext_get? fun id => by
      rw [get?_errors, get?_errors, lastError?, lastError?,
        getLast?_filter_eq reorders.errors unrepeated.errors id]
  have endpoints : (document.graph audiences).endpoints = (other.graph audiences).endpoints :=
    OrderedMap.ext_get? fun id => by
      rw [get?_endpoints, get?_endpoints, lastEndpoint?, lastEndpoint?,
        getLast?_filter_eq reorders.endpoints_perm unrepeated.endpoints id]
  have neededTypes : (document.graph audiences).neededTypes =
      (other.graph audiences).neededTypes :=
    OrderedSet.ext_mem fun id => by
      rw [mem_neededTypes, mem_neededTypes]
      exact exists_congr fun declaration => and_congr_left fun _ => reorders.types.mem_iff
  have neededServices : (document.graph audiences).neededServices =
      (other.graph audiences).neededServices :=
    OrderedSet.ext_mem fun id => by
      rw [mem_neededServices, mem_neededServices]
      refine reorders.exists_service_iff fun service other same => ?_
      rw [same.name, same.audiences]
      refine and_congr_right fun _ => or_congr_right ?_
      exact exists_congr fun endpoint => and_congr_left fun _ => same.endpoints.mem_iff
  have neededEndpoints : (document.graph audiences).neededEndpoints =
      (other.graph audiences).neededEndpoints :=
    OrderedSet.ext_mem fun id => by
      rw [mem_neededEndpoints, mem_neededEndpoints]
      refine reorders.exists_service_iff fun service other same => ?_
      rw [same.name, same.audiences]
      exact exists_congr fun endpoint => and_congr_left fun _ => same.endpoints.mem_iff
  have sameAudiences :
      (document.graph audiences).audiences = (other.graph audiences).audiences := by
    rw [graph_eq, graph_eq]
    rfl
  calc document.graph audiences
      = ⟨(document.graph audiences).audiences, (document.graph audiences).types,
          (document.graph audiences).errors, (document.graph audiences).endpoints,
          (document.graph audiences).neededTypes, (document.graph audiences).neededServices,
          (document.graph audiences).neededEndpoints⟩ := rfl
    _ = ⟨(other.graph audiences).audiences, (other.graph audiences).types,
          (other.graph audiences).errors, (other.graph audiences).endpoints,
          (other.graph audiences).neededTypes, (other.graph audiences).neededServices,
          (other.graph audiences).neededEndpoints⟩ := by
        rw [sameAudiences, types, errors, endpoints, neededTypes, neededServices, neededEndpoints]
    _ = other.graph audiences := rfl

theorem everything_reordered (reorders : document.Reorders other) :
    Manifest.everything document = Manifest.everything other := by
  have services : OrderedSet.ofList (document.services.map fun service => service.name.id) =
      OrderedSet.ofList (other.services.map fun service => service.name.id) :=
    OrderedSet.ext_mem fun id => by
      rw [OrderedSet.mem_ofList, OrderedSet.mem_ofList, List.mem_map, List.mem_map]
      exact reorders.exists_service_iff fun service other same => by rw [same.name]
  have endpoints : OrderedSet.ofList (document.services.flatMap fun service =>
        service.endpoints.map service.name.endpointId) =
      OrderedSet.ofList (other.services.flatMap fun service =>
        service.endpoints.map service.name.endpointId) :=
    OrderedSet.ext_mem fun id => by
      rw [OrderedSet.mem_ofList, OrderedSet.mem_ofList, List.mem_flatMap, List.mem_flatMap]
      refine reorders.exists_service_iff fun service other same => ?_
      rw [same.name]
      exact (same.endpoints.map _).mem_iff
  have ofPerm {α : Type} {kind : DeclarationKind} {items others : List α} (perm : items.Perm others)
      (id : α → Id kind) : OrderedSet.ofList (items.map id) = OrderedSet.ofList (others.map id) :=
    OrderedSet.ext_mem fun element => by
      rw [OrderedSet.mem_ofList, OrderedSet.mem_ofList]
      exact (perm.map id).mem_iff
  rw [Manifest.everything, Manifest.everything, services, endpoints, ofPerm reorders.types,
    ofPerm reorders.errors]

theorem filter_reordered (unrepeated : document.RepeatsNoId) (reorders : document.Reorders other)
    (selection : Selection) : document.filter selection = other.filter selection := by
  cases selection with
  | all => exact congrArg Except.ok (everything_reordered reorders)
  | only audiences =>
      exact congrArg AudienceGraph.build (graph_reordered unrepeated reorders audiences)

end Document

/-- A graph and its closure depend on which marks are made and on what is registered last for each
identifier, and on nothing else of the order and number of calls. -/
theorem population_order_irrelevant (audiences : List String) :
    (∀ first second, Population.Amounts first second →
      (AudienceGraph.empty audiences).populateAll first =
          (AudienceGraph.empty audiences).populateAll second ∧
        ((AudienceGraph.empty audiences).populateAll first).build =
          ((AudienceGraph.empty audiences).populateAll second).build) ∧
    (∀ first second : Population,
      (∀ before after,
        (AudienceGraph.empty audiences).populateAll (before ++ first :: second :: after) =
          (AudienceGraph.empty audiences).populateAll (before ++ second :: first :: after)) ↔
        ¬ first.Conflicts second) ∧
    (∀ first second : List Population, first.Perm second →
      (∀ call ∈ first, ∀ other ∈ first, ¬ call.Conflicts other) →
        (AudienceGraph.empty audiences).populateAll first =
          (AudienceGraph.empty audiences).populateAll second) ∧
    (∀ calls, (AudienceGraph.empty audiences).populateAll (calls ++ calls) =
      (AudienceGraph.empty audiences).populateAll calls) ∧
    ∀ document other : Document, document.RepeatsNoId → document.Reorders other →
      ∀ selection, document.filter selection = other.filter selection := by
  refine ⟨?amounts, AudienceGraph.populateAll_swap_iff audiences,
    fun first second => AudienceGraph.populateAll_perm, AudienceGraph.populateAll_append_self,
    fun document other => Document.filter_reordered⟩
  intro first second amounts
  have same : (AudienceGraph.empty audiences).populateAll first =
      (AudienceGraph.empty audiences).populateAll second := AudienceGraph.populateAll_congr amounts
  exact ⟨same, congrArg AudienceGraph.build same⟩

/-- A type is registered twice, marked in between, and an error has the spelling of the type. -/
def Population.registeredTwice : List Population :=
  [.addType ⟨[], "A"⟩ [⟨[], "B"⟩], .markType ⟨[], "A"⟩ ["web"], .addType ⟨[], "A"⟩ [],
    .addError ⟨⟨[], "A"⟩, none, none⟩]

/-- The mark comes first and is repeated, and only the last registration of the type is made. -/
def Population.markedFirst : List Population :=
  [.markType ⟨[], "A"⟩ ["web"], .addError ⟨⟨[], "A"⟩, none, none⟩, .addType ⟨[], "A"⟩ [],
    .markType ⟨[], "A"⟩ ["web"]]

theorem registeredTwice_amounts_markedFirst :
    Population.Amounts Population.registeredTwice Population.markedFirst where
  marks call isMark := by
    cases call with
    | markType name tags => simp [Population.registeredTwice, Population.markedFirst]
    | markEndpoints service endpoints tags =>
        simp [Population.registeredTwice, Population.markedFirst]
    | addType name descendants => cases isMark
    | addError declaration => cases isMark
    | addEndpoint service endpoint => cases isMark
  types id := by
    by_cases same : (⟨[], "A"⟩ : QualifiedName).typeId = id <;>
      simp [Population.lastNode?, Population.registeredTwice, Population.markedFirst,
        List.filterMap_cons, same]
  errors id := rfl
  endpoints id := rfl

theorem population_order_irrelevant_markedFirst :
    Population.Amounts Population.registeredTwice Population.markedFirst ∧
      (AudienceGraph.empty ["web"]).populateAll Population.registeredTwice =
        (AudienceGraph.empty ["web"]).populateAll Population.markedFirst := by
  obtain ⟨ofAmounts, _⟩ := population_order_irrelevant ["web"]
  exact ⟨registeredTwice_amounts_markedFirst,
    (ofAmounts _ _ registeredTwice_amounts_markedFirst).1⟩

end AudienceScope
