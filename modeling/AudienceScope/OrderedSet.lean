/-!
Finite sets stored as strictly ascending lists. All that is asked of the elements is a strict total
order; text is ordered by code points, which is also the order of its UTF-8 bytes. The list is
determined by the members, so equality of sets is equality of values and walking through a set in
ascending order is walking through its list. Main statements: `mem_insert`, `mem_addAll` and
`ext_mem`.
-/

set_option autoImplicit false

namespace AudienceScope

/-- A strict order in which any two different elements are comparable. -/
class StrictOrder (α : Type) [LT α] : Prop where
  irrefl : ∀ element : α, ¬ element < element
  trans : ∀ {first second third : α}, first < second → second < third → first < third
  total : ∀ first second : α, first < second ∨ first = second ∨ second < first

namespace StrictOrder

variable {α : Type} [LT α] [StrictOrder α]

theorem ne_of_lt {first second : α} (before : first < second) : first ≠ second :=
  fun same => irrefl second (same ▸ before)

theorem asymm {first second : α} (before : first < second) : ¬ second < first :=
  fun after => irrefl first (trans before after)

theorem eq_of_not_lt {first second : α} (notBefore : ¬ first < second)
    (notAfter : ¬ second < first) : first = second :=
  ((total first second).resolve_left notBefore).resolve_right notAfter

end StrictOrder

instance : StrictOrder String where
  irrefl := String.lt_irrefl
  trans := String.lt_trans
  total := by
    intro first second
    by_cases before : first < second
    · exact .inl before
    · by_cases after : second < first
      · exact .inr (.inr after)
      · exact .inr (.inl (String.le_antisymm (String.not_lt.1 after) (String.not_lt.1 before)))

/-- A finite set, held as the strictly ascending list of its members. -/
structure OrderedSet (α : Type) [LT α] where
  toList : List α
  ascending : toList.Pairwise (· < ·)
deriving DecidableEq

namespace OrderedSet

variable {α : Type} [LT α]

def empty : OrderedSet α := ⟨[], .nil⟩

instance : Inhabited (OrderedSet α) := ⟨empty⟩

instance : Membership α (OrderedSet α) where
  mem set element := element ∈ set.toList

def isEmpty (set : OrderedSet α) : Bool := set.toList.isEmpty

def size (set : OrderedSet α) : Nat := set.toList.length

theorem mem_iff {set : OrderedSet α} {element : α} : element ∈ set ↔ element ∈ set.toList :=
  Iff.rfl

theorem not_mem_empty (element : α) : element ∉ (empty : OrderedSet α) :=
  fun member => nomatch member

section Membership

variable [DecidableEq α]

instance (element : α) (set : OrderedSet α) : Decidable (element ∈ set) :=
  inferInstanceAs (Decidable (element ∈ set.toList))

def contains (set : OrderedSet α) (element : α) : Bool := decide (element ∈ set)

theorem contains_iff {set : OrderedSet α} {element : α} :
    set.contains element = true ↔ element ∈ set :=
  decide_eq_true_iff

end Membership

variable [DecidableLT α]

/-- Puts an element in its place in an ascending list; an element that is there is not repeated. -/
def place (element : α) : List α → List α
  | [] => [element]
  | head :: tail =>
    if element < head then element :: head :: tail
    else if head < element then head :: place element tail
    else head :: tail

variable [StrictOrder α]

theorem mem_place {element candidate : α} {members : List α} :
    candidate ∈ place element members ↔ candidate = element ∨ candidate ∈ members := by
  induction members with
  | nil => simp [place]
  | cons head tail ih =>
    unfold place
    split
    · simp
    · split
      · simp only [List.mem_cons, ih]
        exact or_left_comm
      · rename_i notBefore notAfter
        have same : element = head := StrictOrder.eq_of_not_lt notBefore notAfter
        simp [same]

theorem pairwise_place (element : α) {members : List α}
    (ascending : members.Pairwise (· < ·)) : (place element members).Pairwise (· < ·) := by
  induction members with
  | nil => exact List.pairwise_singleton _ _
  | cons head tail ih =>
    have headFirst : ∀ candidate ∈ tail, head < candidate :=
      fun _ => List.rel_of_pairwise_cons ascending
    unfold place
    split
    · rename_i before
      refine List.Pairwise.cons ?_ ascending
      intro candidate member
      rcases List.mem_cons.mp member with same | inTail
      · exact same ▸ before
      · exact StrictOrder.trans before (headFirst candidate inTail)
    · split
      · rename_i after
        refine List.Pairwise.cons ?_ (ih ascending.of_cons)
        intro candidate member
        rcases mem_place.mp member with same | inTail
        · exact same ▸ after
        · exact headFirst candidate inTail
      · exact ascending

def insert (set : OrderedSet α) (element : α) : OrderedSet α :=
  ⟨place element set.toList, pairwise_place element set.ascending⟩

theorem mem_insert {set : OrderedSet α} {element candidate : α} :
    candidate ∈ set.insert element ↔ candidate = element ∨ candidate ∈ set :=
  mem_place

def addAll (set : OrderedSet α) (elements : List α) : OrderedSet α :=
  elements.foldl insert set

theorem mem_addAll {set : OrderedSet α} {elements : List α} {candidate : α} :
    candidate ∈ set.addAll elements ↔ candidate ∈ elements ∨ candidate ∈ set := by
  induction elements generalizing set with
  | nil => simp [addAll]
  | cons head tail ih =>
    have step : set.addAll (head :: tail) = (set.insert head).addAll tail := rfl
    rw [step, ih, mem_insert, List.mem_cons]
    constructor
    · rintro (inTail | same | inSet)
      · exact .inl (.inr inTail)
      · exact .inl (.inl same)
      · exact .inr inSet
    · rintro ((same | inTail) | inSet)
      · exact .inr (.inl same)
      · exact .inl inTail
      · exact .inr (.inr inSet)

def ofList (elements : List α) : OrderedSet α := empty.addAll elements

theorem mem_ofList {elements : List α} {candidate : α} :
    candidate ∈ ofList elements ↔ candidate ∈ elements := by
  simp [ofList, mem_addAll, not_mem_empty]

theorem ofList_append (first second : List α) :
    ofList (first ++ second) = (ofList first).addAll second :=
  List.foldl_append ..

def union (set other : OrderedSet α) : OrderedSet α := set.addAll other.toList

theorem mem_union {set other : OrderedSet α} {candidate : α} :
    candidate ∈ set.union other ↔ candidate ∈ other ∨ candidate ∈ set :=
  mem_addAll

omit [DecidableLT α] in
private theorem eq_of_same_members {first second : List α}
    (firstAscending : first.Pairwise (· < ·)) (secondAscending : second.Pairwise (· < ·))
    (same : ∀ element, element ∈ first ↔ element ∈ second) : first = second := by
  induction first generalizing second with
  | nil =>
    cases second with
    | nil => rfl
    | cons head tail => exact absurd ((same head).mpr List.mem_cons_self) List.not_mem_nil
  | cons head tail ih =>
    cases second with
    | nil => exact absurd ((same head).mp List.mem_cons_self) List.not_mem_nil
    | cons other rest =>
      have headFirst : ∀ candidate ∈ tail, head < candidate :=
        fun _ => List.rel_of_pairwise_cons firstAscending
      have otherFirst : ∀ candidate ∈ rest, other < candidate :=
        fun _ => List.rel_of_pairwise_cons secondAscending
      have headEq : head = other := by
        rcases List.mem_cons.mp ((same head).mp List.mem_cons_self) with equal | inRest
        · exact equal
        · rcases List.mem_cons.mp ((same other).mpr List.mem_cons_self) with equal | inTail
          · exact equal.symm
          · exact absurd (headFirst _ inTail) (StrictOrder.asymm (otherFirst _ inRest))
      subst headEq
      refine congrArg (head :: ·) (ih firstAscending.of_cons secondAscending.of_cons ?_)
      intro element
      constructor
      · intro inTail
        rcases List.mem_cons.mp ((same element).mp (List.mem_cons_of_mem _ inTail)) with
          equal | inRest
        · exact absurd equal (StrictOrder.ne_of_lt (headFirst _ inTail)).symm
        · exact inRest
      · intro inRest
        rcases List.mem_cons.mp ((same element).mpr (List.mem_cons_of_mem _ inRest)) with
          equal | inTail
        · exact absurd equal (StrictOrder.ne_of_lt (otherFirst _ inRest)).symm
        · exact inTail

omit [DecidableLT α] in
theorem ext_mem {first second : OrderedSet α}
    (same : ∀ element, element ∈ first ↔ element ∈ second) : first = second := by
  obtain ⟨firstList, firstAscending⟩ := first
  obtain ⟨secondList, secondAscending⟩ := second
  have equal : firstList = secondList := eq_of_same_members firstAscending secondAscending same
  subst equal
  rfl

end OrderedSet

end AudienceScope
