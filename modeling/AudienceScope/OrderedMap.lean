import AudienceScope.OrderedSet

/-!
Finite maps stored as lists of entries with strictly ascending keys. Setting a key a second time
replaces its value, so a map is determined by its look-ups. Main statements: `get?_insert_self`,
`get?_insert_of_ne`, `get?_ofList` and `ext_get?`.
-/

set_option autoImplicit false

namespace AudienceScope

/-- A finite map, held as its list of entries in strictly ascending order of keys. -/
structure OrderedMap (κ ν : Type) [LT κ] where
  entries : List (κ × ν)
  ascending : entries.Pairwise (fun first second => first.1 < second.1)
deriving DecidableEq

namespace OrderedMap

variable {κ ν : Type} [LT κ]

def empty : OrderedMap κ ν := ⟨[], .nil⟩

instance : Inhabited (OrderedMap κ ν) := ⟨empty⟩

def size (map : OrderedMap κ ν) : Nat := map.entries.length

variable [DecidableEq κ]

def lookup (key : κ) : List (κ × ν) → Option ν
  | [] => none
  | (found, value) :: rest => if found = key then some value else lookup key rest

def get? (map : OrderedMap κ ν) (key : κ) : Option ν := lookup key map.entries

def contains (map : OrderedMap κ ν) (key : κ) : Bool := (map.get? key).isSome

theorem get?_empty (key : κ) : (empty : OrderedMap κ ν).get? key = none := rfl

variable [DecidableLT κ]

def place (key : κ) (value : ν) : List (κ × ν) → List (κ × ν)
  | [] => [(key, value)]
  | (found, old) :: rest =>
    if key < found then (key, value) :: (found, old) :: rest
    else if found < key then (found, old) :: place key value rest
    else (key, value) :: rest

variable [StrictOrder κ]

omit [DecidableEq κ] [StrictOrder κ] in
theorem mem_place {key : κ} {value : ν} {entries : List (κ × ν)} {entry : κ × ν}
    (member : entry ∈ place key value entries) : entry = (key, value) ∨ entry ∈ entries := by
  induction entries with
  | nil =>
    exact .inl (by simpa [place] using member)
  | cons head tail ih =>
    unfold place at member
    split at member
    · rcases List.mem_cons.mp member with same | rest
      · exact .inl same
      · exact .inr rest
    · split at member
      · rcases List.mem_cons.mp member with same | rest
        · exact .inr (same ▸ List.mem_cons_self)
        · exact (ih rest).imp_right (List.mem_cons_of_mem _)
      · rcases List.mem_cons.mp member with same | rest
        · exact .inl same
        · exact .inr (List.mem_cons_of_mem _ rest)

omit [DecidableEq κ] in
theorem pairwise_place (key : κ) (value : ν) {entries : List (κ × ν)}
    (ascending : entries.Pairwise (fun first second => first.1 < second.1)) :
    (place key value entries).Pairwise (fun first second => first.1 < second.1) := by
  induction entries with
  | nil => exact List.pairwise_singleton _ _
  | cons head tail ih =>
    have headFirst : ∀ entry ∈ tail, head.1 < entry.1 :=
      fun _ => List.rel_of_pairwise_cons ascending
    unfold place
    split
    · rename_i before
      refine List.Pairwise.cons ?_ ascending
      intro entry member
      rcases List.mem_cons.mp member with same | inTail
      · exact same ▸ before
      · exact StrictOrder.trans before (headFirst entry inTail)
    · split
      · rename_i after
        refine List.Pairwise.cons ?_ (ih ascending.of_cons)
        intro entry member
        rcases mem_place member with same | inTail
        · exact same ▸ after
        · exact headFirst entry inTail
      · rename_i notBefore notAfter
        have same : key = head.1 := StrictOrder.eq_of_not_lt notBefore notAfter
        refine List.Pairwise.cons ?_ ascending.of_cons
        intro entry inTail
        exact same ▸ headFirst entry inTail

def insert (map : OrderedMap κ ν) (key : κ) (value : ν) : OrderedMap κ ν :=
  ⟨place key value map.entries, pairwise_place key value map.ascending⟩

/-- Sets the entries of a list one after the other, so that of a repeated key the last counts. -/
def ofList (entries : List (κ × ν)) : OrderedMap κ ν :=
  entries.foldl (fun map entry => map.insert entry.1 entry.2) empty

omit [DecidableEq κ] in
theorem ofList_concat (entries : List (κ × ν)) (entry : κ × ν) :
    ofList (entries ++ [entry]) = (ofList entries).insert entry.1 entry.2 := by
  rw [ofList, List.foldl_append]
  rfl

omit [DecidableEq κ] in
private theorem mem_of_mem_foldl {map : OrderedMap κ ν} {entries : List (κ × ν)} {entry : κ × ν}
    (member : entry ∈ (entries.foldl (fun map entry => map.insert entry.1 entry.2) map).entries) :
    entry ∈ entries ∨ entry ∈ map.entries := by
  induction entries generalizing map with
  | nil => exact .inr member
  | cons head tail ih =>
    rcases ih member with inTail | inserted
    · exact .inl (List.mem_cons_of_mem _ inTail)
    · rcases mem_place inserted with same | inMap
      · exact .inl (same ▸ List.mem_cons_self)
      · exact .inr inMap

omit [DecidableEq κ] in
theorem mem_of_mem_ofList {entries : List (κ × ν)} {entry : κ × ν}
    (member : entry ∈ (ofList entries).entries) : entry ∈ entries :=
  (mem_of_mem_foldl member).resolve_right List.not_mem_nil

theorem lookup_place_self (key : κ) (value : ν) (entries : List (κ × ν)) :
    lookup key (place key value entries) = some value := by
  induction entries with
  | nil => simp [place, lookup]
  | cons head tail ih =>
    unfold place
    split
    · simp [lookup]
    · split
      · rename_i after
        simp [lookup, StrictOrder.ne_of_lt after, ih]
      · simp [lookup]

theorem lookup_place_of_ne {key other : κ} (value : ν) (different : other ≠ key)
    (entries : List (κ × ν)) : lookup other (place key value entries) = lookup other entries := by
  induction entries with
  | nil => simp [place, lookup, different.symm]
  | cons head tail ih =>
    obtain ⟨found, old⟩ := head
    unfold place
    split
    · simp [lookup, different.symm]
    · split
      · by_cases same : found = other
        · simp [lookup, same]
        · simp [lookup, same, ih]
      · rename_i notBefore notAfter
        have same : key = found := StrictOrder.eq_of_not_lt notBefore notAfter
        subst same
        simp [lookup, different.symm]

theorem get?_insert_self (map : OrderedMap κ ν) (key : κ) (value : ν) :
    (map.insert key value).get? key = some value :=
  lookup_place_self key value map.entries

theorem get?_insert_of_ne {key other : κ} (map : OrderedMap κ ν) (value : ν)
    (different : other ≠ key) : (map.insert key value).get? other = map.get? other :=
  lookup_place_of_ne value different map.entries

private theorem get?_foldl_insert (map : OrderedMap κ ν) (entries : List (κ × ν)) (key : κ) :
    (entries.foldl (fun map entry => map.insert entry.1 entry.2) map).get? key =
      ((entries.filter fun entry => entry.1 = key).getLast?.map Prod.snd).or (map.get? key) := by
  induction entries generalizing map with
  | nil => rfl
  | cons head tail ih =>
    rw [List.foldl_cons, ih]
    by_cases same : head.1 = key
    · rw [List.filter_cons_of_pos (by simpa using same), List.getLast?_cons, same,
        get?_insert_self]
      cases (tail.filter fun entry => entry.1 = key).getLast? <;> rfl
    · rw [List.filter_cons_of_neg (by simpa using same), get?_insert_of_ne _ _ (Ne.symm same)]

theorem get?_ofList (entries : List (κ × ν)) (key : κ) :
    (ofList entries).get? key =
      (entries.filter fun entry => entry.1 = key).getLast?.map Prod.snd := by
  rw [ofList, get?_foldl_insert, get?_empty, Option.or_none]

omit [DecidableLT κ] in
private theorem lookup_eq_none_of_lt {key : κ} {entries : List (κ × ν)}
    (before : ∀ entry ∈ entries, key < entry.1) : lookup key entries = none := by
  induction entries with
  | nil => rfl
  | cons head tail ih =>
    have headAfter := StrictOrder.ne_of_lt (before head List.mem_cons_self)
    unfold lookup
    rw [if_neg headAfter.symm]
    exact ih (fun entry member => before entry (List.mem_cons_of_mem _ member))

omit [DecidableLT κ] in
private theorem eq_of_same_lookups {first second : List (κ × ν)}
    (firstAscending : first.Pairwise (fun left right => left.1 < right.1))
    (secondAscending : second.Pairwise (fun left right => left.1 < right.1))
    (same : ∀ key, lookup key first = lookup key second) : first = second := by
  induction first generalizing second with
  | nil =>
    cases second with
    | nil => rfl
    | cons head tail => simpa [lookup] using same head.1
  | cons head tail ih =>
    cases second with
    | nil => simpa [lookup] using same head.1
    | cons other rest =>
      have headFirst : ∀ entry ∈ tail, head.1 < entry.1 :=
        fun entry => List.rel_of_pairwise_cons firstAscending
      have otherFirst : ∀ entry ∈ rest, other.1 < entry.1 :=
        fun entry => List.rel_of_pairwise_cons secondAscending
      have keyEq : head.1 = other.1 := by
        rcases StrictOrder.total head.1 other.1 with before | equal | after
        · have missing : lookup head.1 (other :: rest) = none :=
            lookup_eq_none_of_lt (by
              intro entry member
              rcases List.mem_cons.mp member with isOther | inRest
              · exact isOther ▸ before
              · exact StrictOrder.trans before (otherFirst entry inRest))
          have present := same head.1
          rw [missing] at present
          simp [lookup] at present
        · exact equal
        · have missing : lookup other.1 (head :: tail) = none :=
            lookup_eq_none_of_lt (by
              intro entry member
              rcases List.mem_cons.mp member with isHead | inTail
              · exact isHead ▸ after
              · exact StrictOrder.trans after (headFirst entry inTail))
          have present := same other.1
          rw [missing] at present
          simp [lookup] at present
      have valueEq : head.2 = other.2 := by
        have present := same head.1
        simpa [lookup, keyEq] using present
      have headEq : head = other := Prod.ext keyEq valueEq
      subst headEq
      refine congrArg (head :: ·) (ih firstAscending.of_cons secondAscending.of_cons ?_)
      intro key
      by_cases isHead : head.1 = key
      · rw [← isHead, lookup_eq_none_of_lt headFirst, lookup_eq_none_of_lt otherFirst]
      · simpa [lookup, isHead] using same key

omit [DecidableLT κ] in
theorem ext_get? {first second : OrderedMap κ ν}
    (same : ∀ key, first.get? key = second.get? key) : first = second := by
  obtain ⟨firstEntries, firstAscending⟩ := first
  obtain ⟨secondEntries, secondAscending⟩ := second
  have equal : firstEntries = secondEntries :=
    eq_of_same_lookups firstAscending secondAscending same
  subst equal
  rfl

end OrderedMap

end AudienceScope
