import AudienceScope.Proofs.Encoding
import Mathlib.Data.List.Perm.Basic

/-!
Values in which no object repeats the name of a member. Putting such a value into canonical form
sorts members and does nothing else, so the same is found under every name and nesting does not
change. Main statements: `Sorts.lookup_eq` and `depth_canonical`.
-/

set_option autoImplicit false

namespace AudienceScope

namespace OrderedMap

variable {κ ν : Type} [LT κ] [DecidableLT κ] [StrictOrder κ]

theorem perm_place {key : κ} {value : ν} {entries : List (κ × ν)}
    (absent : key ∉ entries.map Prod.fst) :
    (place key value entries).Perm ((key, value) :: entries) := by
  induction entries with
  | nil => exact .refl _
  | cons head tail ih =>
      obtain ⟨found, old⟩ := head
      obtain ⟨different, absentBehind⟩ :=
        not_or.mp fun present => absent (List.mem_cons.mpr present)
      unfold place
      split
      case isTrue => exact .refl _
      case isFalse notBefore =>
          split
          case isTrue => exact ((ih absentBehind).cons _).trans (.swap _ _ _)
          case isFalse notAfter =>
              exact absurd (StrictOrder.eq_of_not_lt notBefore notAfter) different

theorem perm_ofList {entries : List (κ × ν)} (distinct : (entries.map Prod.fst).Nodup) :
    (ofList entries).entries.Perm entries := by
  induction entries using List.reverseRecOn with
  | nil => exact .refl _
  | append_singleton entries entry ih =>
      rw [List.map_append, List.nodup_append] at distinct
      obtain ⟨before, _, apart⟩ := distinct
      have inOrder := ih before
      have absent : entry.1 ∉ (ofList entries).entries.map Prod.fst := by
        intro present
        exact apart _ ((inOrder.map Prod.fst).mem_iff.mp present) _ List.mem_cons_self rfl
      rw [ofList_concat]
      calc
        (place entry.1 entry.2 (ofList entries).entries).Perm (entry :: (ofList entries).entries) :=
          perm_place absent
        List.Perm _ (entry :: entries) := inOrder.cons entry
        List.Perm _ (entries ++ [entry]) := (List.perm_append_singleton entry entries).symm

end OrderedMap

section Lookup

variable {ν : Type} {first second : List (String × ν)} {name : String} {value : ν}

theorem lookup_of_mem (distinct : (first.map Prod.fst).Nodup) (member : (name, value) ∈ first) :
    first.lookup name = some value := by
  induction first with
  | nil => cases member
  | cons head tail ih =>
      obtain ⟨found, old⟩ := head
      obtain ⟨once, distinctBehind⟩ := List.nodup_cons.mp distinct
      rw [List.lookup_cons]
      cases List.mem_cons.mp member with
      | inl here =>
          cases here
          rw [beq_self_eq_true]
      | inr behind =>
          have different : (name == found) = false := by
            apply beq_false_of_ne
            rintro rfl
            exact once (List.mem_map.mpr ⟨_, behind, rfl⟩)
          rw [different]
          exact ih distinctBehind behind

theorem mem_of_lookup (found : first.lookup name = some value) : (name, value) ∈ first := by
  obtain ⟨before, after, split, _⟩ := List.lookup_eq_some_iff.mp found
  rw [split]
  exact List.mem_append_right _ List.mem_cons_self

theorem lookup_eq_of_perm (distinct : (second.map Prod.fst).Nodup) (perm : first.Perm second)
    (name : String) : first.lookup name = second.lookup name := by
  have alsoDistinct : (first.map Prod.fst).Nodup := ((perm.map Prod.fst).nodup_iff).mpr distinct
  apply Option.ext
  intro value
  constructor
  · intro found
    exact lookup_of_mem distinct (perm.mem_iff.mp (mem_of_lookup found))
  · intro found
    exact lookup_of_mem alsoDistinct (perm.mem_iff.mpr (mem_of_lookup found))

end Lookup

namespace Json

mutual

def hasDistinctNames : Json → Bool
  | .list items => itemsHaveDistinctNames items
  | .object members =>
    decide (members.map Prod.fst).Nodup && membersHaveDistinctNames members
  | _ => true

def itemsHaveDistinctNames : List Json → Bool
  | [] => true
  | item :: rest => hasDistinctNames item && itemsHaveDistinctNames rest

def membersHaveDistinctNames : List (String × Json) → Bool
  | [] => true
  | (_, value) :: rest => hasDistinctNames value && membersHaveDistinctNames rest

end

theorem itemsHaveDistinctNames_iff {items : List Json} :
    itemsHaveDistinctNames items = true ↔ ∀ item ∈ items, item.hasDistinctNames = true := by
  induction items with
  | nil => simp [itemsHaveDistinctNames]
  | cons item rest ih => simp [itemsHaveDistinctNames, ih]

theorem membersHaveDistinctNames_iff {members : List (String × Json)} :
    membersHaveDistinctNames members = true ↔
      ∀ member ∈ members, member.2.hasDistinctNames = true := by
  induction members with
  | nil => simp [membersHaveDistinctNames]
  | cons member rest ih => simp [membersHaveDistinctNames, ih]

theorem canonicalMembers_eq_map (members : List (String × Json)) :
    canonicalMembers members = members.map fun member => (member.1, member.2.canonical) := by
  induction members with
  | nil => rfl
  | cons member rest ih => rw [canonicalMembers, List.map_cons, ih]

theorem names_canonicalMembers (members : List (String × Json)) :
    (canonicalMembers members).map Prod.fst = members.map Prod.fst := by
  rw [canonicalMembers_eq_map, List.map_map]
  rfl

theorem lookup_canonicalMembers (members : List (String × Json)) (name : String) :
    (canonicalMembers members).lookup name = (members.lookup name).map canonical := by
  induction members with
  | nil => rfl
  | cons member rest ih =>
      obtain ⟨found, value⟩ := member
      rw [canonicalMembers, List.lookup_cons, List.lookup_cons, ih]
      cases name == found <;> rfl

/-! ### Members in another order -/

/-- Whether the second list holds the members of the first in canonical form, in any order; the
first repeats no name, neither itself nor inside. -/
structure Sorts (members sorted : List (String × Json)) : Prop where
  once : (members.map Prod.fst).Nodup
  inside : ∀ member ∈ members, member.2.hasDistinctNames = true
  perm : sorted.Perm (canonicalMembers members)

theorem sorts_of_distinct {members : List (String × Json)}
    (distinct : (Json.object members).hasDistinctNames = true) :
    Sorts members (OrderedMap.ofList (canonicalMembers members)).entries := by
  obtain ⟨once, inside⟩ := Bool.and_eq_true_iff.mp distinct
  have once := of_decide_eq_true once
  refine ⟨once, membersHaveDistinctNames_iff.mp inside, OrderedMap.perm_ofList ?_⟩
  rw [names_canonicalMembers]
  exact once

namespace Sorts

variable {members sorted : List (String × Json)} {name : String} {value : Json}

theorem sorted_once (sorts : Sorts members sorted) : (sorted.map Prod.fst).Nodup := by
  rw [(sorts.perm.map Prod.fst).nodup_iff, names_canonicalMembers]
  exact sorts.once

theorem lookup_eq (sorts : Sorts members sorted) (name : String) :
    sorted.lookup name = (members.lookup name).map canonical := by
  have once : ((canonicalMembers members).map Prod.fst).Nodup := by
    rw [names_canonicalMembers]
    exact sorts.once
  rw [lookup_eq_of_perm once sorts.perm, lookup_canonicalMembers]

theorem distinct_of_lookup (sorts : Sorts members sorted)
    (found : members.lookup name = some value) : value.hasDistinctNames = true :=
  sorts.inside _ (mem_of_lookup found)

theorem filter (sorts : Sorts members sorted) (kept : String → Bool) :
    Sorts (members.filter fun member => kept member.1)
      (sorted.filter fun member => kept member.1) := by
  refine ⟨?_, ?_, ?_⟩
  · exact sorts.once.sublist (List.filter_sublist.map Prod.fst)
  · intro member present
    exact sorts.inside member (List.mem_filter.mp present).1
  · have same := sorts.perm.filter fun member => kept member.1
    rw [canonicalMembers_eq_map, List.filter_map] at same
    rw [canonicalMembers_eq_map]
    exact same

end Sorts

theorem membersDepth_eq_of_perm {first second : List (Key × Tree)} (perm : first.Perm second) :
    Tree.membersDepth first = Tree.membersDepth second := by
  induction perm with
  | nil => rfl
  | cons member _ ih => rw [Tree.membersDepth, Tree.membersDepth, ih]
  | swap member other rest =>
      simp only [Tree.membersDepth]
      omega
  | trans _ _ ihFirst ihSecond => exact ihFirst.trans ihSecond

theorem ofMembers_eq_map (members : List (String × Json)) :
    Tree.ofMembers members = members.map fun member => (.name member.1, Tree.ofValue member.2) := by
  induction members with
  | nil => rfl
  | cons member rest ih => rw [Tree.ofMembers, List.map_cons, ih]

mutual

theorem depth_canonical : (value : Json) → value.hasDistinctNames = true →
    (Tree.ofValue value.canonical).depth = (Tree.ofValue value).depth
  | .null, _ => rfl
  | .boolean _, _ => rfl
  | .number _, _ => rfl
  | .text _, _ => rfl
  | .list items, distinct => by
      rw [canonical, Tree.ofValue, Tree.ofValue, Tree.depth, Tree.depth,
        itemsDepth_canonicalItems items distinct]
  | .object members, distinct => by
      have perm := (sorts_of_distinct distinct).perm
      obtain ⟨_, inside⟩ := Bool.and_eq_true_iff.mp distinct
      have sameDepth : Tree.membersDepth (Tree.ofMembers
          (OrderedMap.ofList (canonicalMembers members)).entries) =
            Tree.membersDepth (Tree.ofMembers (canonicalMembers members)) := by
        rw [ofMembers_eq_map, ofMembers_eq_map]
        exact membersDepth_eq_of_perm (perm.map _)
      rw [canonical, Tree.ofValue, Tree.ofValue, Tree.depth, Tree.depth, sameDepth,
        membersDepth_canonicalMembers members inside]

theorem itemsDepth_canonicalItems : (items : List Json) → itemsHaveDistinctNames items = true →
    Tree.itemsDepth (Tree.ofItems (canonicalItems items)) =
      Tree.itemsDepth (Tree.ofItems items)
  | [], _ => rfl
  | item :: rest, distinct => by
      obtain ⟨first, others⟩ := Bool.and_eq_true_iff.mp distinct
      rw [canonicalItems, Tree.ofItems, Tree.ofItems, Tree.itemsDepth, Tree.itemsDepth,
        depth_canonical item first, itemsDepth_canonicalItems rest others]

theorem membersDepth_canonicalMembers : (members : List (String × Json)) →
    membersHaveDistinctNames members = true →
      Tree.membersDepth (Tree.ofMembers (canonicalMembers members)) =
        Tree.membersDepth (Tree.ofMembers members)
  | [], _ => rfl
  | (_, value) :: rest, distinct => by
      obtain ⟨first, others⟩ := Bool.and_eq_true_iff.mp distinct
      rw [canonicalMembers, Tree.ofMembers, Tree.ofMembers, Tree.membersDepth, Tree.membersDepth,
        depth_canonical value first, membersDepth_canonicalMembers rest others]

end

mutual

theorem ofValue_bareValue : (tree : Tree) → tree.fault? = none →
    Tree.ofValue tree.bareValue = tree
  | .null, _ => rfl
  | .boolean _, _ => rfl
  | .number _, _ => rfl
  | .text _, _ => rfl
  | .list true _ _, faultless => nomatch faultless
  | .list false items ending, faultless => by
      obtain ⟨inItems, atEnd⟩ := Option.or_eq_none_iff.mp faultless
      rw [Tree.bareValue, Tree.ofValue, ofItems_bareItems items inItems,
        ListEnd.fault?_eq_none_iff.mp atEnd]
  | .object true _ _, faultless => nomatch faultless
  | .object false members ending, faultless => by
      obtain ⟨inMembers, atEnd⟩ := Option.or_eq_none_iff.mp faultless
      rw [Tree.bareValue, Tree.ofValue, ofMembers_bareMembers members inMembers,
        ObjectEnd.fault?_eq_none_iff.mp atEnd]
  | .flawed _ _, faultless => nomatch faultless

theorem ofItems_bareItems : (items : List Tree) → Tree.itemsFault? items = none →
    Tree.ofItems (Tree.bareItems items) = items
  | [], _ => rfl
  | item :: rest, faultless => by
      obtain ⟨first, others⟩ := Option.or_eq_none_iff.mp faultless
      rw [Tree.bareItems, Tree.ofItems, ofValue_bareValue item first, ofItems_bareItems rest others]

theorem ofMembers_bareMembers : (members : List (Key × Tree)) →
    Tree.membersFault? members = none → Tree.ofMembers (Tree.bareMembers members) = members
  | [], _ => rfl
  | (.name _, value) :: rest, faultless => by
      obtain ⟨_, behind⟩ := Option.or_eq_none_iff.mp faultless
      obtain ⟨first, others⟩ := Option.or_eq_none_iff.mp behind
      rw [Tree.bareMembers, Tree.ofMembers, ofValue_bareValue value first,
        ofMembers_bareMembers rest others]
  | (.flawed _, _) :: _, faultless => nomatch (Option.or_eq_none_iff.mp faultless).1

end

end Json

end AudienceScope
