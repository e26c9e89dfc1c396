import AudienceScope.Decimal.Binary64
import AudienceScope.OrderedMap

/-!
JSON values. The members of an object keep their written order and may repeat a name; the canonical
form sorts them and keeps the last of repeated ones. Main statement: `isCanonical_canonical`.
-/

set_option autoImplicit false

namespace AudienceScope

inductive Number where
  | integer (value : Int)
  | binary (value : Binary64)
deriving DecidableEq

inductive Json where
  | null
  | boolean (value : Bool)
  | number (value : Number)
  | text (value : String)
  | list (items : List Json)
  | object (members : List (String × Json))
deriving Inhabited

namespace Json

def natural (value : Nat) : Json := .number (.integer value)

def texts (values : List String) : Json := .list (values.map .text)

mutual

def same : Json → Json → Bool
  | .null, .null => true
  | .boolean first, .boolean second => first == second
  | .number first, .number second => first == second
  | .text first, .text second => first == second
  | .list first, .list second => sameItems first second
  | .object first, .object second => sameMembers first second
  | _, _ => false

def sameItems : List Json → List Json → Bool
  | [], [] => true
  | first :: rest, second :: others => same first second && sameItems rest others
  | _, _ => false

def sameMembers : List (String × Json) → List (String × Json) → Bool
  | [], [] => true
  | (name, first) :: rest, (other, second) :: others =>
    name == other && same first second && sameMembers rest others
  | _, _ => false

end

mutual

theorem same_iff_eq : (first second : Json) → (same first second = true ↔ first = second)
  | .null, second => by cases second <;> simp [same]
  | .boolean first, second => by cases second <;> simp [same]
  | .number first, second => by cases second <;> simp [same]
  | .text first, second => by cases second <;> simp [same]
  | .list first, second => by
    cases second <;> simp [same]
    exact sameItems_iff_eq first _
  | .object first, second => by
    cases second <;> simp [same]
    exact sameMembers_iff_eq first _

theorem sameItems_iff_eq : (first second : List Json) →
    (sameItems first second = true ↔ first = second)
  | [], second => by cases second <;> simp [sameItems]
  | first :: rest, second => by
    cases second <;> simp [sameItems]
    rw [same_iff_eq first, sameItems_iff_eq rest]

theorem sameMembers_iff_eq : (first second : List (String × Json)) →
    (sameMembers first second = true ↔ first = second)
  | [], second => by cases second <;> simp [sameMembers]
  | (name, first) :: rest, second => by
    cases second <;> simp [sameMembers]
    rename_i head tail
    rw [same_iff_eq first, sameMembers_iff_eq rest, Prod.mk.injEq, and_assoc]

end

instance : DecidableEq Json := fun first second =>
  decidable_of_iff (same first second = true) (same_iff_eq first second)

mutual

/-- Sorts the members of every object by name; of members with one name the last is kept. -/
def canonical : Json → Json
  | .list items => .list (canonicalItems items)
  | .object members => .object (OrderedMap.ofList (canonicalMembers members)).entries
  | .null => .null
  | .boolean value => .boolean value
  | .number value => .number value
  | .text value => .text value

def canonicalItems : List Json → List Json
  | [] => []
  | item :: rest => canonical item :: canonicalItems rest

def canonicalMembers : List (String × Json) → List (String × Json)
  | [] => []
  | (name, value) :: rest => (name, canonical value) :: canonicalMembers rest

end

mutual

/-- Whether every object has strictly ascending member names. -/
def isCanonical : Json → Bool
  | .list items => isCanonicalItems items
  | .object members =>
    decide (members.Pairwise (fun first second => first.1 < second.1)) && isCanonicalMembers members
  | _ => true

def isCanonicalItems : List Json → Bool
  | [] => true
  | item :: rest => isCanonical item && isCanonicalItems rest

def isCanonicalMembers : List (String × Json) → Bool
  | [] => true
  | (_, value) :: rest => isCanonical value && isCanonicalMembers rest

end

theorem isCanonicalMembers_iff {members : List (String × Json)} :
    isCanonicalMembers members = true ↔ ∀ member ∈ members, isCanonical member.2 = true := by
  induction members with
  | nil => simp [isCanonicalMembers]
  | cons head tail ih => simp [isCanonicalMembers, ih]

mutual

theorem isCanonical_canonical : (value : Json) → isCanonical (canonical value) = true
  | .null => rfl
  | .boolean _ => rfl
  | .number _ => rfl
  | .text _ => rfl
  | .list items => by
    simp only [canonical, isCanonical]
    exact isCanonical_canonicalItems items
  | .object members => by
    simp only [canonical, isCanonical, Bool.and_eq_true, decide_eq_true_eq]
    refine ⟨OrderedMap.ascending _, isCanonicalMembers_iff.2 ?_⟩
    intro member present
    exact isCanonicalMembers_iff.1 (isCanonical_canonicalMembers members) member
      (OrderedMap.mem_of_mem_ofList present)

theorem isCanonical_canonicalItems : (items : List Json) →
    isCanonicalItems (canonicalItems items) = true
  | [] => rfl
  | item :: rest => by
    simp only [canonicalItems, isCanonicalItems, Bool.and_eq_true]
    exact ⟨isCanonical_canonical item, isCanonical_canonicalItems rest⟩

theorem isCanonical_canonicalMembers : (members : List (String × Json)) →
    isCanonicalMembers (canonicalMembers members) = true
  | [] => rfl
  | (_, value) :: rest => by
    simp only [canonicalMembers, isCanonicalMembers, Bool.and_eq_true]
    exact ⟨isCanonical_canonical value, isCanonical_canonicalMembers rest⟩

end

end Json

structure CanonicalJson where
  value : Json
  canonical : value.isCanonical = true
deriving DecidableEq

def Json.toCanonical (value : Json) : CanonicalJson :=
  ⟨value.canonical, Json.isCanonical_canonical value⟩

end AudienceScope
