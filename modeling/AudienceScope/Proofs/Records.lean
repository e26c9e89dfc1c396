import AudienceScope.Json.Record
import Mathlib.Data.List.Nodup

/-!
What reading a record gives. Of an object only the tree behind each member's name counts, of a list
only the place of each item. Main statements: `ofMembers_eq_ok_iff` and `ofItems_eq_ok_iff`, which
say exactly when a record is read and as what.
-/

set_option autoImplicit false

universe u v w

namespace AudienceScope.Json

theorem unlessFault_eq_ok_iff {α : Type} {fault? : Option Fault} {next : Except ReadError α}
    {value : α} : unlessFault fault? next = .ok value ↔ fault? = none ∧ next = .ok value := by
  cases fault? <;> simp [unlessFault]

theorem unlessDeep_eq_ok_iff {α : Type} {deep : Bool} {next : Except ReadError α} {value : α} :
    unlessDeep deep next = .ok value ↔ deep = false ∧ next = .ok value := by
  cases deep <;> simp [unlessDeep]

theorem refuse_ne_ok {α : Type} {expected : String} {tree : Tree} {value : α} :
    refuse expected tree ≠ .ok value := by
  unfold refuse
  split <;> simp

theorem map_eq_ok_iff {ε : Type u} {α : Type v} {β : Type w} {result : Except ε α} {f : α → β}
    {value : β} :
    result.map f = .ok value ↔ ∃ read, result = .ok read ∧ f read = value := by
  cases result <;> simp [Except.map]

theorem bind_eq_ok_iff {ε : Type u} {α β : Type v} {result : Except ε α} {next : α → Except ε β}
    {value : β} :
    (do let read ← result; next read) = .ok value ↔
      ∃ read, result = .ok read ∧ next read = .ok value := by
  cases result <;> simp [bind, Except.bind]

theorem toOption_eq_some_iff {ε : Type u} {α : Type v} {result : Except ε α} {value : α} :
    result.toOption = some value ↔ result = .ok value := by
  cases result <;> simp [Except.toOption]

namespace ListEnd

theorem fault?_eq_none_iff {ending : ListEnd} : ending.fault? = none ↔ ending = .closed := by
  cases ending <;> simp [fault?]

theorem closing?_eq_none_iff {ending : ListEnd} : ending.closing? = none ↔ ending = .closed := by
  cases ending <;> simp [closing?, fault?]

end ListEnd

theorem ObjectEnd.fault?_eq_none_iff {ending : ObjectEnd} :
    ending.fault? = none ↔ ending = .closed := by
  cases ending <;> simp [fault?]

def Tree.parts? : Tree → Option (List Tree)
  | .list false items .closed => some items
  | .object false members .closed => some (members.map Prod.snd)
  | _ => none

theorem readItems_eq_ok_iff {α : Type} {read : Tree → Except ReadError α} {ending : ListEnd}
    {items : List Tree} {values : List α} :
    readItems read ending items = .ok values ↔
      ending = .closed ∧ List.Forall₂ (fun item value => read item = .ok value) items values := by
  induction items generalizing values with
  | nil =>
      rw [readItems, unlessFault_eq_ok_iff, ListEnd.fault?_eq_none_iff, List.forall₂_nil_left_iff,
        Except.ok.injEq, eq_comm (a := [])]
  | cons item rest ih =>
      rw [readItems, List.forall₂_cons_left_iff]
      cases here : read item with
      | error error => simp
      | ok value =>
          simp only [map_eq_ok_iff, ih, Except.ok.injEq]
          constructor
          · rintro ⟨others, ⟨closed, all⟩, rfl⟩
            exact ⟨closed, value, others, rfl, all, rfl⟩
          · rintro ⟨closed, _, others, rfl, all, rfl⟩
            exact ⟨others, ⟨closed, all⟩, rfl⟩

theorem readList_parts {α : Type} {read : Reading α} {origin : Origin} {tree : Tree}
    {values : List α} (found : readList read origin tree = .ok values) :
    ∃ parts, tree.parts? = some parts ∧
      List.Forall₂ (fun part value => read origin part = .ok value) parts values := by
  cases tree with
  | list deep items ending =>
      obtain ⟨rfl, found⟩ := unlessDeep_eq_ok_iff.mp found
      obtain ⟨rfl, all⟩ := readItems_eq_ok_iff.mp found
      exact ⟨items, rfl, all⟩
  | _ =>
      simp only [readList] at found
      exact absurd found refuse_ne_ok

theorem readAny_eq_ok_iff {origin : Origin} {tree : Tree} {value : Json} :
    readAny origin tree = .ok value ↔ tree.fault? = none ∧ tree.bareValue = value := by
  unfold readAny Tree.toValue
  cases tree.fault? <;> simp

/-- What a member's place holds in the end, with the tree behind its name if there is one. -/
def Member.Takes {β : Type} (member : Member β) (origin : Origin) (found : Option β) :
    Option Tree → β → Prop
  | some tree, value => found = none ∧ member.read origin tree = .ok value
  | none, value => found.or member.omitted = some value

theorem Member.takes_found_iff {β : Type} {member : Member β} {origin : Origin} {taken value : β}
    {tree? : Option Tree} :
    member.Takes origin (some taken) tree? value ↔ tree? = none ∧ taken = value := by
  cases tree? <;> simp [Member.Takes]

theorem lookup_eq_none_iff_not_mem {members : List (Key × Tree)} {key : Key} :
    members.lookup key = none ↔ key ∉ members.map Prod.fst := by
  rw [List.lookup_eq_none_iff, List.mem_map]
  constructor
  · rintro none ⟨member, present, rfl⟩
    exact bne_iff_ne.mp (none member present) rfl
  · intro absent member present
    exact bne_iff_ne.mpr fun same => absent ⟨member, present, same.symm⟩

namespace Record

variable {α : Type} {origin : Origin}

def names : {α : Type} → Record α → List String
  | _, .nil => []
  | _, .cons member _ rest => member.name :: rest.names

def ReadsAs (origin : Origin) (members : List (Key × Tree)) : {α : Type} → Record α → α → Prop
  | _, .nil, _ => True
  | _, .cons member found rest, values =>
    member.Takes origin found (members.lookup (.name member.name)) values.1 ∧
      rest.ReadsAs origin members values.2

def ReadsItems (origin : Origin) : {α : Type} → Record α → List Tree → α → Prop
  | _, .nil, items, _ => items = []
  | _, .cons member found rest, [], values =>
    found.or member.omitted = some values.1 ∧ rest.ReadsItems origin [] values.2
  | _, .cons member _ rest, item :: items, values =>
    member.read origin item = .ok values.1 ∧ rest.ReadsItems origin items values.2

/-- Whether a reader that knows some names gets through an object: a known name stands there once,
and what stands behind another one can be passed over. -/
def Admits (names : List String) : List (Key × Tree) → Prop
  | [] => True
  | (.flawed _, _) :: _ => False
  | (.name name, value) :: rest =>
    (if name ∈ names then Key.name name ∉ rest.map Prod.fst else value.passed? = none) ∧
      Admits names rest

theorem finish_eq_ok_iff (origin : Origin) (missing : Nat → String → ReadError) (index : Nat)
    {record : Record α} {values : α} :
    record.finish missing index = .ok values ↔ record.ReadsAs origin [] values := by
  induction record generalizing index with
  | nil => exact iff_of_true rfl trivial
  | cons member found rest ih =>
      obtain ⟨value, others⟩ := values
      rw [finish, ReadsAs, List.lookup_nil, Member.Takes, ← ih (index + 1)]
      cases found.or member.omitted with
      | none => simp
      | some taken =>
          simp only [map_eq_ok_iff, Prod.mk.injEq, Option.some.injEq]
          constructor
          · rintro ⟨_, finished, rfl, rfl⟩
            exact ⟨rfl, finished⟩
          · rintro ⟨rfl, finished⟩
            exact ⟨_, finished, rfl, rfl⟩

/-! ### Objects -/

section Visit

variable {β γ : Type} {member : Member β} {rest : Record γ} {name : String} {value : Tree}

theorem visit_of_ne (different : member.name ≠ name) (found : Option β) :
    (cons member found rest).visit origin name value =
      (rest.visit origin name value).map (Option.map (cons member found)) := by
  cases found <;> rw [visit, if_neg different]

theorem visit_self_ne_ok (found : β) (read? : Option (Record (β × γ))) :
    (cons member (some found) rest).visit origin member.name value ≠ .ok read? := by
  rw [visit, if_pos rfl]
  exact nofun

theorem visit_self_eq_ok_iff {read? : Option (Record (β × γ))} :
    (cons member none rest).visit origin member.name value = .ok read? ↔
      ∃ taken, member.read origin value = .ok taken ∧
        some (cons member (some taken) rest) = read? := by
  rw [visit, if_pos rfl, map_eq_ok_iff]

end Visit

theorem names_of_visit {name : String} {value : Tree} {record read : Record α}
    (visited : record.visit origin name value = .ok (some read)) : read.names = record.names := by
  induction record with
  | nil => cases visited
  | cons member found rest ih =>
      by_cases same : member.name = name
      · subst same
        cases found with
        | some taken => exact absurd visited (visit_self_ne_ok taken _)
        | none =>
            obtain ⟨_, _, same⟩ := visit_self_eq_ok_iff.mp visited
            cases same
            rfl
      · rw [visit_of_ne same, map_eq_ok_iff] at visited
        obtain ⟨read?, inRest, same⟩ := visited
        obtain ⟨read, rfl, rfl⟩ := Option.map_eq_some_iff.mp same
        exact congrArg (member.name :: ·) (ih inRest)

theorem visit_eq_none_iff {name : String} {value : Tree} {record : Record α} :
    record.visit origin name value = .ok none ↔ name ∉ record.names := by
  induction record with
  | nil => exact iff_of_true rfl List.not_mem_nil
  | cons member found rest ih =>
      rw [names, List.mem_cons, not_or, ← ih]
      by_cases same : member.name = name
      · subst same
        refine iff_of_false (fun visited => ?_) fun unknown => unknown.1 rfl
        cases found with
        | some taken => exact visit_self_ne_ok taken _ visited
        | none =>
            obtain ⟨_, _, read⟩ := visit_self_eq_ok_iff.mp visited
            cases read
      · rw [visit_of_ne same, map_eq_ok_iff]
        constructor
        · rintro ⟨read?, inRest, unread⟩
          rw [Option.map_eq_none_iff.mp unread] at inRest
          exact ⟨fun again => same again.symm, inRest⟩
        · rintro ⟨_, inRest⟩
          exact ⟨none, inRest, rfl⟩

theorem readsAs_cons_of_not_mem {name : String} {value : Tree} {members : List (Key × Tree)}
    {record : Record α} {values : α} (unknown : name ∉ record.names) :
    record.ReadsAs origin ((.name name, value) :: members) values ↔
      record.ReadsAs origin members values := by
  induction record with
  | nil => exact Iff.rfl
  | cons member found rest ih =>
      have notInRest : name ∉ rest.names := fun inRest => unknown (List.mem_cons_of_mem _ inRest)
      have other : (Key.name member.name == Key.name name) = false := by
        refine beq_false_of_ne fun same => unknown ?_
        rw [← Key.name.inj same]
        exact List.mem_cons_self
      rw [ReadsAs, ReadsAs, List.lookup_cons, other, ih notInRest]

theorem visit_readsAs_iff {name : String} {value : Tree} {members : List (Key × Tree)}
    {record : Record α} {values : α} (distinct : record.names.Nodup) :
    (∃ read, record.visit origin name value = .ok (some read) ∧
        read.ReadsAs origin members values) ↔
      name ∈ record.names ∧ Key.name name ∉ members.map Prod.fst ∧
        record.ReadsAs origin ((.name name, value) :: members) values := by
  induction record with
  | nil => simp [visit, names]
  | cons member found rest ih =>
      obtain ⟨notInRest, distinctRest⟩ := List.nodup_cons.mp distinct
      by_cases same : member.name = name
      · subst same
        rw [ReadsAs, readsAs_cons_of_not_mem notInRest, List.lookup_cons_self]
        cases found with
        | some taken =>
            constructor
            · rintro ⟨_, visited, _⟩
              exact absurd visited (visit_self_ne_ok taken _)
            · rintro ⟨_, _, taken, _⟩
              exact nomatch taken.1
        | none =>
            constructor
            · rintro ⟨_, visited, reads⟩
              obtain ⟨taken, read, same⟩ := visit_self_eq_ok_iff.mp visited
              cases same
              obtain ⟨takes, others⟩ := reads
              obtain ⟨once, rfl⟩ := Member.takes_found_iff.mp takes
              exact ⟨List.mem_cons_self, lookup_eq_none_iff_not_mem.mp once, ⟨rfl, read⟩, others⟩
            · rintro ⟨_, once, takes, others⟩
              refine ⟨_, visit_self_eq_ok_iff.mpr ⟨values.1, takes.2, rfl⟩, ?_, others⟩
              exact Member.takes_found_iff.mpr ⟨lookup_eq_none_iff_not_mem.mpr once, rfl⟩
      · have other : (Key.name member.name == Key.name name) = false :=
          beq_false_of_ne fun again => same (Key.name.inj again)
        rw [visit_of_ne same, ReadsAs, List.lookup_cons, other]
        simp only [map_eq_ok_iff, Option.map_eq_some_iff]
        constructor
        · rintro ⟨_, ⟨_, visited, inner, rfl, rfl⟩, takes, others⟩
          obtain ⟨known, once, reads⟩ := (ih distinctRest).mp ⟨inner, visited, others⟩
          exact ⟨List.mem_cons_of_mem _ known, once, takes, reads⟩
        · rintro ⟨known, once, takes, reads⟩
          have knownInRest : name ∈ rest.names :=
            (List.mem_cons.mp known).resolve_left fun again => same again.symm
          obtain ⟨inner, visited, others⟩ := (ih distinctRest).mpr ⟨knownInRest, once, reads⟩
          exact ⟨_, ⟨_, visited, inner, rfl, rfl⟩, takes, others⟩

/-- An object is read if it ends as it should, the reader gets through its members, and what stands
behind each known name is read. -/
theorem ofMembers_eq_ok_iff {ending : ObjectEnd} {members : List (Key × Tree)} {record : Record α}
    {values : α} (distinct : record.names.Nodup) :
    record.ofMembers origin ending members = .ok values ↔
      ending = .closed ∧ Admits record.names members ∧ record.ReadsAs origin members values := by
  -- the record changes with each member that is read, but its names do not
  induction members generalizing record with
  | nil =>
      rw [ofMembers, unlessFault_eq_ok_iff, ObjectEnd.fault?_eq_none_iff, finish_eq_ok_iff origin]
      simp only [Admits, true_and]
  | cons member rest ih =>
      obtain ⟨key, value⟩ := member
      cases key with
      | flawed flaw => simp [ofMembers, Admits]
      | name name =>
          rw [ofMembers, Admits]
          by_cases known : name ∈ record.names
          · rw [if_pos known]
            constructor
            · intro found
              cases visited : record.visit origin name value with
              | error error =>
                  rw [visited] at found
                  cases found
              | ok read? =>
                  rw [visited] at found
                  cases read? with
                  | none => exact absurd known (visit_eq_none_iff.mp visited)
                  | some read =>
                      have same := names_of_visit visited
                      obtain ⟨closed, admits, reads⟩ := (ih (same ▸ distinct)).mp found
                      obtain ⟨_, once, all⟩ :=
                        (visit_readsAs_iff distinct).mp ⟨read, visited, reads⟩
                      exact ⟨closed, ⟨once, same ▸ admits⟩, all⟩
            · rintro ⟨closed, ⟨once, admits⟩, all⟩
              obtain ⟨read, visited, reads⟩ :=
                (visit_readsAs_iff distinct).mpr ⟨known, once, all⟩
              have same := names_of_visit visited
              rw [visited]
              exact (ih (same ▸ distinct)).mpr ⟨closed, same ▸ admits, reads⟩
          · rw [visit_eq_none_iff.mpr known, if_neg known, readsAs_cons_of_not_mem known]
            simp only [unlessFault_eq_ok_iff, ih distinct]
            constructor
            · rintro ⟨passed, closed, admits, reads⟩
              exact ⟨closed, ⟨passed, admits⟩, reads⟩
            · rintro ⟨closed, ⟨passed, admits⟩, reads⟩
              exact ⟨passed, closed, admits, reads⟩

theorem fill_nil (items : List Tree) : fill origin items .nil = .ok (.nil, items) := by
  cases items <;> rfl

theorem fill_cons {β γ : Type} (item : Tree) (items : List Tree) (member : Member β)
    (found : Option β) (rest : Record γ) :
    fill origin (item :: items) (.cons member found rest) =
      match member.read origin item with
      | .error error => .error error
      | .ok value =>
        (rest.fill origin items).map fun (read, left) => (.cons member (some value) read, left) :=
  rfl

theorem readsItems_nil_iff {record : Record α} {values : α} :
    record.ReadsItems origin [] values ↔ record.ReadsAs origin [] values := by
  induction record with
  | nil => exact iff_of_true rfl trivial
  | cons member found rest ih => exact and_congr_right fun _ => ih

theorem fill_finish_iff (missing : Nat → String → ReadError) (index : Nat) {items : List Tree}
    {record : Record α} {values : α} :
    (∃ read, record.fill origin items = .ok (read, []) ∧
        read.finish missing index = .ok values) ↔ record.ReadsItems origin items values := by
  induction record generalizing items index with
  | nil => simp [fill_nil, finish, ReadsItems]
  | cons member found rest ih =>
      obtain ⟨value, others⟩ := values
      cases items with
      | nil =>
          rw [readsItems_nil_iff, ← finish_eq_ok_iff origin missing index]
          constructor
          · rintro ⟨_, filled, finished⟩
            cases filled
            exact finished
          · intro finished
            exact ⟨_, rfl, finished⟩
      | cons item items =>
          rw [ReadsItems, ← ih (index + 1), fill_cons]
          constructor
          · rintro ⟨_, filled, finished⟩
            cases read : member.read origin item with
            | error error =>
                rw [read] at filled
                cases filled
            | ok taken =>
                rw [read] at filled
                obtain ⟨⟨inner, _⟩, filledRest, same⟩ := map_eq_ok_iff.mp filled
                cases same
                obtain ⟨_, finishedRest, same⟩ := map_eq_ok_iff.mp finished
                cases same
                exact ⟨rfl, inner, filledRest, finishedRest⟩
          · rintro ⟨read, inner, filledRest, finishedRest⟩
            refine ⟨.cons member (some value) inner, ?_, ?_⟩
            · rw [read]
              exact map_eq_ok_iff.mpr ⟨_, filledRest, rfl⟩
            · exact map_eq_ok_iff.mpr ⟨_, finishedRest, rfl⟩

theorem ofItems_eq_ok_iff {phrase : String} {ending : ListEnd} {items : List Tree}
    {record : Record α} {values : α} :
    record.ofItems phrase origin ending items = .ok values ↔
      ending = .closed ∧ record.ReadsItems origin items values := by
  rw [ofItems, ← fill_finish_iff (fun index _ => .mismatch (.wrongLength index
    (phrase ++ " with " ++ countOf record.size "element"))) 0]
  cases record.fill origin items with
  | error error => simp
  | ok filled =>
      obtain ⟨read, left⟩ := filled
      simp only [unlessFault_eq_ok_iff, Except.ok.injEq, Prod.mk.injEq]
      constructor
      · rintro ⟨_, found⟩
        split at found
        · cases found
        · rename_i finished
          cases left with
          | nil =>
              obtain ⟨closing, same⟩ := unlessFault_eq_ok_iff.mp found
              cases same
              exact ⟨ListEnd.closing?_eq_none_iff.mp closing, read, ⟨rfl, rfl⟩, finished⟩
          | cons item left => cases found
      · rintro ⟨rfl, _, ⟨rfl, rfl⟩, finished⟩
        refine ⟨ite_self _, ?_⟩
        rw [finished]
        rfl

def IsFrom (origin : Origin) (parts : List Tree) : {α : Type} → Record α → α → Prop
  | _, .nil, _ => True
  | _, .cons member found rest, values =>
    (found.or member.omitted = some values.1 ∨
        ∃ part ∈ parts, member.read origin part = .ok values.1) ∧
      rest.IsFrom origin parts values.2

theorem ReadsAs.isFrom {members : List (Key × Tree)} {record : Record α} {values : α}
    (reads : record.ReadsAs origin members values) :
    record.IsFrom origin (members.map Prod.snd) values := by
  induction record with
  | nil => trivial
  | cons member found rest ih =>
      obtain ⟨takes, others⟩ := reads
      refine ⟨?_, ih others⟩
      cases behind : members.lookup (.name member.name) with
      | none =>
          rw [behind] at takes
          exact .inl takes
      | some part =>
          rw [behind] at takes
          obtain ⟨before, after, split, _⟩ := List.lookup_eq_some_iff.mp behind
          have present : part ∈ members.map Prod.snd := by simp [split]
          exact .inr ⟨part, present, takes.2⟩

theorem ReadsItems.isFrom {items parts : List Tree} {record : Record α} {values : α}
    (reads : record.ReadsItems origin items values) (among : items ⊆ parts) :
    record.IsFrom origin parts values := by
  induction record generalizing items with
  | nil => trivial
  | cons member found rest ih =>
      cases items with
      | nil => exact ⟨.inl reads.1, ih reads.2 among⟩
      | cons item items =>
          obtain ⟨present, others⟩ := List.cons_subset.mp among
          exact ⟨.inr ⟨item, present, reads.1⟩, ih reads.2 others⟩

theorem isFrom_of_read {phrase : String} {tree : Tree} {record : Record α} {values : α}
    (distinct : record.names.Nodup) (found : record.read phrase origin tree = .ok values) :
    ∃ parts, tree.parts? = some parts ∧ record.IsFrom origin parts values := by
  cases tree with
  | list deep items ending =>
      obtain ⟨rfl, found⟩ := unlessDeep_eq_ok_iff.mp found
      obtain ⟨rfl, reads⟩ := ofItems_eq_ok_iff.mp found
      exact ⟨items, rfl, reads.isFrom fun _ present => present⟩
  | object deep members ending =>
      obtain ⟨rfl, found⟩ := unlessDeep_eq_ok_iff.mp found
      obtain ⟨rfl, _, reads⟩ := (ofMembers_eq_ok_iff distinct).mp found
      exact ⟨_, rfl, reads.isFrom⟩
  | _ =>
      simp only [read] at found
      exact absurd found refuse_ne_ok

end Record

/-! ### Tagged values -/

def Body.parts : Body → List Tree
  | members kept => kept.map Prod.snd
  | items kept => kept

theorem Body.isFrom_of_readRecord {α : Type} {phrase : String} {body : Body} {record : Record α}
    {values : α} (distinct : record.names.Nodup)
    (found : body.readRecord phrase record = .ok values) :
    record.IsFrom .aside body.parts values := by
  cases body with
  | members kept =>
      obtain ⟨_, _, reads⟩ := (Record.ofMembers_eq_ok_iff distinct).mp found
      exact reads.isFrom
  | items kept =>
      obtain ⟨_, reads⟩ := Record.ofItems_eq_ok_iff.mp found
      exact reads.isFrom fun _ present => present

theorem splitMembers_kept {α : Type} {choices : Choices α} {origin : Origin} {ending : ObjectEnd}
    {members kept : List (Key × Tree)} {tag? : Option α} {tag : α}
    (found : splitMembers choices origin ending members tag? = .ok (tag, kept)) :
    ending = .closed ∧ kept ⊆ members := by
  induction members generalizing kept tag? with
  | nil =>
      obtain ⟨closes, found⟩ := unlessFault_eq_ok_iff.mp found
      refine ⟨ObjectEnd.fault?_eq_none_iff.mp closes, ?_⟩
      cases tag? <;> cases found
      exact List.Subset.refl _
  | cons member rest ih =>
      obtain ⟨key, value⟩ := member
      cases key with
      | flawed flaw => cases found
      | name name =>
          rw [splitMembers.eq_def] at found
          simp only at found
          split at found
          · split at found
            · cases found
            · split at found
              · cases found
              · obtain ⟨closed, among⟩ := ih found
                exact ⟨closed, List.subset_cons_of_subset _ among⟩
          · obtain ⟨_, found⟩ := unlessFault_eq_ok_iff.mp found
            obtain ⟨⟨_, others⟩, foundRest, same⟩ := map_eq_ok_iff.mp found
            cases same
            obtain ⟨closed, among⟩ := ih foundRest
            exact ⟨closed, List.cons_subset_cons _ among⟩

theorem splitTag_parts {α : Type} {phrase : String} {choices : Choices α} {origin : Origin}
    {tree : Tree} {tag : α} {body : Body}
    (found : splitTag phrase choices origin tree = .ok (tag, body)) :
    ∃ parts, tree.parts? = some parts ∧ body.parts ⊆ parts := by
  cases tree with
  | object deep members ending =>
      obtain ⟨rfl, found⟩ := unlessDeep_eq_ok_iff.mp found
      obtain ⟨⟨_, kept⟩, split, same⟩ := map_eq_ok_iff.mp found
      cases same
      obtain ⟨rfl, among⟩ := splitMembers_kept split
      exact ⟨_, rfl, List.map_subset _ among⟩
  | list deep items ending =>
      cases items with
      | nil =>
          obtain ⟨_, found⟩ := unlessDeep_eq_ok_iff.mp found
          obtain ⟨_, found⟩ := unlessFault_eq_ok_iff.mp found
          cases found
      | cons first items =>
          obtain ⟨rfl, tagged⟩ := unlessDeep_eq_ok_iff.mp found
          split at tagged
          · cases tagged
          · obtain ⟨faultless, same⟩ := unlessFault_eq_ok_iff.mp tagged
            cases same
            obtain rfl := ListEnd.fault?_eq_none_iff.mp (Option.or_eq_none_iff.mp faultless).2
            exact ⟨_, rfl, List.subset_cons_self _ _⟩
  | _ =>
      simp only [splitTag] at found
      exact absurd found refuse_ne_ok

end AudienceScope.Json
