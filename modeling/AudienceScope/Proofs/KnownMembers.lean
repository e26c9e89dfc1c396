import AudienceScope.Proofs.Editing

/-!
What an edit leaves of the members that are known. Of an object only what stands behind each known
name counts, as long as every other member can be passed over; of a list only what stands in each
place. An edit leaves that as it is, edits what stands in one place, or writes out a member that was
omitted. Main statements: `Record.admits_iff`, `Edit.membersAgree` and `Edit.itemsAgree`.
-/

set_option autoImplicit false

namespace AudienceScope

open Json (Tree Key ObjectEnd ListEnd tagName)

def treesBehind (name : String) (members : List (Key × Tree)) : List Tree :=
  (members.filter fun member => member.1 = .name name).map Prod.snd

section Behind

variable {name other : String} {value : Tree} {members others : List (Key × Tree)}

theorem treesBehind_append :
    treesBehind name (members ++ others) = treesBehind name members ++ treesBehind name others := by
  rw [treesBehind, List.filter_append, List.map_append]
  rfl

theorem treesBehind_cons_self :
    treesBehind name ((.name name, value) :: members) = value :: treesBehind name members := by
  rw [treesBehind, List.filter_cons_of_pos (by simp)]
  rfl

theorem treesBehind_cons_of_ne {key : Key} (different : key ≠ .name name) :
    treesBehind name ((key, value) :: members) = treesBehind name members := by
  rw [treesBehind, List.filter_cons_of_neg (by simpa using different)]
  rfl

theorem treesBehind_eq_nil_iff :
    treesBehind name members = [] ↔ Key.name name ∉ members.map Prod.fst := by
  rw [treesBehind, List.map_eq_nil_iff, List.filter_eq_nil_iff, List.mem_map]
  constructor
  · rintro none ⟨member, present, same⟩
    exact none member present (decide_eq_true same)
  · intro absent member present same
    exact absent ⟨member, present, of_decide_eq_true same⟩

theorem lookup_eq_head? :
    members.lookup (.name name) = (treesBehind name members).head? := by
  induction members with
  | nil => rfl
  | cons member rest ih =>
      obtain ⟨key, value⟩ := member
      rw [List.lookup_cons]
      by_cases same : key = .name name
      · subst same
        rw [beq_self_eq_true, treesBehind_cons_self]
        rfl
      · rw [beq_false_of_ne (Ne.symm same), treesBehind_cons_of_ne same]
        exact ih

theorem treesBehind_perm (perm : members.Perm others) :
    (treesBehind name members).Perm (treesBehind name others) :=
  (perm.filter _).map _

theorem treesBehind_filter_ne (different : name ≠ other) :
    treesBehind name (members.filter fun member => member.1 ≠ .name other) =
      treesBehind name members := by
  rw [treesBehind, List.filter_filter, treesBehind]
  congr 1
  apply List.filter_congr
  rintro ⟨key, value⟩ _
  by_cases same : key = .name name
  · simp [same, different]
  · simp [same]

theorem filter_untagged (untagged : treesBehind tagName members = []) :
    (members.filter fun member => member.1 ≠ .name tagName) = members := by
  apply List.filter_eq_self.mpr
  intro member present
  apply decide_eq_true
  intro same
  exact treesBehind_eq_nil_iff.mp untagged (List.mem_map.mpr ⟨member, present, same⟩)

end Behind

/-- Whether a reader that knows some names gets past a member. -/
def Passes (names : List String) (member : Key × Tree) : Prop :=
  match member.1 with
  | .name name => name ∈ names ∨ member.2.passed? = none
  | .flawed _ => False

theorem Json.Record.admits_iff {names : List String} {members : List (Key × Tree)} :
    Admits names members ↔ (∀ member ∈ members, Passes names member) ∧
      ∀ name ∈ names, (treesBehind name members).length ≤ 1 := by
  induction members with
  | nil => simp [Admits, treesBehind]
  | cons member rest ih =>
      obtain ⟨key, value⟩ := member
      rw [List.forall_mem_cons]
      cases key with
      | flawed flaw => simp [Admits, Passes]
      | name found =>
          rw [Admits, ih]
          have others : ∀ name ∈ names, name ≠ found →
              treesBehind name ((.name found, value) :: rest) = treesBehind name rest :=
            fun name _ different => treesBehind_cons_of_ne fun same =>
              different (Key.name.inj same).symm
          by_cases known : found ∈ names
          · rw [if_pos known]
            constructor
            · rintro ⟨once, passes, lengths⟩
              refine ⟨⟨.inl known, passes⟩, fun name present => ?_⟩
              by_cases same : name = found
              · subst same
                rw [treesBehind_cons_self, treesBehind_eq_nil_iff.mpr once]
                exact Nat.le_refl 1
              · rw [others name present same]
                exact lengths name present
            · rintro ⟨⟨_, passes⟩, lengths⟩
              have single := lengths found known
              rw [treesBehind_cons_self, List.length_cons] at single
              have nothing : treesBehind found rest = [] := List.length_eq_zero_iff.mp (by omega)
              refine ⟨treesBehind_eq_nil_iff.mp nothing, passes, fun name present => ?_⟩
              by_cases same : name = found
              · rw [same, nothing]
                exact Nat.zero_le 1
              · rw [← others name present same]
                exact lengths name present
          · rw [if_neg known, and_assoc]
            have unchanged : (∀ name ∈ names, (treesBehind name rest).length ≤ 1) ↔
                ∀ name ∈ names,
                  (treesBehind name ((.name found, value) :: rest)).length ≤ 1 := by
              apply forall₂_congr
              intro name present
              rw [others name present fun same => known (same ▸ present)]
            rw [unchanged]
            simp [Passes, known]

/-! ### What an edit leaves of known members -/

namespace Field

/-- How what stands behind a name that is known may differ after an edit. -/
inductive Found (level : Nat) (field : Field) : Option Tree → Option Tree → Prop where
  | same (tree? : Option Tree) : Found level field tree? tree?
  | edited {first second : Tree} (lies : field.form.LiesAt level)
      (edit : Edit level field.form first second) : Found level field (some first) (some second)
  | written {filler : Tree} (fills : field.presence.filler? false = some filler) :
      Found level field none (some filler)

/-- How all that stands behind a name may differ; more than one tree is too much either way. -/
structure Agree (level : Nat) (field : Field) (first second : List Tree) : Prop where
  once : first.length ≤ 1 ↔ second.length ≤ 1
  found : first.length ≤ 1 → field.Found level first.head? second.head?

namespace Agree

variable {level : Nat} {field : Field} {first second : List Tree}

theorem refl (trees : List Tree) : field.Agree level trees trees :=
  ⟨Iff.rfl, fun _ => .same _⟩

theorem of_perm (perm : first.Perm second) : field.Agree level first second := by
  refine ⟨by rw [perm.length_eq], fun once => ?_⟩
  cases first with
  | nil =>
      rw [perm.nil_eq]
      exact .same _
  | cons tree rest =>
      obtain rfl : rest = [] := List.length_eq_zero_iff.mp (by simpa using once)
      rw [List.perm_singleton.mp perm.symm]
      exact .same _

theorem of_written {filler : Tree} (fills : field.presence.filler? false = some filler) :
    field.Agree level [] [filler] :=
  ⟨by simp, fun _ => .written fills⟩

theorem of_edited {before after : List Tree} {value other : Tree}
    (lies : field.form.LiesAt level) (edit : Edit level field.form value other) :
    field.Agree level (before ++ value :: after) (before ++ other :: after) := by
  refine ⟨by simp, fun once => ?_⟩
  rw [List.length_append, List.length_cons] at once
  obtain rfl : before = [] := List.length_eq_zero_iff.mp (by omega)
  exact .edited lies edit

end Agree

end Field

/-- Whether members differ at most as after an edit, given which of them are known. -/
structure MembersAgree (level : Nat) (fields : List Field) (first second : List (Key × Tree)) :
    Prop where
  passes : (∀ member ∈ first, Passes (fields.map Field.name) member) ↔
    ∀ member ∈ second, Passes (fields.map Field.name) member
  agree : ∀ field ∈ fields,
    field.Agree level (treesBehind field.name first) (treesBehind field.name second)

namespace MembersAgree

variable {level : Nat} {fields : List Field} {first second : List (Key × Tree)}

theorem of_perm (perm : first.Perm second) : MembersAgree level fields first second where
  passes := by simp only [perm.mem_iff]
  agree _ _ := .of_perm (treesBehind_perm perm)

theorem admits_iff (agree : MembersAgree level fields first second) :
    Json.Record.Admits (fields.map Field.name) first ↔
      Json.Record.Admits (fields.map Field.name) second := by
  rw [Json.Record.admits_iff, Json.Record.admits_iff, agree.passes, List.forall_mem_map,
    List.forall_mem_map]
  apply and_congr_right
  intro _
  apply forall₂_congr
  intro field known
  exact (agree.agree field known).once

theorem found (agree : MembersAgree level fields first second)
    (admits : Json.Record.Admits (fields.map Field.name) first) :
    ∀ field ∈ fields, field.Found level (first.lookup (.name field.name))
      (second.lookup (.name field.name)) := by
  intro field known
  rw [lookup_eq_head?, lookup_eq_head?]
  apply (agree.agree field known).found
  exact (Json.Record.admits_iff.mp admits).2 _ (List.mem_map_of_mem known)

theorem untagged (agree : MembersAgree level (Form.tagField :: fields) first second)
    (distinct : ((Form.tagField :: fields).map Field.name).Nodup) :
    MembersAgree level fields (first.filter fun member => member.1 ≠ .name tagName)
      (second.filter fun member => member.1 ≠ .name tagName) := by
  have untagged : tagName ∉ fields.map Field.name := (List.nodup_cons.mp distinct).1
  have passesRest (members : List (Key × Tree)) :
      (∀ member ∈ members.filter fun member => member.1 ≠ .name tagName,
        Passes (fields.map Field.name) member) ↔
      ∀ member ∈ members, Passes ((Form.tagField :: fields).map Field.name) member := by
    simp only [List.mem_filter, decide_eq_true_eq, and_imp]
    apply forall₂_congr
    rintro ⟨key, value⟩ _
    cases key with
    | flawed flaw => simp [Passes]
    | name name => simp [Passes, Form.tagField, or_assoc, ← or_iff_not_imp_left]
  constructor
  · rw [passesRest, passesRest]
    exact agree.passes
  · intro field known
    have different : field.name ≠ tagName := by
      intro same
      exact untagged (List.mem_map.mpr ⟨field, known, same⟩)
    rw [treesBehind_filter_ne different, treesBehind_filter_ne different]
    exact agree.agree field (List.mem_cons_of_mem _ known)

theorem of_inserted {name : String} {value : Tree} {members : List (Key × Tree)}
    (unknown : name ∉ fields.map Field.name) (faultless : value.fault? = none) :
    MembersAgree level fields members ((.name name, value) :: members) where
  passes := by
    have passes := Tree.passed?_of_faultless faultless
    rw [List.forall_mem_cons]
    exact ⟨fun all => ⟨.inr passes, all⟩, And.right⟩
  agree field known := by
    have different : Key.name name ≠ .name field.name := by
      intro same
      exact unknown (List.mem_map.mpr ⟨field, known, (Key.name.inj same).symm⟩)
    rw [treesBehind_cons_of_ne different]
    exact .refl _

section Known

variable {form : Form} {tag? : Option Tree} (knows : form.known? tag? = some fields)

include knows

theorem of_written {written : Field} {filler : Tree} {members : List (Key × Tree)}
    (known : written ∈ fields) (omitted : Key.name written.name ∉ members.map Prod.fst)
    (fills : written.presence.filler? false = some filler) :
    MembersAgree level fields members ((.name written.name, filler) :: members) where
  passes := by
    have named : written.name ∈ fields.map Field.name := List.mem_map_of_mem known
    rw [List.forall_mem_cons]
    exact ⟨fun all => ⟨.inl named, all⟩, And.right⟩
  agree field alsoKnown := by
    by_cases same : written.name = field.name
    · obtain rfl := Form.eq_of_name_eq knows known alsoKnown same
      rw [treesBehind_cons_self, treesBehind_eq_nil_iff.mpr omitted]
      exact .of_written fills
    · rw [treesBehind_cons_of_ne fun again => same (Key.name.inj again)]
      exact .refl _

theorem of_edited {inner : Form} {name : String} {before after : List (Key × Tree)}
    {value other : Tree} (lies : form.LiesAt level) (behind : form.behind? tag? name = some inner)
    (edit : Edit (level + 1) inner value other) :
    MembersAgree (level + 1) fields (before ++ (.name name, value) :: after)
      (before ++ (.name name, other) :: after) where
  passes := by
    have passes : Passes (fields.map Field.name) (.name name, value) ↔
        Passes (fields.map Field.name) (.name name, other) :=
      or_congr_right edit.passed?_iff
    simp only [List.forall_mem_append, List.forall_mem_cons, passes]
  agree field known := by
    rw [treesBehind_append, treesBehind_append]
    by_cases same : name = field.name
    · subst same
      rw [treesBehind_cons_self, treesBehind_cons_self]
      rcases Form.behind?_cases knows behind with ⟨found, alsoKnown, named, rfl⟩ | ⟨unknown, _⟩
      · obtain rfl := Form.eq_of_name_eq knows alsoKnown known named
        exact .of_edited (lies.known knows found alsoKnown) edit
      · exact absurd (List.mem_map_of_mem known) unknown
    · have different : Key.name name ≠ .name field.name := fun again => same (Key.name.inj again)
      rw [treesBehind_cons_of_ne different, treesBehind_cons_of_ne different]
      exact .refl _

end Known

end MembersAgree

def ItemsAgree (level : Nat) : List Field → List Tree → List Tree → Prop
  | [], first, second => first = [] ↔ second = []
  | field :: fields, first, second =>
    field.Found level first.head? second.head? ∧ ItemsAgree level fields first.tail second.tail

namespace ItemsAgree

variable {level : Nat} {fields : List Field} {field : Field}

theorem refl (items : List Tree) : ItemsAgree level fields items items := by
  induction fields generalizing items with
  | nil => exact Iff.rfl
  | cons field fields ih => exact ⟨.same _, ih _⟩

theorem of_edited {before after : List Tree} {value other : Tree}
    (placed : fields[before.length]? = some field) (lies : field.form.LiesAt level)
    (edit : Edit level field.form value other) :
    ItemsAgree level fields (before ++ value :: after) (before ++ other :: after) := by
  induction before generalizing fields with
  | nil =>
      cases fields with
      | nil => cases placed
      | cons first fields =>
          obtain rfl := Option.some.inj placed
          exact ⟨.edited lies edit, .refl after⟩
  | cons item before ih =>
      cases fields with
      | nil => cases placed
      | cons first fields => exact ⟨.same _, ih placed⟩

theorem of_written {items : List Tree} {filler : Tree}
    (next : fields[items.length]? = some field)
    (fills : field.presence.filler? false = some filler) :
    ItemsAgree level fields items (items ++ [filler]) := by
  induction items generalizing fields with
  | nil =>
      cases fields with
      | nil => cases next
      | cons first fields =>
          obtain rfl := Option.some.inj next
          exact ⟨.written fills, .refl []⟩
  | cons item items ih =>
      cases fields with
      | nil => cases next
      | cons first fields => exact ⟨.same _, ih next⟩

end ItemsAgree

namespace Form

variable {form : Form} {tag? : Option Tree} {fields : List Field}

theorem anyMember?_of_known (knows : form.known? tag? = some fields) : form.anyMember? = none := by
  cases form <;> first | rfl | cases knows

theorem anyItem?_of_known (knows : form.known? tag? = some fields) : form.anyItem? = none := by
  cases form <;> first | rfl | cases knows

end Form

namespace Edit

variable {level : Nat} {form : Form} {second : Tree}

theorem sameKind {first : Tree} (edit : Edit level form first second) :
    (∃ deep members others ending,
        first = .object deep members ending ∧ second = .object deep others ending) ∨
      ∃ deep items others ending,
        first = .list deep items ending ∧ second = .list deep others ending := by
  cases edit with
  | reorder | insert | writeOut | member => exact .inl ⟨_, _, _, _, rfl, rfl⟩
  | writeOutNext | item => exact .inr ⟨_, _, _, _, rfl, rfl⟩

/-- An edit of an object leaves what it knows; where its tag cannot be read it only reorders. -/
theorem membersAgree {members : List (Key × Tree)} {ending : ObjectEnd}
    (edit : Edit level form (.object false members ending) second) (lies : form.LiesAt level)
    (apart : form.anyMember? = none) :
    ∃ others, second = .object false others ending ∧
      ∀ fields, (∀ known, form.known? (tagOf members) = some known → known = fields) →
        MembersAgree (level + 1) fields members others := by
  generalize shallow : Tree.object false members ending = first at edit
  cases edit with
  | reorder perm distinct =>
      cases shallow
      exact ⟨_, rfl, fun fields _ => .of_perm perm⟩
  | insert knows unknown faultless =>
      cases shallow
      refine ⟨_, rfl, fun fields unique => ?_⟩
      obtain rfl := unique _ knows
      exact .of_inserted unknown faultless
  | writeOut knows known omitted fills =>
      injection shallow with deep sameMembers sameEnding
      subst sameMembers sameEnding
      rw [lies.filler?_eq knows known, ← deep] at fills
      refine ⟨_, by rw [← deep], fun fields unique => ?_⟩
      obtain rfl := unique _ knows
      exact .of_written knows known omitted fills
  | writeOutNext => cases shallow
  | @member _ _ _ _ before after _ name value other behind edit =>
      cases shallow
      refine ⟨_, rfl, fun fields unique => ?_⟩
      cases knows : form.known? (tagOf (before ++ (.name name, value) :: after)) with
      | none =>
          -- only a form that is set apart lets its members be edited without knowing them
          simp only [Form.behind?, knows, apart] at behind
          cases behind
      | some known =>
          obtain rfl := unique known knows
          exact .of_edited knows lies behind edit
  | item => cases shallow

theorem itemsAgree {items : List Tree} {ending : ListEnd}
    (edit : Edit level form (.list false items ending) second) (lies : form.LiesAt level)
    (apart : form.anyItem? = none) :
    ∃ others fields, second = .list false others ending ∧
      form.known? items.head? = some fields ∧ ItemsAgree (level + 1) fields items others := by
  generalize shallow : Tree.list false items ending = first at edit
  cases edit with
  | reorder | insert | writeOut | member => cases shallow
  | writeOutNext knows next fills =>
      injection shallow with deep sameItems sameEnding
      subst sameItems sameEnding
      rw [lies.filler?_eq knows (List.mem_of_getElem? next), ← deep] at fills
      exact ⟨_, _, by rw [← deep], knows, .of_written next fills⟩
  | @item _ _ _ _ before after _ value other placed edit =>
      cases shallow
      cases knows : form.known? (before ++ value :: after).head? with
      | none =>
          simp only [Form.placed?, knows, apart] at placed
          cases placed
      | some fields =>
          obtain ⟨field, found, rfl⟩ := Form.placed?_eq knows placed
          refine ⟨_, fields, rfl, rfl, ?_⟩
          exact .of_edited found (lies.known knows field (List.mem_of_getElem? found)) edit

end Edit

end AudienceScope
