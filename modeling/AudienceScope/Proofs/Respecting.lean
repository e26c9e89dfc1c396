import AudienceScope.Proofs.Agreement
import AudienceScope.Proofs.KnownMembers

/-!
Readers that respect edits: what they read before and after an edit is alike. A record whose members
are read so is read so, written as an object or as a list. Of a tagged value the tag is read wherever
it stands, and what else it holds agrees. Main statements: `Record.Suits.respects_read` and
`respects_splitTag`.
-/

set_option autoImplicit false

namespace AudienceScope

open Json (Tree Key Body Origin Reading Alike Corresponds ObjectEnd ListEnd tagName)

/-- A reader respects edits of a form if what it reads before and after one is alike. -/
def Respects {α : Type} (form : Form) (related : α → α → Prop) (read : Reading α) : Prop :=
  ∀ ⦃level : Nat⦄ ⦃first second : Tree⦄, form.LiesAt level → Edit level form first second →
    ∀ origin, Alike related (read origin first) (read origin second)

section Combined

variable {α β : Type} {related : α → α → Prop} {read : Reading α} {form : Form}

theorem Respects.option {optional : Option α → Option α → Prop}
    (respects : Respects form related read)
    (present : ∀ value other, related value other → optional (some value) (some other)) :
    Respects form optional (Json.readOption read) := by
  intro level first second lies edit origin
  have inside := (respects lies edit origin).map present
  cases edit with
  | reorder | insert | writeOut | writeOutNext | member | item => exact inside

theorem alike_readItems {reads : Tree → Except Json.ReadError α} {ending : ListEnd}
    {before after : List Tree} {value other : Tree} (here : Alike Eq (reads value) (reads other)) :
    Alike Eq (Json.readItems reads ending (before ++ value :: after))
      (Json.readItems reads ending (before ++ other :: after)) := by
  induction before with
  | nil =>
      rw [List.nil_append, List.nil_append, Json.readItems_cons, Json.readItems_cons]
      apply here.bind
      rintro first _ rfl
      exact .refl (fun _ => rfl) _
  | cons item before ih =>
      rw [List.cons_append, List.cons_append, Json.readItems_cons, Json.readItems_cons]
      apply (Alike.refl (fun _ => rfl) (reads item)).bind
      rintro first _ rfl
      apply ih.map
      rintro rest _ rfl
      rfl

theorem Respects.list {item : Form} (respects : Respects item Eq read) :
    Respects (.list item) Eq (Json.readList read) := by
  intro level first second lies edit origin
  cases edit with
  | reorder perm _ => exact .of_refused (fun _ => nofun) fun _ => nofun
  | insert knows | writeOut knows | writeOutNext knows => cases knows
  | member behind => cases behind
  | @item _ _ _ deep _ _ _ _ _ placed edit =>
      obtain rfl := Option.some.inj placed
      cases deep with
      | true => exact .refused _ _
      | false => exact alike_readItems (respects lies edit origin)

theorem Respects.map {built : β → β → Prop} {build : α → β} (respects : Respects form related read)
    (same : ∀ value other, related value other → built (build value) (build other)) :
    Respects form built fun origin tree => (read origin tree).map build :=
  fun _ _ _ lies edit origin => (respects lies edit origin).map same

end Combined

/-- Whether the members of a record are the known ones of a form, in order, each with a reader that
respects its form, and the same omitted or written out. Relations between members make one between
records. -/
inductive Json.Record.Suits : {α : Type} → List Field → (α → α → Prop) → Record α → Prop where
  | nil : Suits [] Eq .nil
  | cons {β γ : Type} {field : Field} {fields : List Field} {related : β → β → Prop}
      {others : γ → γ → Prop} {joined : β × γ → β × γ → Prop} {member : Member β}
      {rest : Record γ} (named : member.name = field.name)
      (reads : Respects field.form related member.read) (same : ∀ value, related value value)
      (fills : ∀ filler, field.presence.filler? false = some filler →
        ∃ value, member.omitted = some value ∧ ∀ origin, member.read origin filler = .ok value)
      (behind : Suits fields others rest)
      (joins : ∀ first second, related first.1 second.1 → others first.2 second.2 →
        joined first second) :
      Suits (field :: fields) joined (.cons member none rest)

namespace Json.Record

section Suits

variable {α β γ : Type} {level : Nat} {fields : List Field} {joined : α → α → Prop}
  {record : Record α} {origin : Origin} {form : Form}

theorem suits_required {name : String} {read : Reading β} {rest : Record γ}
    (reads : Respects form Eq read) (behind : rest.Suits fields Eq) :
    (required name read rest).Suits (⟨name, .required, form⟩ :: fields) Eq :=
  .cons rfl reads (fun _ => rfl) nofun behind fun _ _ => Prod.ext

theorem fills_defaulted {read : Reading β} {filler : Tree}
    (fills : Presence.defaulted.filler? false = some filler) :
    ∃ value, some ([] : List β) = some value ∧
      ∀ origin, readList read origin filler = .ok value := by
  cases fills
  exact ⟨[], rfl, fun _ => rfl⟩

theorem fills_optional {read : Reading β} {filler : Tree}
    (fills : Presence.optional.filler? false = some filler) :
    ∃ value, some (none : Option β) = some value ∧
      ∀ origin, readOption read origin filler = .ok value := by
  cases fills
  exact ⟨none, rfl, fun _ => rfl⟩

theorem suits_defaulted {name : String} {read : Reading β} {rest : Record γ}
    (reads : Respects form Eq read) (behind : rest.Suits fields Eq) :
    (defaulted name read rest).Suits (⟨name, .defaulted, .list form⟩ :: fields) Eq :=
  .cons rfl reads.list (fun _ => rfl) (fun _ => fills_defaulted) behind fun _ _ => Prod.ext

theorem suits_optional {name : String} {read : Reading β} {rest : Record γ}
    (reads : Respects form Eq read) (behind : rest.Suits fields Eq) :
    (optional name read rest).Suits (⟨name, .optional, form⟩ :: fields) Eq :=
  .cons rfl (reads.option fun _ _ => congrArg some) (fun _ => rfl) (fun _ => fills_optional) behind
    fun _ _ => Prod.ext

theorem Suits.names_eq (suits : record.Suits fields joined) :
    record.names = fields.map Field.name := by
  induction suits with
  | nil => rfl
  | cons named _ _ _ _ _ ih => rw [names, List.map_cons, named, ih]

theorem found_corresponds {field : Field} {related : β → β → Prop} {member : Member β}
    (reads : Respects field.form related member.read) (same : ∀ value, related value value)
    (fills : ∀ filler, field.presence.filler? false = some filler →
      ∃ value, member.omitted = some value ∧ ∀ origin, member.read origin filler = .ok value)
    {first second : Option Tree} (found : field.Found level first second) :
    Corresponds related (member.Takes origin none first) (member.Takes origin none second) := by
  cases found with
  | same tree? => exact .refl fun value _ => same value
  | edited lies edit =>
      have alike := Corresponds.of_alike (reads lies edit origin)
      constructor
      · rintro value ⟨_, read⟩
        obtain ⟨image, alsoRead, holds⟩ := alike.forth value read
        exact ⟨image, ⟨rfl, alsoRead⟩, holds⟩
      · rintro image ⟨_, read⟩
        obtain ⟨value, alsoRead, holds⟩ := alike.back image read
        exact ⟨value, ⟨rfl, alsoRead⟩, holds⟩
  | written written =>
      obtain ⟨value, omitted, read⟩ := fills _ written
      constructor
      · intro taken takes
        obtain rfl := Option.some.inj (omitted.symm.trans takes)
        exact ⟨value, ⟨rfl, read origin⟩, same value⟩
      · rintro taken ⟨_, alsoRead⟩
        obtain rfl := Except.ok.inj ((read origin).symm.trans alsoRead)
        exact ⟨value, omitted, same value⟩

theorem Suits.readsAs (suits : record.Suits fields joined) {first second : List (Key × Tree)}
    (found : ∀ field ∈ fields, field.Found level (first.lookup (.name field.name))
      (second.lookup (.name field.name))) :
    Corresponds joined (record.ReadsAs origin first) (record.ReadsAs origin second) := by
  induction suits with
  | nil => exact ⟨fun _ _ => ⟨(), trivial, rfl⟩, fun _ _ => ⟨(), trivial, rfl⟩⟩
  | cons named reads same fills _ joins ih =>
      obtain ⟨here, others⟩ := List.forall_mem_cons.mp found
      rw [← named] at here
      exact (found_corresponds reads same fills here).pair (ih others) joins

theorem readsItems_cons_iff {member : Member β} {rest : Record γ} {items : List Tree}
    {values : β × γ} :
    (cons member none rest).ReadsItems origin items values ↔
      member.Takes origin none items.head? values.1 ∧
        rest.ReadsItems origin items.tail values.2 := by
  cases items with
  | nil => exact Iff.rfl
  | cons item items => simp [ReadsItems, Member.Takes]

theorem Suits.readsItems (suits : record.Suits fields joined) {first second : List Tree}
    (agree : ItemsAgree level fields first second) :
    Corresponds joined (record.ReadsItems origin first) (record.ReadsItems origin second) := by
  induction suits generalizing first second with
  | nil => exact ⟨fun _ none => ⟨(), agree.mp none, rfl⟩, fun _ none => ⟨(), agree.mpr none, rfl⟩⟩
  | cons named reads same fills _ joins ih =>
      obtain ⟨here, others⟩ := agree
      have takes : Corresponds _ (Member.Takes _ origin none _) (Member.Takes _ origin none _) :=
        found_corresponds reads same fills here
      have pair := takes.pair (ih others) joins
      simp only [← readsItems_cons_iff] at pair
      exact pair

theorem Suits.ofMembers (suits : record.Suits fields joined)
    (distinct : (fields.map Field.name).Nodup) {ending : ObjectEnd}
    {first second : List (Key × Tree)} (agree : MembersAgree level fields first second) :
    Alike joined (record.ofMembers origin ending first)
      (record.ofMembers origin ending second) := by
  rw [← suits.names_eq] at distinct
  have admits := agree.admits_iff
  rw [← suits.names_eq] at admits
  by_cases gets : ending = .closed ∧ Admits record.names first
  · have found := agree.found (suits.names_eq ▸ gets.2)
    apply (suits.readsAs found).alike
    · intro values
      rw [ofMembers_eq_ok_iff distinct, and_iff_right gets.1, and_iff_right gets.2]
    · intro values
      rw [ofMembers_eq_ok_iff distinct, and_iff_right gets.1, and_iff_right (admits.mp gets.2)]
  · apply Alike.of_refused
    · intro values read
      obtain ⟨closed, admitted, _⟩ := (ofMembers_eq_ok_iff distinct).mp read
      exact gets ⟨closed, admitted⟩
    · intro values read
      obtain ⟨closed, admitted, _⟩ := (ofMembers_eq_ok_iff distinct).mp read
      exact gets ⟨closed, admits.mpr admitted⟩

theorem Suits.ofItems (suits : record.Suits fields joined) {phrase : String} {ending : ListEnd}
    {first second : List Tree} (agree : ItemsAgree level fields first second) :
    Alike joined (record.ofItems phrase origin ending first)
      (record.ofItems phrase origin ending second) := by
  by_cases closed : ending = .closed
  · apply (suits.readsItems agree).alike
    · intro values
      rw [ofItems_eq_ok_iff, and_iff_right closed]
    · intro values
      rw [ofItems_eq_ok_iff, and_iff_right closed]
  · apply Alike.of_refused
    · intro values read
      exact closed (ofItems_eq_ok_iff.mp read).1
    · intro values read
      exact closed (ofItems_eq_ok_iff.mp read).1

theorem Suits.respects_read (suits : record.Suits fields joined) {phrase : String}
    (known : ∀ tag?, form.known? tag? = some fields) :
    Respects form joined (record.read phrase) := by
  intro level first second lies edit origin
  have distinct := Form.nodup_known (known none)
  rcases edit.sameKind with
    ⟨deep, members, others, ending, rfl, rfl⟩ | ⟨deep, items, others, ending, rfl, rfl⟩
  · cases deep with
    | true => exact .refused _ _
    | false =>
        obtain ⟨_, same, agree⟩ := edit.membersAgree lies (Form.anyMember?_of_known (known none))
        cases same
        apply suits.ofMembers distinct
        apply agree fields
        intro found knows
        exact Option.some.inj (knows.symm.trans (known _))
  · cases deep with
    | true => exact .refused _ _
    | false =>
        obtain ⟨_, found, same, knows, agree⟩ :=
          edit.itemsAgree lies (Form.anyItem?_of_known (known none))
        cases same
        obtain rfl := Option.some.inj (knows.symm.trans (known _))
        exact suits.ofItems agree

end Suits

end Json.Record

/-! ### Tagged values -/

/-- Whether what two tagged values hold besides their tags differs at most as after an edit. -/
inductive Json.Body.Agree (level : Nat) (fields : List Field) : Body → Body → Prop where
  | members {first second : List (Key × Tree)} (agree : MembersAgree level fields first second) :
      Agree level fields (.members first) (.members second)
  | items {first second : List Tree} (agree : ItemsAgree level fields first second) :
      Agree level fields (.items first) (.items second)

theorem Json.Body.Agree.readRecord {α : Type} {level : Nat} {fields : List Field}
    {joined : α → α → Prop} {record : Record α} {first second : Body} {phrase : String}
    (agree : first.Agree level fields second) (suits : record.Suits fields joined)
    (distinct : (fields.map Field.name).Nodup) :
    Alike joined (first.readRecord phrase record) (second.readRecord phrase record) := by
  cases agree with
  | members agree => exact suits.ofMembers distinct agree
  | items agree => exact suits.ofItems agree

theorem Json.Body.Agree.readNothing {level : Nat} {first second : Body}
    (agree : first.Agree level [] second) : Alike Eq first.readNothing second.readNothing := by
  cases agree with
  | members => exact .read rfl
  | @items first second agree =>
      cases first with
      | nil =>
          rw [agree.mp rfl]
          exact .read rfl
      | cons item rest =>
          cases second with
          | nil => cases agree.mpr rfl
          | cons other others => exact .refused _ _

namespace Json

section Tag

variable {α : Type} {choices : Choices α} {origin : Origin}

theorem readTag_aside {tree : Tree} {picked : α} (read : readTag choices origin tree = .ok picked) :
    readTag choices .aside tree = .ok picked := by
  cases origin with
  | aside => exact read
  | page | value =>
      cases tree with
      | text name => exact read
      | _ =>
          simp only [readTag] at read
          exact absurd read refuse_ne_ok

theorem fault?_of_readTag {tree : Tree} {picked : α}
    (read : readTag choices origin tree = .ok picked) : tree.fault? = none := by
  have aside := readTag_aside read
  cases tree with
  | null | boolean | number | text => rfl
  | list | object | flawed =>
      simp only [readTag] at aside
      exact absurd aside refuse_ne_ok

variable {ending : ObjectEnd} {members kept : List (Key × Tree)} {tag : α}

theorem fault?_object_cons_iff {name : String} {value : Tree} :
    (Tree.object false ((.name name, value) :: members) ending).fault? = none ↔
      value.fault? = none ∧ (Tree.object false members ending).fault? = none := by
  rw [Tree.fault?_object_iff, Tree.fault?_object_iff, List.forall_mem_cons]
  simp only [Key.fault?, true_and]
  exact and_left_comm

theorem fault?_object_flawed {flaw : Flaw} {value : Tree} :
    (Tree.object false ((.flawed flaw, value) :: members) ending).fault? ≠ none := by
  intro faultless
  cases faultless

theorem splitMembers_some_iff {found : α} :
    splitMembers choices origin ending members (some found) = .ok (tag, kept) ↔
      (Tree.object false members ending).fault? = none ∧ treesBehind tagName members = [] ∧
        found = tag ∧ members = kept := by
  induction members generalizing kept with
  | nil =>
      rw [splitMembers, unlessFault_eq_ok_iff, Except.ok.injEq, Prod.mk.injEq,
        treesBehind_eq_nil_iff, Tree.fault?_object_iff, ObjectEnd.fault?_eq_none_iff]
      simp
  | cons member rest ih =>
      obtain ⟨key, value⟩ := member
      cases key with
      | flawed flaw =>
          constructor
          · intro split
            cases split
          · intro faultless
            exact absurd faultless.1 fault?_object_flawed
      | name name =>
          rw [splitMembers, fault?_object_cons_iff]
          by_cases tagged : name = tagName
          · subst tagged
            rw [if_pos rfl, treesBehind_cons_self]
            simp
          · rw [if_neg tagged, unlessFault_eq_ok_iff, map_eq_ok_iff,
              treesBehind_cons_of_ne fun same => tagged (Key.name.inj same), and_assoc]
            apply and_congr_right
            intro _
            constructor
            · rintro ⟨⟨_, others⟩, split, same⟩
              cases same
              obtain ⟨faultless, untagged, sameTag, rfl⟩ := ih.mp split
              exact ⟨faultless, untagged, sameTag, rfl⟩
            · rintro ⟨faultless, untagged, sameTag, rfl⟩
              exact ⟨(tag, rest), ih.mpr ⟨faultless, untagged, sameTag, rfl⟩, rfl⟩

/-- The tag is read wherever it stands, once, in an object without a fault. -/
theorem splitMembers_eq_ok_iff :
    splitMembers choices origin ending members none = .ok (tag, kept) ↔
      (Tree.object false members ending).fault? = none ∧
        ∃ tree, treesBehind tagName members = [tree] ∧ readTag choices origin tree = .ok tag ∧
          (members.filter fun member => member.1 ≠ .name tagName) = kept := by
  induction members generalizing kept with
  | nil =>
      rw [splitMembers, unlessFault_eq_ok_iff]
      simp [treesBehind]
  | cons member rest ih =>
      obtain ⟨key, value⟩ := member
      cases key with
      | flawed flaw =>
          constructor
          · intro split
            cases split
          · intro faultless
            exact absurd faultless.1 fault?_object_flawed
      | name name =>
          rw [splitMembers, fault?_object_cons_iff]
          by_cases tagged : name = tagName
          · subst tagged
            rw [if_pos rfl, treesBehind_cons_self, List.filter_cons_of_neg (by simp)]
            constructor
            · intro split
              cases read : readTag choices origin value with
              | error reason =>
                  rw [read] at split
                  cases split
              | ok picked =>
                  rw [read] at split
                  obtain ⟨faultless, untagged, rfl, rfl⟩ := splitMembers_some_iff.mp split
                  rw [untagged]
                  exact ⟨⟨fault?_of_readTag read, faultless⟩, value, rfl, read,
                    filter_untagged untagged⟩
            · rintro ⟨⟨_, faultless⟩, tree, same, read, rfl⟩
              obtain ⟨rfl, untagged⟩ := List.cons.inj same
              rw [read, filter_untagged untagged]
              exact splitMembers_some_iff.mpr ⟨faultless, untagged, rfl, rfl⟩
          · rw [if_neg tagged, unlessFault_eq_ok_iff, map_eq_ok_iff,
              treesBehind_cons_of_ne fun same => tagged (Key.name.inj same), and_assoc,
              List.filter_cons_of_pos (by simpa using tagged)]
            apply and_congr_right
            intro _
            constructor
            · rintro ⟨⟨_, others⟩, split, same⟩
              cases same
              obtain ⟨faultless, tree, found, read, rfl⟩ := ih.mp split
              exact ⟨faultless, tree, found, read, rfl⟩
            · rintro ⟨faultless, tree, found, read, rfl⟩
              exact ⟨(tag, _), ih.mpr ⟨faultless, tree, found, read, rfl⟩, rfl⟩

theorem splitTag_object_eq_ok_iff {phrase : String} {deep : Bool} {body : Body} :
    splitTag phrase choices origin (.object deep members ending) = .ok (tag, body) ↔
      ((Tree.object deep members ending).fault? = none ∧
        ∃ tree, treesBehind tagName members = [tree] ∧ readTag choices origin tree = .ok tag) ∧
          .members (members.filter fun member => member.1 ≠ .name tagName) = body := by
  rw [splitTag, unlessDeep_eq_ok_iff, map_eq_ok_iff]
  cases deep with
  | true => simp [Tree.fault?]
  | false =>
      constructor
      · rintro ⟨_, ⟨_, kept⟩, split, same⟩
        cases same
        obtain ⟨faultless, tree, single, read, rfl⟩ := splitMembers_eq_ok_iff.mp split
        exact ⟨⟨faultless, tree, single, read⟩, rfl⟩
      · rintro ⟨⟨faultless, tree, single, read⟩, rfl⟩
        refine ⟨rfl, (tag, _), ?_, rfl⟩
        exact splitMembers_eq_ok_iff.mpr ⟨faultless, tree, single, read, rfl⟩

theorem splitTag_list_eq_ok_iff {phrase : String} {deep : Bool} {items : List Tree}
    {ending : ListEnd} {body : Body} :
    splitTag phrase choices origin (.list deep items ending) = .ok (tag, body) ↔
      ((Tree.list deep items ending).fault? = none ∧
        ∃ tree, items.head? = some tree ∧ readTag choices origin tree = .ok tag) ∧
          .items items.tail = body := by
  cases items with
  | nil =>
      rw [splitTag, unlessDeep_eq_ok_iff, unlessFault_eq_ok_iff]
      simp
  | cons first rest =>
      rw [splitTag, unlessDeep_eq_ok_iff, Tree.fault?_list_iff, List.forall_mem_cons,
        ← Tree.itemsFault?_eq_none_iff, ← ListEnd.fault?_eq_none_iff]
      cases read : readTag choices origin first with
      | error reason => simp [read]
      | ok picked =>
          have faultless := fault?_of_readTag read
          simp [unlessFault_eq_ok_iff, faultless, read, and_assoc, and_left_comm]

end Tag

end Json

namespace Field

variable {α : Type} {level : Nat} {field : Field} {read : Reading α} {origin : Origin} {value : α}

theorem Found.read_iff {first second : Option Tree} (found : field.Found level first second)
    (reads : Respects field.form Eq read) (required : field.presence = .required) :
    (∃ tree, first = some tree ∧ read origin tree = .ok value) ↔
      ∃ tree, second = some tree ∧ read origin tree = .ok value := by
  cases found with
  | same => exact Iff.rfl
  | edited lies edit => simp [(reads lies edit origin).eq_ok_iff value]
  | written fills =>
      rw [required] at fills
      cases fills

private theorem eq_singleton_iff {trees : List Tree} {tree : Tree} :
    trees = [tree] ↔ trees.length ≤ 1 ∧ trees.head? = some tree := by
  match trees with
  | [] => simp
  | [other] => simp
  | first :: second :: rest => simp

theorem Agree.read_iff {first second : List Tree} (agree : field.Agree level first second)
    (reads : Respects field.form Eq read) (required : field.presence = .required) :
    (∃ tree, first = [tree] ∧ read origin tree = .ok value) ↔
      ∃ tree, second = [tree] ∧ read origin tree = .ok value := by
  simp only [eq_singleton_iff, and_assoc, exists_and_left, ← agree.once]
  apply and_congr_right
  intro once
  exact (agree.found once).read_iff reads required

end Field

section Tagged

variable {α : Type} {choices : Json.Choices α} {parts : α → List Field} {form : Form}
  {level : Nat} {origin : Origin} {phrase : String}

def SplitAgree (level : Nat) (parts : α → List Field) (first second : α × Body) : Prop :=
  first.1 = second.1 ∧ first.2.Agree level (parts first.1) second.2

theorem alike_of_splits {split alsoSplit : Except Json.ReadError (α × Body)} {holds : α → Prop}
    {body other : Body} (splits : ∀ tag kept, split = .ok (tag, kept) ↔ holds tag ∧ body = kept)
    (alsoSplits : ∀ tag kept, alsoSplit = .ok (tag, kept) ↔ holds tag ∧ other = kept)
    (agree : ∀ tag, holds tag → body.Agree level (parts tag) other) :
    Alike (SplitAgree level parts) split alsoSplit := by
  cases split with
  | ok value =>
      obtain ⟨tag, kept⟩ := value
      obtain ⟨tagged, rfl⟩ := (splits tag kept).mp rfl
      rw [(alsoSplits tag other).mpr ⟨tagged, rfl⟩]
      exact .read ⟨rfl, agree tag tagged⟩
  | error reason =>
      cases alsoSplit with
      | error other => exact .refused reason other
      | ok value =>
          obtain ⟨tag, kept⟩ := value
          obtain ⟨tagged, _⟩ := (alsoSplits tag kept).mp rfl
          cases (splits tag body).mpr ⟨tagged, rfl⟩

variable {first second : Tree} (reads : Respects .plain Eq (Json.readTag choices))
  (known : ∀ tag?, form.known? tag? = Form.tagged choices parts tag?)
  (apart : form.anyMember? = none) (alsoApart : form.anyItem? = none)

include reads known

include apart in
theorem alike_splitTag_object {members others : List (Key × Tree)} {ending : ObjectEnd}
    (lies : form.LiesAt level)
    (edit : Edit level form (.object false members ending) (.object false others ending)) :
    Alike (SplitAgree (level + 1) parts)
      (Json.splitTag phrase choices origin (.object false members ending))
      (Json.splitTag phrase choices origin (.object false others ending)) := by
  obtain ⟨_, same, agree⟩ := edit.membersAgree lies apart
  cases same
  have sameTag : Form.tagField.Agree (level + 1) (treesBehind tagName members)
      (treesBehind tagName others) := by
    cases knows : form.known? (tagOf members) with
    | none =>
        -- the tag cannot be read, so nothing else is known, and what agrees holds of the tag alone
        have unknown := agree [Form.tagField] (by rw [knows]; exact nofun)
        exact unknown.agree _ List.mem_cons_self
    | some fields =>
        have all := agree fields fun _ again => Option.some.inj (again.symm.trans knows)
        rw [known] at knows
        obtain ⟨_, rfl⟩ := Form.exists_picked knows
        exact all.agree _ List.mem_cons_self
  apply alike_of_splits (fun _ _ => Json.splitTag_object_eq_ok_iff)
  · intro tag kept
    rw [Json.splitTag_object_eq_ok_iff, edit.fault?_iff lies, sameTag.read_iff reads rfl]
  · rintro tag ⟨_, tree, single, read⟩
    have knows : form.known? (tagOf members) = some (Form.tagField :: parts tag) := by
      rw [known, tagOf, lookup_eq_head?, single]
      exact Form.tagged_eq_some_iff.mpr ⟨tree, tag, rfl, Json.readTag_aside read, rfl⟩
    have all := agree _ fun _ again => Option.some.inj (again.symm.trans knows)
    exact .members (all.untagged (Form.nodup_known knows))

include alsoApart in
theorem alike_splitTag_list {items others : List Tree} {ending : ListEnd}
    (lies : form.LiesAt level)
    (edit : Edit level form (.list false items ending) (.list false others ending)) :
    Alike (SplitAgree (level + 1) parts)
      (Json.splitTag phrase choices origin (.list false items ending))
      (Json.splitTag phrase choices origin (.list false others ending)) := by
  obtain ⟨_, fields, same, knows, agree⟩ := edit.itemsAgree lies alsoApart
  cases same
  rw [known] at knows
  obtain ⟨tree, picked, isFirst, aside, rfl⟩ := Form.tagged_eq_some_iff.mp knows
  obtain ⟨sameTag, rest⟩ := agree
  apply alike_of_splits (fun _ _ => Json.splitTag_list_eq_ok_iff)
  · intro tag kept
    rw [Json.splitTag_list_eq_ok_iff, edit.fault?_iff lies, sameTag.read_iff reads rfl]
  · rintro tag ⟨_, again, alsoFirst, read⟩
    cases isFirst.symm.trans alsoFirst
    obtain rfl := Except.ok.inj (aside.symm.trans (Json.readTag_aside read))
    exact .items rest

include apart alsoApart in
variable (phrase origin) in
/-- An edit of a tagged value leaves its tag, wherever it stands, and only edits what else it
holds. -/
theorem respects_splitTag (lies : form.LiesAt level) (edit : Edit level form first second) :
    Alike (SplitAgree (level + 1) parts) (Json.splitTag phrase choices origin first)
      (Json.splitTag phrase choices origin second) := by
  rcases edit.sameKind with
    ⟨deep, members, others, ending, rfl, rfl⟩ | ⟨deep, items, others, ending, rfl, rfl⟩
  · cases deep with
    | true => exact .refused _ _
    | false => exact alike_splitTag_object reads known apart lies edit
  · cases deep with
    | true =>
        apply Alike.of_refused
        · rintro ⟨tag, body⟩ split
          cases (Json.splitTag_list_eq_ok_iff.mp split).1.1
        · rintro ⟨tag, body⟩ split
          cases (Json.splitTag_list_eq_ok_iff.mp split).1.1
    | false => exact alike_splitTag_list reads known alsoApart lies edit

end Tagged

end AudienceScope
