import AudienceScope.Proofs.Sorting

/-!
Readers that read a text as they read its value. A text is read as it stands; a finished value is
read with the members of its objects in order. Where no object repeats a name, each reader reads
alike either way or refuses either way, whatever form the value is written in. Main statements:
`Record.IsSteady.read` for records and `splitTag_alike` for tagged values.
-/

set_option autoImplicit false

namespace AudienceScope

namespace Json

/-- Two results are alike if both are refusals, whatever their reasons, or both are values that are
related. -/
inductive Alike {α β : Type} (related : α → β → Prop) :
    Except ReadError α → Except ReadError β → Prop where
  | refused (first second : ReadError) : Alike related (.error first) (.error second)
  | read {first : α} {second : β} (holds : related first second) :
      Alike related (.ok first) (.ok second)

namespace Alike

variable {α β γ δ : Type} {related : α → β → Prop} {after : γ → δ → Prop}
  {first : Except ReadError α} {second : Except ReadError β}

theorem refl {related : α → α → Prop} (holds : ∀ value, related value value)
    (result : Except ReadError α) : Alike related result result := by
  cases result with
  | error error => exact .refused error error
  | ok value => exact .read (holds value)

theorem bind {next : α → Except ReadError γ} {following : β → Except ReadError δ}
    (alike : Alike related first second)
    (continues : ∀ value other, related value other → Alike after (next value) (following other)) :
    Alike after (first >>= next) (second >>= following) := by
  cases alike with
  | refused reason other => exact .refused reason other
  | read holds => exact continues _ _ holds

theorem map {f : α → γ} {g : β → δ} (alike : Alike related first second)
    (continues : ∀ value other, related value other → after (f value) (g other)) :
    Alike after (first.map f) (second.map g) := by
  cases alike with
  | refused reason other => exact .refused reason other
  | read holds => exact .read (continues _ _ holds)

theorem of_refused (refused : ∀ value, first ≠ .ok value)
    (alsoRefused : ∀ value, second ≠ .ok value) : Alike related first second := by
  cases first with
  | ok value => exact absurd rfl (refused value)
  | error reason =>
      cases second with
      | ok value => exact absurd rfl (alsoRefused value)
      | error other => exact .refused reason other

theorem eq_ok_iff {first second : Except ReadError α} (alike : Alike Eq first second) (value : α) :
    first = .ok value ↔ second = .ok value := by
  cases alike with
  | refused => exact iff_of_false nofun nofun
  | read same => rw [same]

theorem exists_error_iff (alike : Alike related first second) :
    (∃ reason, first = .error reason) ↔ ∃ reason, second = .error reason := by
  cases alike with
  | refused reason other => exact iff_of_true ⟨reason, rfl⟩ ⟨other, rfl⟩
  | read => exact iff_of_false nofun nofun

theorem of_eq_ok_iff {first second : Except ReadError α}
    (same : ∀ value, first = .ok value ↔ second = .ok value) : Alike Eq first second := by
  cases first with
  | ok value =>
      rw [(same value).mp rfl]
      exact .read rfl
  | error reason =>
      cases second with
      | error other => exact .refused reason other
      | ok value => cases (same value).mpr rfl

end Alike

/-- Whether everything that meets one condition is related to something that meets the other, and
the other way round. -/
structure Corresponds {α β : Type} (related : α → β → Prop) (condition : α → Prop)
    (other : β → Prop) : Prop where
  forth : ∀ value, condition value → ∃ image, other image ∧ related value image
  back : ∀ image, other image → ∃ value, condition value ∧ related value image

namespace Corresponds

variable {α β γ δ : Type} {related : α → β → Prop} {alsoRelated : γ → δ → Prop}
  {condition : α → Prop} {other : β → Prop} {further : γ → Prop} {furtherOther : δ → Prop}
  {first : Except ReadError α} {second : Except ReadError β}

theorem pair {joined : α × γ → β × δ → Prop} (left : Corresponds related condition other)
    (right : Corresponds alsoRelated further furtherOther)
    (joins : ∀ value image, related value.1 image.1 → alsoRelated value.2 image.2 →
      joined value image) :
    Corresponds joined (fun value => condition value.1 ∧ further value.2)
      (fun image => other image.1 ∧ furtherOther image.2) := by
  constructor
  · rintro ⟨value, rest⟩ ⟨holds, holdsRest⟩
    obtain ⟨image, meets, same⟩ := left.forth value holds
    obtain ⟨imageRest, meetsRest, sameRest⟩ := right.forth rest holdsRest
    exact ⟨(image, imageRest), ⟨meets, meetsRest⟩, joins _ _ same sameRest⟩
  · rintro ⟨image, rest⟩ ⟨holds, holdsRest⟩
    obtain ⟨value, meets, same⟩ := left.back image holds
    obtain ⟨valueRest, meetsRest, sameRest⟩ := right.back rest holdsRest
    exact ⟨(value, valueRest), ⟨meets, meetsRest⟩, joins _ _ same sameRest⟩

theorem refl {related : α → α → Prop} (holds : ∀ value, condition value → related value value) :
    Corresponds related condition condition where
  forth value meets := ⟨value, meets, holds value meets⟩
  back value meets := ⟨value, meets, holds value meets⟩

theorem of_alike (alike : Alike related first second) :
    Corresponds related (first = .ok ·) (second = .ok ·) := by
  cases alike with
  | refused => exact ⟨fun _ read => (nomatch read), fun _ read => (nomatch read)⟩
  | read holds =>
      constructor
      · intro value read
        cases read
        exact ⟨_, rfl, holds⟩
      · intro value read
        cases read
        exact ⟨_, rfl, holds⟩

theorem alike (corresponds : Corresponds related condition other)
    (reads : ∀ value, first = .ok value ↔ condition value)
    (alsoReads : ∀ value, second = .ok value ↔ other value) : Alike related first second := by
  cases first with
  | ok value =>
      obtain ⟨image, meets, holds⟩ := corresponds.forth value ((reads value).mp rfl)
      rw [(alsoReads image).mpr meets]
      exact .read holds
  | error reason =>
      cases second with
      | error other => exact .refused reason other
      | ok image =>
          obtain ⟨value, meets, _⟩ := corresponds.back image ((alsoReads image).mp rfl)
          cases (reads value).mpr meets

end Corresponds

/-- Where the same part of a text and of its value is met: in place, or among members set aside. -/
inductive Origin.Pairs : Origin → Origin → Prop where
  | inPlace : Pairs .page .value
  | aside : Pairs .aside .aside

/-- A reader is steady if what it reads from the tree of a value and from that of its canonical form
is alike. -/
def IsSteady {α : Type} (related : α → α → Prop) (read : Reading α) : Prop :=
  ∀ ⦃origin other : Origin⦄, origin.Pairs other →
    ∀ value : Json, value.hasDistinctNames = true →
      Alike related (read origin (Tree.ofValue value)) (read other (Tree.ofValue value.canonical))

section Plain

variable {α β : Type} {related : α → α → Prop} {read : Reading α}

theorem isSteady_readText : IsSteady Eq readText := by
  intro origin other _ value _
  cases value <;> exact Alike.refl (fun _ => rfl) _

theorem isSteady_readBoolean : IsSteady Eq readBoolean := by
  intro origin other _ value _
  cases value <;> exact Alike.refl (fun _ => rfl) _

theorem isSteady_readNatural (bound : Nat) (phrase : String) :
    IsSteady Eq (readNatural bound phrase) := by
  intro origin other _ value _
  cases value with
  | number number => cases number <;> exact Alike.refl (fun _ => rfl) _
  | _ => exact Alike.refl (fun _ => rfl) _

theorem isSteady_readAny : IsSteady (fun value sorted => sorted = value.canonical) readAny := by
  intro origin other _ value _
  rw [readAny_ofValue, readAny_ofValue]
  exact .read rfl

theorem IsSteady.option {optional : Option α → Option α → Prop} (steady : IsSteady related read)
    (absent : optional none none)
    (present : ∀ value other, related value other → optional (some value) (some other)) :
    IsSteady optional (readOption read) := by
  intro origin other pairs value distinct
  have inside : Alike optional ((read origin (Tree.ofValue value)).map some)
      ((read other (Tree.ofValue value.canonical)).map some) :=
    (steady pairs value distinct).map present
  cases value with
  | null => exact .read absent
  | _ => exact inside

theorem readItems_cons {read : Tree → Except ReadError α} {ending : ListEnd} (item : Tree)
    (rest : List Tree) :
    readItems read ending (item :: rest) =
      read item >>= fun value => (readItems read ending rest).map (value :: ·) := by
  rw [readItems]
  cases read item <;> rfl

theorem IsSteady.list (steady : IsSteady Eq read) : IsSteady Eq (readList read) := by
  intro origin other pairs value distinct
  cases value with
  | list items =>
      change Alike Eq (readItems (read origin) .closed (Tree.ofItems items))
        (readItems (read other) .closed (Tree.ofItems (canonicalItems items)))
      have inside := itemsHaveDistinctNames_iff.mp distinct
      clear distinct -- it speaks of the whole list
      induction items with
      | nil => exact .read rfl
      | cons item rest ih =>
          obtain ⟨first, others⟩ := List.forall_mem_cons.mp inside
          rw [canonicalItems, Tree.ofItems, Tree.ofItems, readItems_cons, readItems_cons]
          apply (steady pairs item first).bind
          rintro value _ rfl
          apply (ih others).map
          rintro values _ rfl
          rfl
  | _ => exact Alike.refl (fun _ => rfl) _

theorem IsSteady.map {built : β → β → Prop} {build : α → β} (steady : IsSteady related read)
    (same : ∀ value other, related value other → built (build value) (build other)) :
    IsSteady built fun origin tree => (read origin tree).map build :=
  fun _ _ pairs value distinct => (steady pairs value distinct).map same

end Plain

section Choice

variable {α : Type}

theorem readUnit_object_iff {origin : Origin} {members : List (String × Json)} {nothing : Unit} :
    readUnit origin (Tree.ofValue (.object members)) = .ok nothing ↔
      origin = .aside ∧ members = [] := by
  cases members with
  | nil => cases origin <;> simp [readUnit, refuse, Tree.ofValue, Tree.ofMembers, Tree.found]
  | cons member rest =>
      cases origin <;> simp [readUnit, refuse, Tree.ofValue, Tree.ofMembers, Tree.found]

theorem isSteady_readUnit : IsSteady Eq readUnit := by
  intro origin other pairs value distinct
  cases value with
  | object members =>
      have perm := (sorts_of_distinct distinct).perm
      have empty : (OrderedMap.ofList (canonicalMembers members)).entries = [] ↔ members = [] := by
        rw [← List.length_eq_zero_iff, perm.length_eq, canonicalMembers_eq_map, List.length_map,
          List.length_eq_zero_iff]
      apply Alike.of_eq_ok_iff
      intro nothing
      rw [canonical, readUnit_object_iff, readUnit_object_iff, empty]
      cases pairs <;> simp
  | _ => cases pairs <;> exact Alike.refl (fun _ => rfl) _

theorem readChoice_single (choices : Choices α) (origin : Origin) (name : String) (value : Json) :
    readChoice choices origin (Tree.ofValue (.object [(name, value)])) =
      choices.pick name >>= fun picked =>
        (readUnit origin (Tree.ofValue value)).map fun _ => picked := by
  cases origin with
  | page =>
      change readChoiceObject choices [(.name name, Tree.ofValue value)] .closed = _
      rw [readChoiceObject]
      cases choices.pick name with
      | error reason => rfl
      | ok picked => cases readUnit .page (Tree.ofValue value) <;> rfl
  | value | aside =>
      rw [Tree.ofValue, Tree.ofMembers, Tree.ofMembers, readChoice]
      · cases choices.pick name <;> rfl
      · exact nofun

theorem readChoice_ne_ok {choices : Choices α} {origin : Origin}
    {members : List (String × Json)} (several : members.length ≠ 1) (picked : α) :
    readChoice choices origin (Tree.ofValue (.object members)) ≠ .ok picked := by
  cases members with
  | nil => cases origin <;> exact nofun
  | cons first rest =>
      cases rest with
      | nil => exact absurd rfl several
      | cons second rest =>
          cases origin with
          | page =>
              change readChoiceObject choices ((.name first.1, Tree.ofValue first.2) ::
                (.name second.1, Tree.ofValue second.2) :: Tree.ofMembers rest) .closed ≠ _
              rw [readChoiceObject]
              cases choices.pick first.1 with
              | error reason => exact nofun
              | ok picked => cases readUnit .page (Tree.ofValue first.2) <;> exact nofun
          | value | aside => exact nofun

theorem isSteady_readChoice (choices : Choices α) : IsSteady Eq (readChoice choices) := by
  intro origin other pairs value distinct
  cases value with
  | text name => cases pairs <;> exact Alike.refl (fun _ => rfl) _
  | object members =>
      have sorts := sorts_of_distinct distinct
      by_cases single : members.length = 1
      · obtain ⟨⟨name, value⟩, rfl⟩ := List.length_eq_one_iff.mp single
        have inside := sorts.inside (name, value) List.mem_cons_self
        change Alike Eq _ (readChoice choices other
          (Tree.ofValue (.object [(name, value.canonical)])))
        rw [readChoice_single, readChoice_single]
        apply (Alike.refl (fun _ => rfl) (choices.pick name)).bind
        rintro picked _ rfl
        exact (isSteady_readUnit pairs value inside).map fun _ _ _ => rfl
      · have alsoSeveral : (OrderedMap.ofList (canonicalMembers members)).entries.length ≠ 1 := by
          rw [sorts.perm.length_eq, canonicalMembers_eq_map, List.length_map]
          exact single
        exact .of_refused (readChoice_ne_ok single) (readChoice_ne_ok alsoSeveral)
  | _ =>
      cases pairs with
      | inPlace => exact .refused _ _
      | aside => exact .refused _ _

theorem isSteady_readTag (choices : Choices α) : IsSteady Eq (readTag choices) := by
  intro origin other pairs value distinct
  cases value with
  | number number =>
      cases number with
      | integer => cases pairs <;> exact Alike.refl (fun _ => rfl) _
      | binary => cases pairs <;> exact Alike.refl (fun _ => rfl) _
  | _ => cases pairs <;> exact Alike.refl (fun _ => rfl) _

end Choice

/-! ### Records -/

/-- A record is steady if the readers of its members are, and if what stands for an omitted member
is related to itself. Relations between members make one between records. -/
inductive Record.IsSteady : {α : Type} → (α → α → Prop) → Record α → Prop where
  | nil : IsSteady Eq .nil
  | cons {β γ : Type} {related : β → β → Prop} {others : γ → γ → Prop}
      {joined : β × γ → β × γ → Prop} {member : Member β} {rest : Record γ}
      (reads : Json.IsSteady related member.read)
      (omits : ∀ value, member.omitted = some value → related value value)
      (behind : IsSteady others rest)
      (joins : ∀ first second, related first.1 second.1 → others first.2 second.2 →
        joined first second) :
      IsSteady joined (.cons member none rest)

namespace Record

section Steady

variable {α β γ : Type} {joined : α → α → Prop} {record : Record α} {origin other : Origin}
  {members sorted : List (String × Json)}

theorem isSteady_required {name : String} {read : Reading β} {rest : Record γ}
    (reads : Json.IsSteady Eq read) (behind : rest.IsSteady Eq) :
    (required name read rest).IsSteady Eq :=
  .cons reads nofun behind fun _ _ => Prod.ext

theorem isSteady_defaulted {name : String} {read : Reading β} {rest : Record γ}
    (reads : Json.IsSteady Eq read) (behind : rest.IsSteady Eq) :
    (defaulted name read rest).IsSteady Eq :=
  .cons reads.list (fun _ _ => rfl) behind fun _ _ => Prod.ext

theorem isSteady_optional {name : String} {read : Reading β} {rest : Record γ}
    (reads : Json.IsSteady Eq read) (behind : rest.IsSteady Eq) :
    (optional name read rest).IsSteady Eq :=
  .cons (reads.option rfl fun _ _ => congrArg some) (fun _ _ => rfl) behind fun _ _ => Prod.ext

theorem takes_corresponds {related : β → β → Prop} {member : Member β}
    (reads : Json.IsSteady related member.read)
    (omits : ∀ value, member.omitted = some value → related value value)
    (pairs : origin.Pairs other) (sorts : Sorts members sorted) :
    Corresponds related
      (member.Takes origin none ((Tree.ofMembers members).lookup (.name member.name)))
      (member.Takes other none ((Tree.ofMembers sorted).lookup (.name member.name))) := by
  rw [lookup_ofMembers, lookup_ofMembers, sorts.lookup_eq]
  cases found : members.lookup member.name with
  | none => exact Corresponds.refl omits
  | some value =>
      have alike := Corresponds.of_alike (reads pairs value (sorts.distinct_of_lookup found))
      constructor
      · rintro value ⟨_, read⟩
        obtain ⟨image, alsoRead, holds⟩ := alike.forth value read
        exact ⟨image, ⟨rfl, alsoRead⟩, holds⟩
      · rintro image ⟨_, read⟩
        obtain ⟨value, alsoRead, holds⟩ := alike.back image read
        exact ⟨value, ⟨rfl, alsoRead⟩, holds⟩

theorem IsSteady.readsAs (steady : record.IsSteady joined) (pairs : origin.Pairs other)
    (sorts : Sorts members sorted) :
    Corresponds joined (record.ReadsAs origin (Tree.ofMembers members))
      (record.ReadsAs other (Tree.ofMembers sorted)) := by
  induction steady with
  | nil => exact ⟨fun _ _ => ⟨(), trivial, rfl⟩, fun _ _ => ⟨(), trivial, rfl⟩⟩
  | cons reads omits _ joins ih => exact (takes_corresponds reads omits pairs sorts).pair ih joins

theorem IsSteady.readsItems (steady : record.IsSteady joined) (pairs : origin.Pairs other)
    {items : List Json} (inside : ∀ item ∈ items, item.hasDistinctNames = true) :
    Corresponds joined (record.ReadsItems origin (Tree.ofItems items))
      (record.ReadsItems other (Tree.ofItems (canonicalItems items))) := by
  induction steady generalizing items with
  | nil =>
      cases items with
      | nil => exact ⟨fun _ _ => ⟨(), rfl, rfl⟩, fun _ _ => ⟨(), rfl, rfl⟩⟩
      | cons item rest => exact ⟨fun _ none => (nomatch none), fun _ none => (nomatch none)⟩
  | cons reads omits _ joins ih =>
      cases items with
      | nil => exact (Corresponds.refl omits).pair (ih inside) joins
      | cons item rest =>
          obtain ⟨first, others⟩ := List.forall_mem_cons.mp inside
          exact (Corresponds.of_alike (reads pairs item first)).pair (ih others) joins

variable (known : record.names.Nodup)
include known

theorem IsSteady.ofMembers (steady : record.IsSteady joined) (pairs : origin.Pairs other)
    (sorts : Sorts members sorted) :
    Alike joined (record.ofMembers origin .closed (Tree.ofMembers members))
      (record.ofMembers other .closed (Tree.ofMembers sorted)) := by
  apply (steady.readsAs pairs sorts).alike
  · intro values
    rw [ofMembers_eq_ok_iff known]
    simp [admits_ofMembers _ sorts.once]
  · intro values
    rw [ofMembers_eq_ok_iff known]
    simp [admits_ofMembers _ sorts.sorted_once]

omit known in
theorem IsSteady.ofItems {phrase : String} (steady : record.IsSteady joined)
    (pairs : origin.Pairs other) {items : List Json}
    (inside : ∀ item ∈ items, item.hasDistinctNames = true) :
    Alike joined (record.ofItems phrase origin .closed (Tree.ofItems items))
      (record.ofItems phrase other .closed (Tree.ofItems (canonicalItems items))) := by
  apply (steady.readsItems pairs inside).alike
  · intro values
    simp [ofItems_eq_ok_iff]
  · intro values
    simp [ofItems_eq_ok_iff]

theorem IsSteady.read {phrase : String} (steady : record.IsSteady joined) :
    Json.IsSteady joined (record.read phrase) := by
  intro origin other pairs value distinct
  cases value with
  | object members => exact steady.ofMembers known pairs (sorts_of_distinct distinct)
  | list items => exact steady.ofItems pairs (itemsHaveDistinctNames_iff.mp distinct)
  | _ => exact .refused _ _

end Steady

end Record

/-! ### Tagged values -/

/-- Whether two bodies hold the same besides a tag, the second one in canonical form. -/
inductive Body.Sorts : Body → Body → Prop where
  | members {kept sorted : List (String × Json)} (sorts : Json.Sorts kept sorted) :
      Sorts (.members (Tree.ofMembers kept)) (.members (Tree.ofMembers sorted))
  | items {kept : List Json} (inside : ∀ item ∈ kept, item.hasDistinctNames = true) :
      Sorts (.items (Tree.ofItems kept)) (.items (Tree.ofItems (canonicalItems kept)))

theorem Body.Sorts.readRecord {α : Type} {joined : α → α → Prop} {record : Record α}
    {first second : Body} (sorts : first.Sorts second) {phrase : String}
    (known : record.names.Nodup) (steady : record.IsSteady joined) :
    Alike joined (first.readRecord phrase record) (second.readRecord phrase record) := by
  cases sorts with
  | members sorts => exact steady.ofMembers known .aside sorts
  | items inside => exact steady.ofItems .aside inside

theorem Body.Sorts.readNothing {first second : Body} (sorts : first.Sorts second) :
    Alike Eq first.readNothing second.readNothing := by
  cases sorts with
  | members => exact .read rfl
  | @items kept _ =>
      cases kept with
      | nil => exact .read rfl
      | cons item rest => exact .refused _ _

section Tag

variable {α : Type} {choices : Choices α} {origin other : Origin}

theorem splitMembers_untagged {members : List (String × Json)}
    (untagged : members.lookup tagName = none) :
    splitMembers choices origin .closed (Tree.ofMembers members) none =
      .error (.mismatch (.missingField tagName)) := by
  induction members with
  | nil => rfl
  | cons member rest ih =>
      obtain ⟨name, value⟩ := member
      rw [List.lookup_cons] at untagged
      split at untagged
      case h_1 => cases untagged
      case h_2 test =>
          have different : name ≠ tagName := (ne_of_beq_false test).symm
          rw [Tree.ofMembers, splitMembers, if_neg different, Tree.fault?_ofValue, ih untagged]
          · rfl

theorem splitMembers_tagged {members : List (String × Json)} {tag : Json}
    (once : (members.map Prod.fst).Nodup) (tagged : members.lookup tagName = some tag) :
    splitMembers choices origin .closed (Tree.ofMembers members) none =
      (readTag choices origin (Tree.ofValue tag)).map fun picked =>
        (picked, Tree.ofMembers (members.filter fun member => member.1 ≠ tagName)) := by
  induction members with
  | nil => cases tagged
  | cons member rest ih =>
      obtain ⟨name, value⟩ := member
      obtain ⟨notAgain, onceBehind⟩ := List.nodup_cons.mp once
      rw [List.lookup_cons] at tagged
      rw [Tree.ofMembers, splitMembers]
      by_cases here : name = tagName
      · subst here
        rw [beq_self_eq_true] at tagged
        cases tagged
        have kept : rest.filter (fun member => member.1 ≠ tagName) = rest := by
          apply List.filter_eq_self.mpr
          intro member present
          have different : member.1 ≠ tagName := by
            intro same
            exact notAgain (List.mem_map.mpr ⟨member, present, same⟩)
          simpa using different
        rw [if_pos rfl, List.filter_cons_of_neg (by simp), kept]
        cases readTag choices origin (Tree.ofValue tag) with
        | error reason => rfl
        | ok picked => exact splitMembers_ofMembers notAgain
      · have different : (tagName == name) = false := beq_false_of_ne (Ne.symm here)
        rw [different] at tagged
        rw [if_neg here, Tree.fault?_ofValue, ih onceBehind tagged,
          List.filter_cons_of_pos (by simpa using here)]
        cases readTag choices origin (Tree.ofValue tag) <;> rfl

theorem splitTag_object {phrase : String} {members : List (String × Json)} {tag : Json}
    (once : (members.map Prod.fst).Nodup) (tagged : members.lookup tagName = some tag) :
    splitTag phrase choices origin (Tree.ofValue (.object members)) =
      (readTag choices origin (Tree.ofValue tag)).map fun picked =>
        (picked, .members (Tree.ofMembers
          (members.filter fun member => member.1 ≠ tagName))) := by
  change (splitMembers choices origin .closed (Tree.ofMembers members) none).map _ = _
  rw [splitMembers_tagged once tagged]
  cases readTag choices origin (Tree.ofValue tag) <;> rfl

theorem splitTag_object_untagged {phrase : String} {members : List (String × Json)}
    (untagged : members.lookup tagName = none) :
    splitTag phrase choices origin (Tree.ofValue (.object members)) =
      .error (.mismatch (.missingField tagName)) := by
  change (splitMembers choices origin .closed (Tree.ofMembers members) none).map _ = _
  rw [splitMembers_untagged untagged]
  rfl

theorem splitTag_list {phrase : String} (first : Json) (rest : List Json) :
    splitTag phrase choices origin (Tree.ofValue (.list (first :: rest))) =
      (readTag choices origin (Tree.ofValue first)).map fun picked =>
        (picked, .items (Tree.ofItems rest)) := by
  rw [Tree.ofValue, Tree.ofItems, splitTag, Tree.itemsFault?_ofItems]
  cases readTag choices origin (Tree.ofValue first) <;> rfl

theorem splitTag_alike {phrase : String} (pairs : origin.Pairs other) {value : Json}
    (distinct : value.hasDistinctNames = true) :
    Alike (fun first second => first.1 = second.1 ∧ first.2.Sorts second.2)
      (splitTag phrase choices origin (Tree.ofValue value))
      (splitTag phrase choices other (Tree.ofValue value.canonical)) := by
  cases value with
  | object members =>
      have sorts := sorts_of_distinct distinct
      rw [canonical]
      cases tagged : members.lookup tagName with
      | none =>
          have alsoUntagged := (sorts.lookup_eq tagName).trans (congrArg _ tagged)
          rw [splitTag_object_untagged tagged, splitTag_object_untagged alsoUntagged]
          exact .refused _ _
      | some tag =>
          have alsoTagged := (sorts.lookup_eq tagName).trans (congrArg _ tagged)
          rw [splitTag_object sorts.once tagged, splitTag_object sorts.sorted_once alsoTagged]
          apply (isSteady_readTag choices pairs tag (sorts.distinct_of_lookup tagged)).map
          intro _ _ same
          exact ⟨same, .members (sorts.filter fun name => name ≠ tagName)⟩
  | list items =>
      cases items with
      | nil => exact .refused _ _
      | cons first rest =>
          obtain ⟨tag, inside⟩ := List.forall_mem_cons.mp (itemsHaveDistinctNames_iff.mp distinct)
          rw [canonical, canonicalItems, splitTag_list, splitTag_list]
          apply (isSteady_readTag choices pairs first tag).map
          intro _ _ same
          exact ⟨same, .items inside⟩
  | _ => exact .refused _ _

end Tag

end Json

end AudienceScope
