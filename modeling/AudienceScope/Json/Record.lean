import AudienceScope.Json.Reader

/-!
Reading trees into data. A record is written as an object, whose members are visited in order, or as
a list of its members in declaration order; a tagged value carries its kind in the member `_type` or
in the first item. Trees come from a text, from a finished value, or from the members of a tagged
value that were set aside until its tag was known; the three differ in the words of some refusals.
-/

set_option autoImplicit false

namespace AudienceScope.Json

/-- Why a value was not read: its text is at fault, or it does not have the expected form. -/
inductive ReadError where
  | fault (reason : Fault)
  | mismatch (reason : Mismatch)
deriving DecidableEq

namespace ReadError

def message : ReadError → String
  | .fault reason => reason.message
  | .mismatch reason => reason.message

end ReadError

inductive Origin where
  | page
  | value
  | aside
deriving DecidableEq

abbrev Reading (α : Type) := Origin → Tree → Except ReadError α

def refuse {α : Type} (expected : String) (tree : Tree) : Except ReadError α :=
  match tree.found with
  | .error fault => .error (.fault fault)
  | .ok found => .error (.mismatch (.wrongType found expected))

def unlessFault {α : Type} (fault? : Option Fault) (next : Except ReadError α) :
    Except ReadError α :=
  match fault? with
  | some fault => .error (.fault fault)
  | none => next

def unlessDeep {α : Type} (deep : Bool) (next : Except ReadError α) : Except ReadError α :=
  if deep then .error (.fault .tooDeep) else next

def readText : Reading String
  | _, .text value => .ok value
  | _, tree => refuse "a string" tree

def readBoolean : Reading Bool
  | _, .boolean value => .ok value
  | _, tree => refuse "a boolean" tree

def readNatural (bound : Nat) (phrase : String) : Reading Nat
  | _, .number (.integer value) =>
    if 0 ≤ value ∧ value < bound then .ok value.toNat
    else .error (.mismatch (.wrongValue (.integer value) phrase))
  | _, tree => refuse phrase tree

def readAny : Reading Json := fun _ tree =>
  match tree.toValue with
  | .error fault => .error (.fault fault)
  | .ok value => .ok value

/-- `null` stands for an absent value. -/
def readOption {α : Type} (read : Reading α) : Reading (Option α)
  | _, .null => .ok none
  | origin, tree => (read origin tree).map some

def readItems {α : Type} (read : Tree → Except ReadError α) (ending : ListEnd) :
    List Tree → Except ReadError (List α)
  | [] => unlessFault ending.fault? (.ok [])
  | item :: rest =>
    match read item with
    | .error error => .error error
    | .ok value => (readItems read ending rest).map (value :: ·)

def readList {α : Type} (read : Reading α) : Reading (List α)
  | origin, .list deep items ending => unlessDeep deep (readItems (read origin) ending items)
  | _, tree => refuse "a sequence" tree

abbrev Choices (α : Type) := List (String × α)

def Choices.pick {α : Type} (choices : Choices α) (name : String) : Except ReadError α :=
  match choices.lookup name with
  | some value => .ok value
  | none => .error (.mismatch (.unknownVariant name (choices.map Prod.fst)))

/-- The value behind the name in an object that stands for a name must be empty. -/
def readUnit : Reading Unit
  | _, .null => .ok ()
  | .aside, .object _ [] _ => .ok ()
  | _, tree => refuse "unit" tree

/-- The only member of an object in a text that stands for a name, and what follows it. -/
def readChoiceObject {α : Type} (choices : Choices α) (members : List (Key × Tree))
    (ending : ObjectEnd) : Except ReadError α :=
  match members, ending with
  | [], ending => unlessFault ending.fault? (.error (.fault .expectedValue))
  | (.flawed flaw, _) :: _, _ => .error (.fault flaw.onReading)
  | (.name name, value) :: rest, ending =>
    match choices.pick name with
    | .error error => .error error
    | .ok picked =>
      match readUnit .page value, rest, ending with
      | .error error, _, _ => .error error
      | .ok _, [], .closed => .ok picked
      | .ok _, [], .textEnds => .error (.fault .textEndsInObject)
      | .ok _, _, _ => .error (.fault .expectedValue)

def readChoice {α : Type} (choices : Choices α) : Reading α
  | _, .text name => choices.pick name
  | .page, .object deep members ending => unlessDeep deep (readChoiceObject choices members ending)
  | .page, .flawed .quoted flaw => .error (.fault flaw.onReading)
  | .page, .flawed .absent flaw => .error (.fault flaw.onReading)
  | .page, _ => .error (.fault .expectedValue)
  | origin, .object _ [(.name name, value)] _ =>
    match choices.pick name with
    | .error error => .error error
    | .ok picked => (readUnit origin value).map fun _ => picked
  | _, .object _ _ _ => .error (.mismatch (.wrongValue .map "map with a single key"))
  | _, tree => refuse "string or map" tree

/-! ### Records -/

/-- A member of a record; `omitted` is its value when it is left out, if it may be. -/
structure Member (β : Type) where
  name : String
  read : Reading β
  omitted : Option β

/-- A record that is being read: its members in declaration order, each with what was read for it
so far. -/
inductive Record : Type → Type 1 where
  | nil : Record Unit
  | cons {β γ : Type} (member : Member β) (found : Option β) (rest : Record γ) : Record (β × γ)

namespace Record

def including {β γ : Type} (name : String) (read : Reading β) (omitted : Option β)
    (rest : Record γ) : Record (β × γ) :=
  .cons ⟨name, read, omitted⟩ none rest

def required {β γ : Type} (name : String) (read : Reading β) (rest : Record γ) :
    Record (β × γ) :=
  including name read none rest

def defaulted {β γ : Type} (name : String) (read : Reading β) (rest : Record γ) :
    Record (List β × γ) :=
  including name (readList read) (some []) rest

def optional {β γ : Type} (name : String) (read : Reading β) (rest : Record γ) :
    Record (Option β × γ) :=
  including name (readOption read) (some none) rest

def size : {α : Type} → Record α → Nat
  | _, .nil => 0
  | _, .cons _ _ rest => rest.size + 1

/-- Reads a member's value into its place; `none` when the record has no such member. -/
def visit (origin : Origin) (name : String) (value : Tree) :
    {α : Type} → Record α → Except ReadError (Option (Record α))
  | _, .nil => .ok none
  | _, .cons member found rest =>
    if member.name = name then
      match found with
      | some _ => .error (.mismatch (.duplicateField name))
      | none => (member.read origin value).map fun read => some (.cons member (some read) rest)
    else (rest.visit origin name value).map (Option.map (.cons member found))

/-- The values of all members, in declaration order; the first that is neither read nor may be left
out is refused by its index and name. -/
def finish (missing : Nat → String → ReadError) (index : Nat) :
    {α : Type} → Record α → Except ReadError α
  | _, .nil => .ok ()
  | _, .cons member found rest =>
    match found.or member.omitted with
    | none => .error (missing index member.name)
    | some value => (rest.finish missing (index + 1)).map fun values => (value, values)

def ofMembers (origin : Origin) (ending : ObjectEnd) {α : Type} :
    List (Key × Tree) → Record α → Except ReadError α
  | [], record =>
    unlessFault ending.fault?
      (record.finish (fun _ name => .mismatch (.missingField name)) 0)
  | (.flawed flaw, _) :: _, _ => .error (.fault flaw.onReading)
  | (.name name, value) :: rest, record =>
    match record.visit origin name value with
    | .error error => .error error
    | .ok (some read) => ofMembers origin ending rest read
    | .ok none => unlessFault value.passed? (ofMembers origin ending rest record)

def fill (origin : Origin) :
    {α : Type} → List Tree → Record α → Except ReadError (Record α × List Tree)
  | _, items, .nil => .ok (.nil, items)
  | _, [], record => .ok (record, [])
  | _, item :: items, .cons member _ rest =>
    match member.read origin item with
    | .error error => .error error
    | .ok value =>
      (rest.fill origin items).map fun (read, left) => (.cons member (some value) read, left)

/-- What a list of `count` items is reported for that holds more than a record's members. -/
def surplus (origin : Origin) (size count : Nat) : ReadError :=
  match origin with
  | .page => .fault .trailingCharacters
  | .value => .mismatch (.wrongLength count "fewer elements in array")
  | .aside => .mismatch (.wrongLength count (countOf size "element" ++ " in sequence"))

def ofItems (phrase : String) (origin : Origin) (ending : ListEnd) {α : Type}
    (items : List Tree) (record : Record α) : Except ReadError α :=
  let size := record.size
  match record.fill origin items with
  | .error error => .error error
  | .ok (read, left) =>
    unlessFault (if items.length < size then ending.fault? else none)
      (match read.finish (fun index _ => .mismatch (.wrongLength index
          (phrase ++ " with " ++ countOf size "element"))) 0 with
      | .error error => .error error
      | .ok values =>
        if left.isEmpty then unlessFault ending.closing? (.ok values)
        else .error (surplus origin size items.length))

def read {α : Type} (phrase : String) (record : Record α) : Reading α
  | origin, .object deep members ending =>
    unlessDeep deep (record.ofMembers origin ending members)
  | origin, .list deep items ending =>
    unlessDeep deep (record.ofItems phrase origin ending items)
  | _, tree => refuse phrase tree

end Record

/-! ### Tagged values -/

/-- What a tagged value holds besides its tag, read in full and set aside. -/
inductive Body where
  | members (kept : List (Key × Tree))
  | items (kept : List Tree)

def tagName : String := "_type"

/-- A tag; among values that were set aside an index may stand for it. -/
def readTag {α : Type} (choices : Choices α) : Reading α
  | _, .text name => choices.pick name
  | .aside, .number (.integer value) =>
    if value < 0 then .error (.mismatch (.wrongType (.integer value) "variant identifier"))
    else
      match choices[value.toNat]? with
      | some (_, picked) => .ok picked
      | none => .error (.mismatch (.wrongValue (.integer value)
          ("variant index 0 <= i < " ++ toString choices.length)))
  | _, tree => refuse "variant identifier" tree

/-- Visits the members of a tagged value: the tag is read as soon as it is met, every other member
is read in full. -/
def splitMembers {α : Type} (choices : Choices α) (origin : Origin) (ending : ObjectEnd) :
    List (Key × Tree) → Option α → Except ReadError (α × List (Key × Tree))
  | [], tag? =>
    unlessFault ending.fault?
      (match tag? with
      | some tag => .ok (tag, [])
      | none => .error (.mismatch (.missingField tagName)))
  | (.flawed flaw, _) :: _, _ => .error (.fault flaw.onReading)
  | (.name name, value) :: rest, tag? =>
    if name = tagName then
      match tag? with
      | some _ => .error (.mismatch (.duplicateField tagName))
      | none =>
        match readTag choices origin value with
        | .error error => .error error
        | .ok tag => splitMembers choices origin ending rest (some tag)
    else
      unlessFault value.fault?
        ((splitMembers choices origin ending rest tag?).map
          fun (tag, members) => (tag, (.name name, value) :: members))

def splitTag {α : Type} (phrase : String) (choices : Choices α) : Reading (α × Body)
  | origin, .object deep members ending =>
    unlessDeep deep
      ((splitMembers choices origin ending members none).map
        fun (tag, rest) => (tag, .members rest))
  | _, .list deep [] ending =>
    unlessDeep deep
      (unlessFault ending.fault? (.error (.mismatch (.missingField tagName))))
  | origin, .list deep (first :: items) ending =>
    unlessDeep deep
      (match readTag choices origin first with
      | .error error => .error error
      | .ok tag =>
        unlessFault ((Tree.itemsFault? items).or ending.fault?) (.ok (tag, .items items)))
  | _, tree => refuse phrase tree

namespace Body

def readRecord {α : Type} (phrase : String) (record : Record α) : Body → Except ReadError α
  | .members kept => record.ofMembers .aside .closed kept
  | .items kept => record.ofItems phrase .aside .closed kept

def readNothing : Body → Except ReadError Unit
  | .members _ => .ok ()
  | .items [] => .ok ()
  | .items (_ :: rest) => .error (Record.surplus .aside 0 (rest.length + 1))

end Body

end AudienceScope.Json
