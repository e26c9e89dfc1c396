import AudienceScope.Decimal.Shortest
import AudienceScope.Json.Printer
import AudienceScope.Json.Value
import AudienceScope.Mismatch

/-!
The tree of a text that should hold a JSON value, with every flaw of the text in its place. A reader
that walks through the tree in order meets the flaws in the order of the text. A part of the text
that is only passed over is held to fewer rules than one that is read, so a flaw says both what
reading reports and what, if anything, passing over reports. Main statements: `fault?_ofValue` and
`passed?_ofValue`, by which the tree of a value has no flaw, and `toValue_ofValue`.
-/

set_option autoImplicit false

namespace AudienceScope.Json

/-- What can be wrong with a text that should hold a JSON value. -/
inductive Fault where
  | textEndsInList
  | textEndsInObject
  | textEndsInString
  | textEndsAtValue
  | expectedColon
  | expectedCommaOrBracket
  | expectedCommaOrBrace
  | expectedWord
  | expectedValue
  | invalidEscape
  | invalidNumber
  | numberOutOfRange
  | controlCharacter
  | keyNotText
  | loneSurrogate
  | trailingComma
  | trailingCharacters
  | endOfHexEscape
  | tooDeep
deriving DecidableEq

namespace Fault

def message : Fault → String
  | textEndsInList => "EOF while parsing a list"
  | textEndsInObject => "EOF while parsing an object"
  | textEndsInString => "EOF while parsing a string"
  | textEndsAtValue => "EOF while parsing a value"
  | expectedColon => "expected `:`"
  | expectedCommaOrBracket => "expected `,` or `]`"
  | expectedCommaOrBrace => "expected `,` or `\x7d`"
  | expectedWord => "expected ident"
  | expectedValue => "expected value"
  | invalidEscape => "invalid escape"
  | invalidNumber => "invalid number"
  | numberOutOfRange => "number out of range"
  | controlCharacter => "control character (\\u0000-\\u001F) found while parsing a string"
  | keyNotText => "key must be a string"
  | loneSurrogate => "lone leading surrogate in hex escape"
  | trailingComma => "trailing comma"
  | trailingCharacters => "trailing characters"
  | endOfHexEscape => "unexpected end of hex escape"
  | tooDeep => "recursion limit exceeded"

/-- Whether more text could have mended the fault. -/
def isIncomplete : Fault → Bool
  | textEndsInList | textEndsInObject | textEndsInString | textEndsAtValue => true
  | _ => false

end Fault

/-- A flaw: the fault met on reading, and the fault met on passing over, if that stops at all. -/
structure Flaw where
  onReading : Fault
  onPassing : Option Fault
deriving DecidableEq

/-- Where a value should be: a quoted text, a number or word, or nothing that starts a value. -/
inductive FlawedForm where
  | quoted
  | bare
  | absent
deriving DecidableEq

/-- How the items of a list end. After `trailingComma` stands the closing bracket. -/
inductive ListEnd where
  | closed
  | textEnds
  | trailingComma
  | noSeparator
deriving DecidableEq

/-- How the members of an object end. After `noKey` stands something else than a key. -/
inductive ObjectEnd where
  | closed
  | textEnds
  | trailingComma
  | textEndsAfterComma
  | noSeparator
  | noKey
deriving DecidableEq

inductive Key where
  | name (text : String)
  | flawed (flaw : Flaw)
deriving DecidableEq

/-- A value as it stands in a text; `deep` marks lists and objects below the nesting limit. -/
inductive Tree where
  | null
  | boolean (value : Bool)
  | number (value : Number)
  | text (value : String)
  | list (deep : Bool) (items : List Tree) (ending : ListEnd)
  | object (deep : Bool) (members : List (Key × Tree)) (ending : ObjectEnd)
  | flawed (form : FlawedForm) (flaw : Flaw)

namespace ListEnd

/-- The fault met by a reader that asks for one more item. -/
def fault? : ListEnd → Option Fault
  | closed => none
  | textEnds => some .textEndsInList
  | trailingComma => some .trailingComma
  | noSeparator => some .expectedCommaOrBracket

def passed? : ListEnd → Option Fault
  | trailingComma => some .expectedValue
  | ending => ending.fault?

/-- The fault met by a reader that has all its items and asks for the closing bracket. -/
def closing? : ListEnd → Option Fault
  | noSeparator => some .trailingCharacters
  | ending => ending.fault?

end ListEnd

namespace ObjectEnd

/-- The fault met by a reader that asks for one more member. -/
def fault? : ObjectEnd → Option Fault
  | closed => none
  | textEnds => some .textEndsInObject
  | trailingComma => some .trailingComma
  | textEndsAfterComma => some .textEndsAtValue
  | noSeparator => some .expectedCommaOrBrace
  | noKey => some .keyNotText

def passed? : ObjectEnd → Option Fault
  | trailingComma => some .keyNotText
  | textEndsAfterComma => some .textEndsInObject
  | ending => ending.fault?

end ObjectEnd

namespace Key

def fault? : Key → Option Fault
  | name _ => none
  | flawed flaw => some flaw.onReading

def passed? : Key → Option Fault
  | name _ => none
  | flawed flaw => flaw.onPassing

end Key

def foundNumber : Number → Found
  | .integer value => .integer value
  | .binary value => .fraction (String.ofList (Decimal.text numberFormat value))

namespace Tree

def found : Tree → Except Fault Found
  | .null => .ok .null
  | .boolean value => .ok (.boolean value)
  | .number value => .ok (foundNumber value)
  | .text value => .ok (.text value)
  | .list _ _ _ => .ok .sequence
  | .object _ _ _ => .ok .map
  | .flawed _ flaw => .error flaw.onReading

mutual

def fault? : Tree → Option Fault
  | .list true _ _ => some .tooDeep
  | .list false items ending => (itemsFault? items).or ending.fault?
  | .object true _ _ => some .tooDeep
  | .object false members ending => (membersFault? members).or ending.fault?
  | .flawed _ flaw => some flaw.onReading
  | _ => none

def itemsFault? : List Tree → Option Fault
  | [] => none
  | item :: rest => (fault? item).or (itemsFault? rest)

def membersFault? : List (Key × Tree) → Option Fault
  | [] => none
  | (key, value) :: rest => key.fault?.or ((fault? value).or (membersFault? rest))

end

mutual

def passed? : Tree → Option Fault
  | .list _ items ending => (itemsPassed? items).or ending.passed?
  | .object _ members ending => (membersPassed? members).or ending.passed?
  | .flawed _ flaw => flaw.onPassing
  | _ => none

def itemsPassed? : List Tree → Option Fault
  | [] => none
  | item :: rest => (passed? item).or (itemsPassed? rest)

def membersPassed? : List (Key × Tree) → Option Fault
  | [] => none
  | (key, value) :: rest => key.passed?.or ((passed? value).or (membersPassed? rest))

end

mutual

def bareValue : Tree → Json
  | .null => .null
  | .boolean value => .boolean value
  | .number value => .number value
  | .text value => .text value
  | .list _ items _ => .list (bareItems items)
  | .object _ members _ => .object (bareMembers members)
  | .flawed _ _ => .null

def bareItems : List Tree → List Json
  | [] => []
  | item :: rest => bareValue item :: bareItems rest

def bareMembers : List (Key × Tree) → List (String × Json)
  | [] => []
  | (.name name, value) :: rest => (name, bareValue value) :: bareMembers rest
  | (.flawed _, _) :: rest => bareMembers rest

end

mutual

def depth : Tree → Nat
  | .list _ items _ => itemsDepth items + 1
  | .object _ members _ => membersDepth members + 1
  | _ => 0

def itemsDepth : List Tree → Nat
  | [] => 0
  | item :: rest => max (depth item) (itemsDepth rest)

def membersDepth : List (Key × Tree) → Nat
  | [] => 0
  | (_, value) :: rest => max (depth value) (membersDepth rest)

end

def toValue (tree : Tree) : Except Fault Json :=
  match tree.fault? with
  | some fault => .error fault
  | none => .ok tree.bareValue

mutual

def ofValue : Json → Tree
  | .null => .null
  | .boolean value => .boolean value
  | .number value => .number value
  | .text value => .text value
  | .list items => .list false (ofItems items) .closed
  | .object members => .object false (ofMembers members) .closed

def ofItems : List Json → List Tree
  | [] => []
  | item :: rest => ofValue item :: ofItems rest

def ofMembers : List (String × Json) → List (Key × Tree)
  | [] => []
  | (name, value) :: rest => (.name name, ofValue value) :: ofMembers rest

end

mutual

theorem fault?_ofValue : (value : Json) → fault? (ofValue value) = none
  | .null => rfl
  | .boolean _ => rfl
  | .number _ => rfl
  | .text _ => rfl
  | .list items => by simp [ofValue, fault?, itemsFault?_ofItems items, ListEnd.fault?]
  | .object members => by
    simp [ofValue, fault?, membersFault?_ofMembers members, ObjectEnd.fault?]

theorem itemsFault?_ofItems : (items : List Json) → itemsFault? (ofItems items) = none
  | [] => rfl
  | item :: rest => by
    simp [ofItems, itemsFault?, fault?_ofValue item, itemsFault?_ofItems rest]

theorem membersFault?_ofMembers : (members : List (String × Json)) →
    membersFault? (ofMembers members) = none
  | [] => rfl
  | (_, value) :: rest => by
    simp [ofMembers, membersFault?, Key.fault?, fault?_ofValue value,
      membersFault?_ofMembers rest]

end

mutual

theorem passed?_ofValue : (value : Json) → passed? (ofValue value) = none
  | .null => rfl
  | .boolean _ => rfl
  | .number _ => rfl
  | .text _ => rfl
  | .list items => by
    simp [ofValue, passed?, itemsPassed?_ofItems items, ListEnd.passed?, ListEnd.fault?]
  | .object members => by
    simp [ofValue, passed?, membersPassed?_ofMembers members, ObjectEnd.passed?,
      ObjectEnd.fault?]

theorem itemsPassed?_ofItems : (items : List Json) → itemsPassed? (ofItems items) = none
  | [] => rfl
  | item :: rest => by
    simp [ofItems, itemsPassed?, passed?_ofValue item, itemsPassed?_ofItems rest]

theorem membersPassed?_ofMembers : (members : List (String × Json)) →
    membersPassed? (ofMembers members) = none
  | [] => rfl
  | (_, value) :: rest => by
    simp [ofMembers, membersPassed?, Key.passed?, passed?_ofValue value,
      membersPassed?_ofMembers rest]

end

mutual

theorem bareValue_ofValue : (value : Json) → bareValue (ofValue value) = value
  | .null => rfl
  | .boolean _ => rfl
  | .number _ => rfl
  | .text _ => rfl
  | .list items => by simp [ofValue, bareValue, bareItems_ofItems items]
  | .object members => by simp [ofValue, bareValue, bareMembers_ofMembers members]

theorem bareItems_ofItems : (items : List Json) → bareItems (ofItems items) = items
  | [] => rfl
  | item :: rest => by simp [ofItems, bareItems, bareValue_ofValue item, bareItems_ofItems rest]

theorem bareMembers_ofMembers : (members : List (String × Json)) →
    bareMembers (ofMembers members) = members
  | [] => rfl
  | (_, value) :: rest => by
    simp [ofMembers, bareMembers, bareValue_ofValue value, bareMembers_ofMembers rest]

end

theorem toValue_ofValue (value : Json) : (ofValue value).toValue = .ok value := by
  simp [toValue, fault?_ofValue, bareValue_ofValue]

end Tree

end AudienceScope.Json
