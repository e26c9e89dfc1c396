import AudienceScope.Json.Tree
import AudienceScope.Text.Character

/-!
Reading the tree of a JSON text. The text is strict: no comments, no byte order mark, no trailing
commas, no control characters in quotes. White space is the blank, the tab, the line feed and the
carriage return.
-/

set_option autoImplicit false

namespace AudienceScope.Json

open Text (isDigit digitValue hexValue?)

def isGap (c : Char) : Bool := c = ' ' || c = '\n' || c = '\t' || c = '\r'

def skipGap (chars : List Char) : List Char := chars.dropWhile isGap

def unescape? (c : Char) : Option Char :=
  if c = '"' then some '"'
  else if c = '\\' then some '\\'
  else if c = '/' then some '/'
  else if c = 'b' then some '\x08'
  else if c = 'f' then some '\x0c'
  else if c = 'n' then some '\n'
  else if c = 'r' then some '\r'
  else if c = 't' then some '\t'
  else none

/-- The number of bytes of a text, as far as it matters whether it is below four. -/
def bytesUpToFour (chars : List Char) : Nat :=
  (chars.take 4).foldl (fun count c => count + c.utf8Size) 0

/-- The unit written by four hexadecimal digits at the start of a text. A text with fewer than four
bytes left has ended too early; any other without four digits holds a bad escape. -/
def hexUnit (chars : List Char) : Except Fault Nat :=
  match chars with
  | a :: b :: c :: d :: _ =>
    match hexValue? a, hexValue? b, hexValue? c, hexValue? d with
    | some a, some b, some c, some d => .ok (((a * 16 + b) * 16 + c) * 16 + d)
    | _, _, _, _ => .error .invalidEscape
  | short => .error (if bytesUpToFour short < 4 then .textEndsInString else .invalidEscape)

def isLeadingUnit (unit : Nat) : Bool := 0xd800 ≤ unit && unit < 0xdc00

def isTrailingUnit (unit : Nat) : Bool := 0xdc00 ≤ unit && unit < 0xe000

def joinUnits (leading trailing : Nat) : Char :=
  Char.ofNat (0x10000 + (leading - 0xd800) * 0x400 + (trailing - 0xdc00))

/-- The trailing surrogate that has to follow a leading one, written by an escape of its own. -/
def trailingUnit (chars : List Char) : Except Fault Nat :=
  match chars with
  | [] => .error .textEndsInString
  | '\\' :: [] => .error .textEndsInString
  | '\\' :: 'u' :: digits =>
    match hexUnit digits with
    | .error fault => .error fault
    | .ok unit => if isTrailingUnit unit then .ok unit else .error .loneSurrogate
  | _ => .error .endOfHexEscape

def readQuoted : List Char → Except Fault (List Char × List Char)
  | [] => .error .textEndsInString
  | '"' :: rest => .ok ([], rest)
  | '\\' :: 'u' :: rest =>
    match hexUnit rest with
    | .error fault => .error fault
    | .ok unit =>
      if isTrailingUnit unit then .error .loneSurrogate
      else
        match rest with
        | _ :: _ :: _ :: _ :: afterUnit =>
          if isLeadingUnit unit then
            match trailingUnit afterUnit, afterUnit with
            | .error fault, _ => .error fault
            | .ok trailing, _ :: _ :: _ :: _ :: _ :: _ :: afterPair =>
              (readQuoted afterPair).map fun (read, left) => (joinUnits unit trailing :: read, left)
            | .ok _, _ => .error .textEndsInString
          else (readQuoted afterUnit).map fun (read, left) => (Char.ofNat unit :: read, left)
        | _ => .error .textEndsInString
  | '\\' :: c :: rest =>
    match unescape? c with
    | some plain => (readQuoted rest).map fun (read, left) => (plain :: read, left)
    | none => .error .invalidEscape
  | '\\' :: [] => .error .textEndsInString
  | c :: rest =>
    if c.toNat < 32 then .error .controlCharacter
    else (readQuoted rest).map fun (read, left) => (c :: read, left)

/-- Passes over quoted text behind its opening quote; surrogates need not pair. -/
def passQuoted : List Char → Except Fault (List Char)
  | [] => .error .textEndsInString
  | '"' :: rest => .ok rest
  | '\\' :: 'u' :: rest =>
    match hexUnit rest with
    | .error fault => .error fault
    | .ok _ =>
      match rest with
      | _ :: _ :: _ :: _ :: afterUnit => passQuoted afterUnit
      | _ => .error .textEndsInString
  | '\\' :: c :: rest => if (unescape? c).isSome then passQuoted rest else .error .invalidEscape
  | '\\' :: [] => .error .textEndsInString
  | c :: rest => if c.toNat < 32 then .error .controlCharacter else passQuoted rest

def scanQuoted (chars : List Char) : Except Flaw (List Char) × Option (List Char) :=
  match readQuoted chars with
  | .ok (read, left) => (.ok read, some left)
  | .error fault =>
    match passQuoted chars with
    | .ok left => (.error ⟨fault, none⟩, some left)
    | .error passing => (.error ⟨fault, some passing⟩, none)

def spanDigits (chars : List Char) : List Nat × List Char :=
  ((chars.takeWhile isDigit).map digitValue, chars.dropWhile isDigit)

/-- At least one digit; without one the text has either ended or holds a bad number. -/
def someDigits (chars : List Char) : Except Fault (List Nat × List Char) :=
  match chars with
  | [] => .error .textEndsAtValue
  | c :: _ => if isDigit c then .ok (spanDigits chars) else .error .invalidNumber

/-- The digits before the point: one zero, or digits that start with another one. -/
def readWhole (chars : List Char) : Except Fault (List Nat × List Char) :=
  match chars with
  | '0' :: rest =>
    match rest with
    | c :: _ => if isDigit c then .error .invalidNumber else .ok ([0], rest)
    | [] => .ok ([0], rest)
  | _ => someDigits chars

def readFraction (chars : List Char) : Except Fault (Option (List Nat) × List Char) :=
  match chars with
  | '.' :: rest => (someDigits rest).map fun (digits, left) => (some digits, left)
  | _ => .ok (none, chars)

def readExponent (chars : List Char) : Except Fault (Option (Bool × List Nat) × List Char) :=
  match chars with
  | c :: rest =>
    if c = 'e' ∨ c = 'E' then
      match rest with
      | '+' :: digits => (someDigits digits).map fun (read, left) => (some (false, read), left)
      | '-' :: digits => (someDigits digits).map fun (read, left) => (some (true, read), left)
      | _ => (someDigits rest).map fun (read, left) => (some (false, read), left)
    else .ok (none, chars)
  | [] => .ok (none, chars)

def readLiteral (chars : List Char) : Except Fault (DecimalLiteral × List Char) :=
  let (negative, unsigned) := match chars with
    | '-' :: rest => (true, rest)
    | _ => (false, chars)
  match readWhole unsigned with
  | .error fault => .error fault
  | .ok (whole, afterWhole) =>
    match readFraction afterWhole with
    | .error fault => .error fault
    | .ok (fraction, afterFraction) =>
      match readExponent afterFraction with
      | .error fault => .error fault
      | .ok (exponent, left) => .ok (⟨negative, whole, fraction, exponent⟩, left)

def leastInteger : Int := -0x8000000000000000

def greatestInteger : Int := 0xffffffffffffffff

/-- A literal of digits alone within the integer range is an integer, but `-0` is a double like any
other literal; a literal too large for a double is no number. -/
def numberOf (literal : DecimalLiteral) : Except Fault Number :=
  let magnitude : Nat := literal.whole.foldl (fun value digit => value * 10 + digit) 0
  let value : Int := if literal.negative then -(magnitude : Int) else magnitude
  if literal.fraction = none ∧ literal.exponent = none ∧ ¬(literal.negative ∧ magnitude = 0) ∧
      leastInteger ≤ value ∧ value ≤ greatestInteger then .ok (.integer value)
  else
    match literal.toBinary64? with
    | some double => .ok (.binary double)
    | none => .error .numberOutOfRange

def scanNumber (chars : List Char) : Tree × Option (List Char) :=
  match readLiteral chars with
  | .error fault => (.flawed .bare ⟨fault, some .invalidNumber⟩, none)
  | .ok (literal, left) =>
    match numberOf literal with
    | .ok value => (.number value, some left)
    | .error fault => (.flawed .bare ⟨fault, none⟩, some left)

def readWord : (letters chars : List Char) → Except Fault (List Char)
  | [], chars => .ok chars
  | _ :: _, [] => .error .textEndsAtValue
  | letter :: letters, c :: chars =>
    if c = letter then readWord letters chars else .error .expectedWord

def scanWord (value : Tree) (letters chars : List Char) : Tree × Option (List Char) :=
  match readWord letters chars with
  | .ok left => (value, some left)
  | .error fault => (.flawed .bare ⟨fault, some fault⟩, none)

/-! ### Values -/

def nestingLimit : Nat := 127

def absent (fault : Fault) : Tree × Option (List Char) :=
  (.flawed .absent ⟨fault, some fault⟩, none)

/-- A value that is no list and no object, at the start of a text without leading white space. -/
def scanScalar (chars : List Char) : Tree × Option (List Char) :=
  match chars with
  | [] => absent .textEndsAtValue
  | 'n' :: rest => scanWord .null ['u', 'l', 'l'] rest
  | 't' :: rest => scanWord (.boolean true) ['r', 'u', 'e'] rest
  | 'f' :: rest => scanWord (.boolean false) ['a', 'l', 's', 'e'] rest
  | '"' :: rest =>
    match scanQuoted rest with
    | (.ok read, left) => (.text (String.ofList read), left)
    | (.error flaw, left) => (.flawed .quoted flaw, left)
  | c :: _ => if c = '-' || isDigit c then scanNumber chars else absent .expectedValue

mutual

/-- The value at the start of a text, inside `level` lists and objects; the rest of the text is
absent when nothing behind the value can be read. -/
def scanValue : (fuel level : Nat) → List Char → Tree × Option (List Char)
  | 0, _, _ => absent .tooDeep
  | fuel + 1, level, chars =>
    match skipGap chars with
    | '[' :: rest =>
      let (items, ending, left) := scanItems fuel (level + 1) rest
      (.list (nestingLimit ≤ level) items ending, left)
    | '\x7b' :: rest =>
      let (members, ending, left) := scanMembers fuel (level + 1) rest
      (.object (nestingLimit ≤ level) members ending, left)
    | start => scanScalar start

def scanItems : (fuel level : Nat) → List Char → List Tree × ListEnd × Option (List Char)
  | 0, _, _ => ([], .textEnds, none)
  | fuel + 1, level, chars =>
    match skipGap chars with
    | [] => ([], .textEnds, none)
    | ']' :: rest => ([], .closed, some rest)
    | start => scanItem fuel level start

def scanItem : (fuel level : Nat) → List Char → List Tree × ListEnd × Option (List Char)
  | 0, _, _ => ([], .textEnds, none)
  | fuel + 1, level, chars =>
    match scanValue fuel level chars with
    | (item, none) => ([item], .closed, none)
    | (item, some afterItem) =>
      match skipGap afterItem with
      | [] => ([item], .textEnds, none)
      | ']' :: rest => ([item], .closed, some rest)
      | ',' :: afterComma =>
        match skipGap afterComma with
        | ']' :: _ => ([item], .trailingComma, none)
        | start =>
          let (items, ending, left) := scanItem fuel level start
          (item :: items, ending, left)
      | _ => ([item], .noSeparator, none)

def scanMembers : (fuel level : Nat) → List Char →
    List (Key × Tree) × ObjectEnd × Option (List Char)
  | 0, _, _ => ([], .textEnds, none)
  | fuel + 1, level, chars =>
    match skipGap chars with
    | [] => ([], .textEnds, none)
    | '\x7d' :: rest => ([], .closed, some rest)
    | '"' :: rest => scanMember fuel level rest
    | _ => ([], .noKey, none)

def scanMember : (fuel level : Nat) → List Char →
    List (Key × Tree) × ObjectEnd × Option (List Char)
  | 0, _, _ => ([], .textEnds, none)
  | fuel + 1, level, chars =>
    let (name, afterName) := scanQuoted chars
    let key := match name with
      | .ok read => Key.name (String.ofList read)
      | .error flaw => .flawed flaw
    match afterName with
    | none => ([(key, .null)], .closed, none)
    | some afterKey =>
      let (value, left) := match skipGap afterKey with
        | [] => absent .textEndsInObject
        | ':' :: afterColon => scanValue fuel level afterColon
        | _ => absent .expectedColon
      match left with
      | none => ([(key, value)], .closed, none)
      | some afterValue =>
        match skipGap afterValue with
        | [] => ([(key, value)], .textEnds, none)
        | '\x7d' :: rest => ([(key, value)], .closed, some rest)
        | ',' :: afterComma =>
          match skipGap afterComma with
          | [] => ([(key, value)], .textEndsAfterComma, none)
          | '\x7d' :: _ => ([(key, value)], .trailingComma, none)
          | '"' :: rest =>
            let (members, ending, end?) := scanMember fuel level rest
            ((key, value) :: members, ending, end?)
          | _ => ([(key, value)], .noKey, none)
        | _ => ([(key, value)], .noSeparator, none)

end

/-- The tree of a whole text, and whether anything but white space follows the value. -/
structure Page where
  root : Tree
  trailing : Bool

/-- Reads a text. Every character is met by at most three of the nested calls: an opening bracket by
those for the value, for its items and for the first of them. -/
def readPage (source : String) : Page :=
  let chars := source.toList
  match scanValue (3 * chars.length + 3) 0 chars with
  | (root, none) => ⟨root, false⟩
  | (root, some left) => ⟨root, !(skipGap left).isEmpty⟩

def parse (source : String) : Except Fault Json :=
  let page := readPage source
  match page.root.toValue with
  | .error fault => .error fault
  | .ok value => if page.trailing then .error .trailingCharacters else .ok value

end AudienceScope.Json
