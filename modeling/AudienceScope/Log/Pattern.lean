import AudienceScope.Text.Character

/-!
Search patterns, as far as it matters whether a text is one. A pattern has groups, alternatives,
classes in brackets, repetitions and escapes; flags change how the rest of a group is read. Counted
repetitions are left out, because no text that is read here holds a closing brace. Main definition:
`Pattern.isValid`.
-/

set_option autoImplicit false

namespace AudienceScope.Log.Pattern

/-- How the pattern is read from some place on. In Unicode mode characters of all scripts may stand
in a class and for any character there is the dot, but there are no tables of letters: neither case
nor words can be told. Otherwise characters are those of ASCII. -/
structure Mode where
  ignoresCase : Bool
  isUnicode : Bool
  isSpaced : Bool
deriving DecidableEq

namespace Mode

def plain : Mode := ⟨false, true, false⟩

/-- Whether a flag is on; the flags behind a dash are switched off, those not named stay. -/
def flag (flags : List Char) (letter : Char) (old : Bool) : Bool :=
  if (flags.takeWhile (· ≠ '-')).contains letter then true
  else if flags.contains letter then false
  else old

def withFlags (mode : Mode) (flags : List Char) : Mode where
  ignoresCase := flag flags 'i' mode.ignoresCase
  isUnicode := flag flags 'u' mode.isUnicode
  isSpaced := flag flags 'x' mode.isSpaced

/-- Drops white space and comments, which last to the end of their line. -/
def dropSpace : (inComment : Bool) → List Char → List Char
  | _, [] => []
  | true, c :: rest => dropSpace (c ≠ '\n') rest
  | false, c :: rest =>
    if Text.blankChars.contains c then dropSpace false rest
    else if c = '#' then dropSpace true rest
    else c :: rest

/-- Where the pattern goes on: in spaced mode white space and comments mean nothing. -/
def skip (mode : Mode) (chars : List Char) : List Char :=
  if mode.isSpaced then dropSpace false chars else chars

def goOn (mode : Mode) (chars : List Char) : Option (List Char) :=
  match mode.skip chars with
  | [] => none
  | left => some left

def admits (mode : Mode) : Bool := !(mode.isUnicode && mode.ignoresCase)

def admitsInClass (mode : Mode) (c : Char) : Bool :=
  mode.admits && (mode.isUnicode || c.toNat < 0x80)

def admitsNegation (mode : Mode) (negated : Bool) : Bool := mode.isUnicode || !negated

end Mode

inductive Escape where
  | character (c : Char) (isByte : Bool)
  | kind (negated : Bool)
  | place (atWord : Bool)
deriving DecidableEq

def readHex (mode : Mode) : (count value : Nat) → List Char → Option (Nat × List Char)
  | 0, value, chars => some (value, chars)
  | count + 1, value, chars =>
    match mode.skip chars with
    | [] => none
    | c :: rest => (Text.hexValue? c).bind fun digit => readHex mode count (value * 16 + digit) rest

def readCode (mode : Mode) (count : Nat) (isByte : Bool) (chars : List Char) :
    Option (Escape × List Char) :=
  match readHex mode count 0 chars with
  | none => none
  | some (value, left) =>
    if value.isValidChar then some (.character (Char.ofNat value) isByte, left) else none

def readEscape (mode : Mode) : List Char → Option (Escape × List Char)
  | [] => none
  | c :: rest =>
    match c with
    | 'x' => readCode mode 2 true rest
    | 'u' => readCode mode 4 false rest
    | 'U' => readCode mode 8 false rest
    | 'a' => some (.character '\x07' false, rest)
    | 'f' => some (.character '\x0c' false, rest)
    | 't' => some (.character '\t' false, rest)
    | 'n' => some (.character '\n' false, rest)
    | 'r' => some (.character '\r' false, rest)
    | 'v' => some (.character '\x0b' false, rest)
    | 'A' => some (.place false, rest)
    | 'z' => some (.place false, rest)
    | _ =>
      if ['d', 's', 'w'].contains c then some (.kind false, rest)
      else if ['D', 'S', 'W'].contains c then some (.kind true, rest)
      else if ['b', 'B', '<', '>'].contains c then some (.place true, rest)
      else if c.toNat < 0x80 ∧ !c.isAlphanum then some (.character c false, rest)
      else none

def Escape.isAdmitted (mode : Mode) : Escape → Bool
  | character c isByte => mode.admits && (mode.isUnicode || !isByte || c.toNat < 0x80)
  | kind negated => !mode.isUnicode && !negated
  | place atWord => !atWord || !mode.isUnicode

/-- One end of a range in a class: a character, or none for a whole class of them. -/
def readMember (mode : Mode) : List Char → Option (Option Char × List Char)
  | [] => none
  | '\\' :: rest =>
    match readEscape mode rest with
    | some (.character c _, left) => if mode.admitsInClass c then some (some c, left) else none
    | some (.kind negated, left) =>
      if (Escape.kind negated).isAdmitted mode then some (none, left) else none
    | _ => none
  | c :: rest => if mode.admitsInClass c then some (some c, rest) else none

/-- What comes next behind a dash, comments looked at only by their first sign. -/
def peek (mode : Mode) (chars : List Char) : Option Char :=
  let dropBlanks (chars : List Char) := chars.dropWhile Text.blankChars.contains
  if mode.isSpaced then
    match dropBlanks chars with
    | '#' :: rest => (dropBlanks rest).head?
    | left => left.head?
  else chars.head?

/-- A character of a class or a range of them; a dash before the end of the class or before another
dash makes no range. -/
def readRange (mode : Mode) (chars : List Char) : Option (List Char) :=
  match readMember mode chars with
  | none => none
  | some (first, afterFirst) =>
    match mode.goOn afterFirst with
    | some ('-' :: afterDash) =>
      if peek mode afterDash = some ']' ∨ peek mode afterDash = some '-' then
        some ('-' :: afterDash)
      else
        match first, (mode.goOn afterDash).bind (readMember mode) with
        | some low, some (some high, left) => if low ≤ high then some left else none
        | _, _ => none
    | left? => left?

def asciiClasses : List String :=
  ["alnum", "alpha", "ascii", "blank", "cntrl", "digit", "graph", "lower", "print", "punct",
    "space", "upper", "word", "xdigit"]

/-- A named class behind its opening bracket, and whether it is negated. Anything else there is the
start of a class inside a class. -/
def readAsciiClass? : List Char → Option (Bool × List Char)
  | ':' :: chars =>
    let (negated, start) := match chars with
      | '^' :: rest => (true, rest)
      | _ => (false, chars)
    let name := start.takeWhile (· ≠ ':')
    match start.drop name.length with
    | ':' :: ']' :: left =>
      if asciiClasses.contains (String.ofList name) then some (negated, left) else none
    | _ => none
  | _ => none

/-- The dashes at the start of a class stand for themselves. -/
def readDashes (mode : Mode) : (fuel : Nat) → List Char → Option (List Char)
  | 0, _ => none
  | fuel + 1, '-' :: rest =>
    if mode.admits then (mode.goOn rest).bind (readDashes mode fuel) else none
  | _, chars => some chars

/-- The start of a class behind its opening bracket. A closing bracket that comes first stands for
itself. -/
def openClass (mode : Mode) (chars : List Char) : Option (List Char) := do
  let start ← mode.goOn chars
  let members ← match start with
    | '^' :: rest => if mode.admitsNegation true then mode.goOn rest else none
    | _ => some start
  match members with
  | ']' :: rest => if mode.admits then mode.goOn rest else none
  | _ => readDashes mode members.length.succ members

def readClass (mode : Mode) : (fuel level : Nat) → List Char → Option (List Char)
  | 0, _, _ => none
  | fuel + 1, level, chars =>
    match mode.skip chars, level with
    | [], _ => none
    | '[' :: rest, level =>
      match readAsciiClass? rest with
      | some (negated, left) =>
        if mode.admits ∧ mode.admitsNegation negated then readClass mode fuel level left else none
      | none => (openClass mode rest).bind (readClass mode fuel (level + 1))
    | ']' :: rest, 0 => some rest
    | ']' :: rest, level + 1 => readClass mode fuel level rest
    | '&' :: '&' :: rest, level => readClass mode fuel level rest
    | '-' :: '-' :: rest, level => readClass mode fuel level rest
    | '~' :: '~' :: rest, level => readClass mode fuel level rest
    | members, level => (readRange mode members).bind (readClass mode fuel level)

/-! ### Groups -/

def flagLetters : List Char := ['i', 'm', 's', 'U', 'u', 'R', 'x']

def readFlags (seen : List Char) : List Char → Option (List Char × List Char)
  | [] => none
  | c :: rest =>
    if c = ':' ∨ c = ')' then
      if seen.getLast? = some '-' then none else some (seen, c :: rest)
    else if seen.contains c then none
    else if c = '-' ∨ flagLetters.contains c then readFlags (seen ++ [c]) rest
    else none

def isNameChar (isFirst : Bool) (c : Char) : Bool :=
  c = '_' || (if isFirst then Text.isAlphabetic c
    else ['.', '[', ']'].contains c || Text.isAlphanumeric c)

def readName (chars : List Char) : Option (List Char × List Char) :=
  let name := chars.takeWhile (· ≠ '>')
  match name, chars.drop name.length with
  | first :: rest, '>' :: left =>
    if isNameChar true first ∧ rest.all (isNameChar false) then some (name, left) else none
  | _, _ => none

/-- What an opening parenthesis starts: flags for the rest of the group, or a group, which may have
a name. -/
inductive Opening where
  | flags (mode : Mode)
  | group (mode : Mode) (name : Option (List Char))

def openGroup (mode : Mode) (chars : List Char) : Option (Opening × List Char) :=
  match mode.skip chars with
  | '?' :: 'P' :: '<' :: rest =>
    (readName rest).map fun (name, left) => (.group mode (some name), left)
  | '?' :: '<' :: rest => (readName rest).map fun (name, left) => (.group mode (some name), left)
  | '?' :: rest =>
    match readFlags [] rest with
    | some (flags, ':' :: left) => some (.group (mode.withFlags flags) none, left)
    | some (flags, ')' :: left) =>
      if flags.isEmpty then none else some (.flags (mode.withFlags flags), left)
    | _ => none
  | left => some (.group mode none, left)

/-- A place in a pattern: the modes to go back to at the end of each open group, the names given so
far, and whether something stands before the place that can be repeated. -/
structure Place where
  mode : Mode
  outer : List Mode
  names : List (List Char)
  repeatable : Bool

namespace Place

def start : Place := ⟨Mode.plain, [], [], false⟩

def behindItem (place : Place) : Place := { place with repeatable := true }

def enter (place : Place) : Opening → Option Place
  | .flags mode => some { place with mode, repeatable := false }
  | .group mode none =>
    some { place with mode, outer := place.mode :: place.outer, repeatable := false }
  | .group mode (some name) =>
    if place.names.contains name then none
    else some ⟨mode, place.mode :: place.outer, name :: place.names, false⟩

def leave (place : Place) : Option Place :=
  match place.outer with
  | [] => none
  | mode :: outer => some ⟨mode, outer, place.names, true⟩

def next (place : Place) : List Char → Option (Place × List Char)
  | [] => none
  | c :: rest =>
    match c with
    | '(' => do
      let (opening, left) ← openGroup place.mode rest
      return (← place.enter opening, left)
    | ')' => place.leave.map fun behind => (behind, rest)
    | '|' => some ({ place with repeatable := false }, rest)
    | '[' => do
      let members ← openClass place.mode rest
      return (place.behindItem, ← readClass place.mode members.length.succ 0 members)
    | '\\' => do
      let (escape, left) ← readEscape place.mode rest
      if escape.isAdmitted place.mode then return (place.behindItem, left) else none
    | '.' => if place.mode.isUnicode then some (place.behindItem, rest) else none
    | '^' => some (place.behindItem, rest)
    | '$' => some (place.behindItem, rest)
    | '\x7b' => none
    | _ =>
      if ['?', '*', '+'].contains c then
        if place.repeatable then some (place, if rest.head? = some '?' then rest.tail else rest)
        else none
      else if place.mode.admits then some (place.behindItem, rest)
      else none

end Place

def isGoodFrom : (fuel : Nat) → Place → List Char → Bool
  | 0, _, _ => false
  | fuel + 1, place, chars =>
    match place.mode.skip chars with
    | [] => place.outer.isEmpty
    | left =>
      match place.next left with
      | none => false
      | some (behind, rest) => isGoodFrom fuel behind rest

/-- Whether a text is a search pattern. Every part of a pattern takes at least one character. -/
def isValid (chars : List Char) : Bool := isGoodFrom chars.length.succ .start chars

end AudienceScope.Log.Pattern
