import AudienceScope.Log.Event
import AudienceScope.Log.Pattern

/-!
Filters on log events. A filter is a list of directives between commas; of those that apply to an
event the most specific decides. A directive is a level alone, a target alone, or a target with a
level. It may also name a span or a field; nothing here opens a span, so directives with a span or
with the value of a field never let an event through.
-/

set_option autoImplicit false

namespace AudienceScope.Log

/-- The number of the least important level that is let through; zero lets nothing through. -/
abbrev Threshold := Nat

/-- What is let through of the events from a target that have a field; `bindsSpans` marks directives
that only say something about what happens inside spans. -/
structure Directive where
  target : Option String
  field : Option String
  threshold : Threshold
  bindsSpans : Bool
deriving DecidableEq

def number? (chars : List Char) : Option Nat :=
  let digits := match chars with
    | '+' :: rest => rest
    | _ => chars
  if digits.isEmpty ∨ !digits.all Text.isDigit then none
  else some (digits.foldl (fun value c => value * 10 + Text.digitValue c) 0)

def threshold? (chars : List Char) : Option Threshold :=
  match number? chars with
  | some number => if number ≤ 5 then some number else none
  | none =>
    match String.ofList (chars.map Char.toLower) with
    | "off" => some 0
    | "error" => some 1
    | "" => some 1
    | "warn" => some 2
    | "info" => some 3
    | "debug" => some 4
    | "trace" => some 5
    | _ => none

def byteCount (chars : List Char) : Nat := (String.ofList chars).utf8ByteSize

/-- The characters behind so many bytes; none if that is inside a character. -/
def dropBytes? : Nat → List Char → Option (List Char)
  | 0, chars => some chars
  | _, [] => none
  | count, c :: rest => if c.utf8Size ≤ count then dropBytes? (count - c.utf8Size) rest else none

/-- The characters of so many bytes; none if they end inside a character. -/
def takeBytes? : Nat → List Char → Option (List Char)
  | 0, _ => some []
  | _, [] => none
  | count, c :: rest =>
    if c.utf8Size ≤ count then (takeBytes? (count - c.utf8Size) rest).map (c :: ·) else none

/-- A text that may have white space around it. How it is divided is seen without that white space,
but the parts are cut out at the same places of the whole text. -/
structure Spaced where
  chars : List Char

namespace Spaced

def trimmed (source : Spaced) : List Char :=
  ((source.chars.dropWhile Text.blankChars.contains).reverse.dropWhile
    Text.blankChars.contains).reverse

def from? (source : Spaced) (start : Nat) : Option (List Char) := dropBytes? start source.chars

def cut? (source : Spaced) (start count : Nat) : Option (List Char) :=
  (source.from? start).bind (takeBytes? count)

end Spaced

def isExponent (chars : List Char) : Bool :=
  match chars with
  | [] => true
  | mark :: rest =>
    let digits := match rest with
      | '+' :: digits => digits
      | '-' :: digits => digits
      | _ => rest
    (mark = 'e' || mark = 'E') && !digits.isEmpty && digits.all Text.isDigit

def isNumber (chars : List Char) : Bool :=
  let whole := chars.takeWhile Text.isDigit
  let (fraction, left) := match chars.drop whole.length with
    | '.' :: rest => (rest.takeWhile Text.isDigit, rest.dropWhile Text.isDigit)
    | left => ([], left)
  (!(whole.isEmpty && fraction.isEmpty) && isExponent left) ||
    ["inf", "infinity", "nan"].contains (String.ofList (chars.map Char.toLower))

/-- Whether the value of a field is one: a search pattern, or a number that starts with a plus sign.
All other numbers are search patterns too. -/
def isValue (chars : List Char) : Bool :=
  Pattern.isValid chars ||
    match chars with
    | '+' :: rest => isNumber rest
    | _ => false

namespace Directive

def ofWord (word : List Char) : Directive :=
  match threshold? word with
  | some threshold => ⟨none, none, threshold, false⟩
  | none => ⟨some (String.ofList word), none, 5, false⟩

def withLevel (directive : Directive) (level : List Char) : Option Directive :=
  if level.isEmpty then some { directive with threshold := 5 }
  else (threshold? level).map fun threshold => { directive with threshold }

/-- The field between braces, which may have a value behind an equals sign. A second equals sign
ends the value. -/
def withField (directive : Directive) (chars : List Char) : Option Directive :=
  let name := chars.takeWhile (· ≠ '=')
  let named := { directive with field := some (String.ofList name) }
  match chars.drop name.length with
  | _ :: value =>
    if isValue (value.takeWhile (· ≠ '=')) then some { named with bindsSpans := true } else none
  | [] => if chars.isEmpty then none else some named

def afterSpan (directive : Directive) (source : Spaced) (start : Nat) (chars : List Char) :
    Option Directive :=
  match chars with
  | [] => some directive
  | '=' :: _ => (source.from? (start + 1)).bind directive.withLevel
  | _ => none

def ofSpan (target : Option String) (source : Spaced) (start : Nat) (chars : List Char) :
    Option Directive :=
  let name := chars.takeWhile fun c => c ≠ ']' ∧ c ≠ '\x7b'
  let directive : Directive := ⟨target, none, 5, false⟩
  let behindName := start + byteCount name + 1
  match chars.drop name.length with
  | ']' :: rest => afterSpan { directive with bindsSpans := true } source behindName rest
  | '\x7b' :: rest =>
    let field := rest.takeWhile (· ≠ '\x7d')
    match rest.drop field.length with
    | '\x7d' :: ']' :: rest => do
      let text ← source.cut? behindName (byteCount field)
      let directive ← { directive with bindsSpans := !name.isEmpty }.withField text
      afterSpan directive source (behindName + byteCount field + 2) rest
    | _ => none
  | _ => none

def mayStart (c : Char) : Bool := Text.isAlphanumeric c || c = '-' || c = ':' || c = '_'

def parse? (chars : List Char) : Option Directive :=
  let source : Spaced := ⟨chars⟩
  match source.trimmed with
  | [] => none
  | '[' :: rest => ofSpan none source 1 rest
  | first :: rest =>
    if mayStart first then
      let word := (first :: rest).takeWhile fun c => c ≠ '=' ∧ c ≠ '['
      let behind := byteCount word + 1
      match (first :: rest).drop word.length, source.cut? 0 (byteCount word) with
      | [], _ => some (ofWord chars)
      | '=' :: _, some target =>
        (source.from? behind).bind (withLevel ⟨some (String.ofList target), none, 5, false⟩)
      | _ :: rest, some target => ofSpan (some (String.ofList target)) source behind rest
      | _, none => none
    else none

def appliesTo (directive : Directive) (event : Event) : Bool :=
  !directive.bindsSpans &&
    directive.target.all (·.toList.isPrefixOf event.source.name.toList) &&
    directive.field.all fun field => field = "message" || (event.fields.lookup field).isSome

def targetSize (directive : Directive) : Nat :=
  match directive.target with
  | some target => target.utf8ByteSize + 1
  | none => 0

/-- How specific the first directive is, measured by the second: a longer target counts most, then a
field. Equally long targets are compared letter by letter, and then the fields. -/
def compareSpecific (first second : Directive) : Ordering :=
  (compare first.targetSize second.targetSize).then
    ((compare first.field.isSome second.field.isSome).then
      ((compare (first.target.getD "") (second.target.getD "")).then
        (compare (first.field.getD "") (second.field.getD ""))))

end Directive

abbrev Filter := List Directive

namespace Filter

def ofLevel (level : Level) : Filter := [⟨none, none, level.number, false⟩]

def parts (chars : List Char) : List (List Char) :=
  ((String.ofList chars).splitOn ",").filterMap fun part =>
    if part.isEmpty then none else some part.toList

/-- Reads a filter; one bad directive makes the whole text bad. Without a directive only errors are
let through. -/
def parse? (source : String) : Option Filter :=
  match (parts source.toList).mapM Directive.parse? with
  | none => none
  | some [] => some (ofLevel .error)
  | some directives => some directives

/-- The filter of a run: the given text, if there is one and it is good, else by verbosity. -/
def choose (given : Option String) (verbose : Bool) : Filter :=
  (given.bind parse?).getD (ofLevel (if verbose then .debug else .warn))

def deciding? (filter : Filter) (event : Event) : Option Directive :=
  (filter.filter (·.appliesTo event)).foldl
    (fun best? directive =>
      match best? with
      | none => some directive
      | some best => some (if (directive.compareSpecific best).isGE then directive else best))
    none

def lets (filter : Filter) (event : Event) : Bool :=
  match filter.deciding? event with
  | some directive => event.level.number ≤ directive.threshold
  | none => false

def lines (filter : Filter) (events : List Event) : List String :=
  (events.filter filter.lets).map Event.line

end Filter

end AudienceScope.Log
