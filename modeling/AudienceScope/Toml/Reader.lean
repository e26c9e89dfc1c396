import AudienceScope.Decimal.Binary64
import AudienceScope.Text.Character
import AudienceScope.Toml.Table

/-!
Reading TOML 1.0. Every function takes the text that is left and gives what it read with the text
behind it, or nothing if the text is not TOML. What a message would say about a bad text is not
modelled.
-/

set_option autoImplicit false

namespace AudienceScope.Toml

open Text (isDigit digitValue hexValue?)

/-- Something read, and the text behind it. -/
abbrev Scan (α : Type) := Option (α × List Char)

def isBlank (c : Char) : Bool := c = ' ' || c = '\t'

def isPlain (c : Char) : Bool := c = '\t' || (0x20 ≤ c.toNat && c.toNat ≠ 0x7f)

def isBareKey (c : Char) : Bool :=
  isDigit c || ('a' ≤ c && c ≤ 'z') || ('A' ≤ c && c ≤ 'Z') || c = '_' || c = '-'

def skipBlanks (chars : List Char) : List Char := chars.dropWhile isBlank

def afterBreak? : List Char → Option (List Char)
  | '\n' :: rest => some rest
  | '\r' :: '\n' :: rest => some rest
  | _ => none

def skipComment (chars : List Char) : List Char :=
  match chars with
  | '#' :: rest => rest.dropWhile isPlain
  | _ => chars

/-- The text behind the end of a line, which may hold blanks and a comment. -/
def endLine? (chars : List Char) : Option (List Char) :=
  match skipComment (skipBlanks chars) with
  | [] => some []
  | rest => afterBreak? rest

/-- Passes over blanks, comments and line breaks; a comment has to end with its line. -/
def skipLines : (fuel : Nat) → List Char → Option (List Char)
  | 0, _ => none
  | fuel + 1, chars =>
    match skipBlanks chars with
    | '#' :: rest =>
      match afterBreak? (rest.dropWhile isPlain) with
      | some next => skipLines fuel next
      | none => none
    | rest =>
      match afterBreak? rest with
      | some next => skipLines fuel next
      | none => some rest

def hexChar? (digits : List Char) : Option Char :=
  match digits.mapM hexValue? with
  | none => none
  | some values =>
    let code := values.foldl (fun code value => code * 16 + value) 0
    if code < 0xd800 ∨ (0xe000 ≤ code ∧ code < 0x110000) then some (Char.ofNat code) else none

def scanEscape (chars : List Char) : Scan Char :=
  match chars with
  | 'b' :: rest => some ('\x08', rest)
  | 't' :: rest => some ('\t', rest)
  | 'n' :: rest => some ('\n', rest)
  | 'f' :: rest => some ('\x0c', rest)
  | 'r' :: rest => some ('\r', rest)
  | '"' :: rest => some ('"', rest)
  | '\\' :: rest => some ('\\', rest)
  | 'u' :: rest =>
    if rest.length < 4 then none else (hexChar? (rest.take 4)).map fun c => (c, rest.drop 4)
  | 'U' :: rest =>
    if rest.length < 8 then none else (hexChar? (rest.take 8)).map fun c => (c, rest.drop 8)
  | _ => none

def push (c : Char) (scanned : Scan (List Char)) : Scan (List Char) :=
  scanned.map fun (read, left) => (c :: read, left)

def scanQuoted : (fuel : Nat) → List Char → Scan (List Char)
  | 0, _ => none
  | fuel + 1, chars =>
    match chars with
    | '"' :: rest => some ([], rest)
    | '\\' :: rest =>
      match scanEscape rest with
      | some (c, left) => push c (scanQuoted fuel left)
      | none => none
    | c :: rest => if isPlain c then push c (scanQuoted fuel rest) else none
    | [] => none

def scanLiteral : List Char → Scan (List Char)
  | [] => none
  | '\'' :: rest => some ([], rest)
  | c :: rest => if isPlain c then push c (scanLiteral rest) else none

/-- The end of a text in several lines: three closing quotes, with at most two more before them that
belong to the text. -/
def closing? (quote : Char) (chars : List Char) : Scan (List Char) :=
  let count := (chars.takeWhile (· = quote)).length
  if count < 3 then none
  else
    let extra := min 2 (count - 3)
    some (List.replicate extra quote, chars.drop (extra + 3))

/-- Passes over the blanks and line breaks behind a backslash at the end of a line. -/
def skipFold : (fuel : Nat) → List Char → List Char
  | 0, chars => chars
  | fuel + 1, chars =>
    match chars with
    | ' ' :: rest => skipFold fuel rest
    | '\t' :: rest => skipFold fuel rest
    | _ =>
      match afterBreak? chars with
      | some rest => skipFold fuel rest
      | none => chars

def scanQuotedLines : (fuel : Nat) → List Char → Scan (List Char)
  | 0, _ => none
  | fuel + 1, chars =>
    match chars with
    | '"' :: rest =>
      match closing? '"' chars with
      | some closed => some closed
      | none => push '"' (scanQuotedLines fuel rest)
    | '\\' :: rest =>
      match afterBreak? (skipBlanks rest) with
      | some next => scanQuotedLines fuel (skipFold (next.length + 1) next)
      | none =>
        match scanEscape rest with
        | some (c, left) => push c (scanQuotedLines fuel left)
        | none => none
    | c :: rest =>
      match afterBreak? chars with
      | some next => push '\n' (scanQuotedLines fuel next)
      | none => if isPlain c then push c (scanQuotedLines fuel rest) else none
    | [] => none

def scanLiteralLines : (fuel : Nat) → List Char → Scan (List Char)
  | 0, _ => none
  | fuel + 1, chars =>
    match chars with
    | '\'' :: rest =>
      match closing? '\'' chars with
      | some closed => some closed
      | none => push '\'' (scanLiteralLines fuel rest)
    | c :: rest =>
      match afterBreak? chars with
      | some next => push '\n' (scanLiteralLines fuel next)
      | none => if isPlain c then push c (scanLiteralLines fuel rest) else none
    | [] => none

/-- A line break right behind the opening quotes does not belong to the text. -/
def skipFirstBreak (chars : List Char) : List Char := (afterBreak? chars).getD chars

def scanText (chars : List Char) : Scan (List Char) :=
  match chars with
  | '"' :: '"' :: '"' :: rest => scanQuotedLines (rest.length + 1) (skipFirstBreak rest)
  | '\'' :: '\'' :: '\'' :: rest => scanLiteralLines (rest.length + 1) (skipFirstBreak rest)
  | '"' :: rest => scanQuoted (rest.length + 1) rest
  | '\'' :: rest => scanLiteral rest
  | _ => none

def scanSimpleKey (chars : List Char) : Scan String :=
  match chars with
  | '"' :: rest =>
    (scanQuoted (rest.length + 1) rest).map fun (read, left) => (String.ofList read, left)
  | '\'' :: rest => (scanLiteral rest).map fun (read, left) => (String.ofList read, left)
  | _ =>
    let bare := chars.takeWhile isBareKey
    if bare.isEmpty then none else some (String.ofList bare, chars.dropWhile isBareKey)

/-- Tables may lie inside each other below this depth, and so may lists. -/
def nestingLimit : Nat := 80

def scanKeys : (fuel : Nat) → List Char → Scan (List String)
  | 0, _ => none
  | fuel + 1, chars =>
    match scanSimpleKey (skipBlanks chars) with
    | none => none
    | some (key, left) =>
      match skipBlanks left with
      | '.' :: rest => (scanKeys fuel rest).map fun (keys, left) => (key :: keys, left)
      | rest => some ([key], rest)

def scanKey (chars : List Char) : Scan (List String) :=
  match scanKeys (chars.length + 1) chars with
  | some (keys, left) => if keys.length < nestingLimit then some (keys, left) else none
  | none => none

/-! ### Numbers -/

def scanDigits (isDigit : Char → Bool) : List Char → Scan (List Char)
  | '_' :: c :: rest =>
    if isDigit c then push c (scanDigits isDigit rest) else some ([], '_' :: c :: rest)
  | c :: rest => if isDigit c then push c (scanDigits isDigit rest) else some ([], c :: rest)
  | [] => some ([], [])

def scanSomeDigits (isDigit : Char → Bool) (chars : List Char) : Scan (List Char) :=
  match chars with
  | c :: _ => if isDigit c then scanDigits isDigit chars else none
  | [] => none

def scanWhole (chars : List Char) : Scan (List Char) :=
  match chars with
  | '0' :: rest => some (['0'], rest)
  | _ => scanSomeDigits isDigit chars

def scanSign (chars : List Char) : Bool × List Char :=
  match chars with
  | '+' :: rest => (false, rest)
  | '-' :: rest => (true, rest)
  | _ => (false, chars)

def numberOf (base : Nat) (digits : List Char) : Nat :=
  digits.foldl (fun value c => value * base + (hexValue? c).getD 0) 0

def leastInteger : Int := -0x8000000000000000

def greatestInteger : Int := 0x7fffffffffffffff

def integer? (negative : Bool) (magnitude : Nat) (left : List Char) : Scan Node :=
  let value : Int := if negative then -(magnitude : Int) else magnitude
  if leastInteger ≤ value ∧ value ≤ greatestInteger then some (.integer value, left) else none

def scanBased (base : Nat) (chars : List Char) : Scan Node :=
  let isDigit := fun c => match hexValue? c with
    | some value => value < base
    | none => false
  match scanSomeDigits isDigit chars with
  | some (digits, left) => integer? false (numberOf base digits) left
  | none => none

def scanInteger (chars : List Char) : Scan Node :=
  match chars with
  | '0' :: 'x' :: rest => scanBased 16 rest
  | '0' :: 'o' :: rest => scanBased 8 rest
  | '0' :: 'b' :: rest => scanBased 2 rest
  | _ =>
    let (negative, unsigned) := scanSign chars
    match scanWhole unsigned with
    | some (digits, left) => integer? negative (numberOf 10 digits) left
    | none => none

def specialFloat (negative : Bool) (number : Binary64) (left : List Char) : Scan Node :=
  some (.float (if negative then number.negate else number), left)

def scanExponent (chars : List Char) : Scan (Bool × List Char) :=
  let (negative, digits) := scanSign chars
  (scanSomeDigits isDigit digits).map fun (read, left) => ((negative, read), left)

def scanScale (chars : List Char) : Scan (List Char × Option (Bool × List Char)) :=
  match chars with
  | '.' :: rest =>
    match scanSomeDigits isDigit rest with
    | none => none
    | some (fraction, 'e' :: left) =>
      (scanExponent left).map fun (exponent, left) => ((fraction, some exponent), left)
    | some (fraction, 'E' :: left) =>
      (scanExponent left).map fun (exponent, left) => ((fraction, some exponent), left)
    | some (fraction, left) => some ((fraction, none), left)
  | 'e' :: rest => (scanExponent rest).map fun (exponent, left) => (([], some exponent), left)
  | 'E' :: rest => (scanExponent rest).map fun (exponent, left) => (([], some exponent), left)
  | _ => none

/-- A float. Too large a number is refused, too small a negative one is not. -/
def scanFloat (chars : List Char) : Scan Node :=
  let (negative, unsigned) := scanSign chars
  match unsigned with
  | 'i' :: 'n' :: 'f' :: left => specialFloat negative .infinity left
  | 'n' :: 'a' :: 'n' :: left => specialFloat negative .undefined left
  | _ =>
    match scanWhole unsigned with
    | none => none
    | some (whole, afterWhole) =>
      match scanScale afterWhole with
      | none => none
      | some ((fraction, exponent), left) =>
        let value := Binary64.nearest negative (numberOf 10 (whole ++ fraction))
          ((match exponent with
            | none => 0
            | some (down, digits) =>
              if down then -(numberOf 10 digits : Int) else numberOf 10 digits) -
            fraction.length)
        if value.isFinite ∨ negative then some (.float value, left) else none

def scanFixed (count : Nat) (chars : List Char) : Scan Nat :=
  let digits := chars.take count
  if digits.length = count ∧ digits.all isDigit then
    some (numberOf 10 digits, chars.drop count)
  else none

def scanTwo (low high : Nat) (chars : List Char) : Scan Nat :=
  match scanFixed 2 chars with
  | some (value, left) => if low ≤ value ∧ value ≤ high then some (value, left) else none
  | none => none

def isLeapYear (year : Nat) : Bool :=
  year % 4 = 0 && (year % 100 ≠ 0 || year % 400 = 0)

def daysOf (year month : Nat) : Nat :=
  if month = 2 then (if isLeapYear year then 29 else 28)
  else if month = 4 ∨ month = 6 ∨ month = 9 ∨ month = 11 then 30
  else 31

def afterChar? (c : Char) (chars : List Char) : Option (List Char) :=
  match chars with
  | first :: rest => if first = c then some rest else none
  | [] => none

def afterDate? (chars : List Char) : Option (List Char) := do
  let (year, afterYear) ← scanFixed 4 chars
  let (month, afterMonth) ← scanTwo 1 12 (← afterChar? '-' afterYear)
  let (day, left) ← scanTwo 1 31 (← afterChar? '-' afterMonth)
  if day ≤ daysOf year month then some left else none

/-- The text behind a time of day; the second may be a leap second. -/
def afterTime? (chars : List Char) : Option (List Char) := do
  let (_, afterHour) ← scanTwo 0 23 chars
  let (_, afterMinute) ← scanTwo 0 59 (← afterChar? ':' afterHour)
  let (_, left) ← scanTwo 0 60 (← afterChar? ':' afterMinute)
  match left with
  | '.' :: rest =>
    match rest with
    | c :: _ => if isDigit c then some (rest.dropWhile isDigit) else some left
    | [] => some left
  | _ => some left

def afterHours? (chars : List Char) : Option (List Char) := do
  let (_, afterHour) ← scanTwo 0 23 chars
  let (_, left) ← scanTwo 0 59 (← afterChar? ':' afterHour)
  some left

def afterOffset (chars : List Char) : List Char :=
  match chars with
  | 'Z' :: rest => rest
  | 'z' :: rest => rest
  | '+' :: rest => (afterHours? rest).getD chars
  | '-' :: rest => (afterHours? rest).getD chars
  | _ => chars

def scanMoment (chars : List Char) : Scan Node :=
  match afterDate? chars with
  | none => (afterTime? chars).map fun left => (.moment, left)
  | some afterDate =>
    match afterDate with
    | c :: rest =>
      if c = 'T' ∨ c = 't' ∨ c = ' ' then
        match afterTime? rest with
        | some left => some (.moment, afterOffset left)
        | none => some (.moment, afterDate)
      else some (.moment, afterDate)
    | [] => some (.moment, [])

/-! ### Values -/

def scanWord (word : List Char) (node : Node) (chars : List Char) : Scan Node :=
  if word.isPrefixOf chars then some (node, chars.drop word.length) else none

def scanScalar (chars : List Char) : Scan Node :=
  match chars with
  | [] => none
  | c :: _ =>
    if c = '"' ∨ c = '\'' then
      (scanText chars).map fun (read, left) => (.text (String.ofList read), left)
    else if c = 't' then scanWord ['t', 'r', 'u', 'e'] (.boolean true) chars
    else if c = 'f' then scanWord ['f', 'a', 'l', 's', 'e'] (.boolean false) chars
    else if c = 'i' ∨ c = 'n' then scanFloat chars
    else if c = '+' ∨ c = '-' ∨ isDigit c then
      (scanMoment chars).or ((scanFloat chars).or (scanInteger chars))
    else none

mutual

def scanValue : (fuel level : Nat) → List Char → Scan Node
  | 0, _, _ => none
  | fuel + 1, level, chars =>
    match chars with
    | '[' :: rest =>
      if level + 1 < nestingLimit then
        (scanItems fuel (level + 1) rest).map fun (items, left) => (.list items, left)
      else none
    | '\x7b' :: rest =>
      if level + 1 < nestingLimit then
        match skipBlanks rest with
        | '\x7d' :: left => some (.inline [], left)
        | start =>
          (scanEntries fuel (level + 1) [] start).map fun (entries, left) =>
            (.inline entries, left)
      else none
    | _ => scanScalar chars

def scanItems : (fuel level : Nat) → List Char → Scan (List Node)
  | 0, _, _ => none
  | fuel + 1, level, chars =>
    match skipLines (chars.length + 1) chars with
    | none => none
    | some (']' :: left) => some ([], left)
    | some start =>
      match scanValue fuel level start with
      | none => none
      | some (item, afterItem) =>
        match skipLines (afterItem.length + 1) afterItem with
        | some (',' :: rest) =>
          (scanItems fuel level rest).map fun (items, left) => (item :: items, left)
        | some (']' :: left) => some ([item], left)
        | _ => none

def scanEntries : (fuel level : Nat) → Entries → List Char → Scan Entries
  | 0, _, _, _ => none
  | fuel + 1, level, entries, chars =>
    match scanKey chars with
    | some (keys, '=' :: afterSign) =>
      match scanValue fuel level (skipBlanks afterSign), Page.splitLast keys with
      | some (value, afterValue), some (path, key) =>
        match Entries.set path key value .headed entries, skipBlanks afterValue with
        | some extended, ',' :: rest => scanEntries fuel level extended rest
        | some extended, '\x7d' :: left => some (extended, left)
        | _, _ => none
      | _, _ => none
    | _ => none

end

/-! ### Texts as a whole -/

def scanHeader (page : Page) (listed : Bool) (chars : List Char) : Scan Page :=
  match scanKey chars with
  | none => none
  | some (keys, left) =>
    let closed := match listed, left with
      | true, ']' :: ']' :: rest => some rest
      | false, ']' :: rest => some rest
      | _, _ => none
    match closed, page.openHeader keys listed with
    | some rest, some opened => (endLine? rest).map fun left => (opened, left)
    | _, _ => none

def scanSetting (page : Page) (chars : List Char) : Scan Page :=
  match scanKey chars with
  | some (keys, '=' :: afterSign) =>
    let start := skipBlanks afterSign
    match scanValue (2 * start.length + 2) 0 start with
    | none => none
    | some (value, afterValue) =>
      match page.set keys value, endLine? afterValue with
      | some extended, some left => some (extended, left)
      | _, _ => none
  | _ => none

def scanPage : (fuel : Nat) → Page → List Char → Option Page
  | 0, _, _ => none
  | fuel + 1, page, chars =>
    match skipBlanks chars with
    | [] => some page
    | '#' :: rest =>
      match endLine? ('#' :: rest) with
      | some next => scanPage fuel page next
      | none => none
    | '[' :: '[' :: rest =>
      match scanHeader page true rest with
      | some (opened, next) => scanPage fuel opened next
      | none => none
    | '[' :: rest =>
      match scanHeader page false rest with
      | some (opened, next) => scanPage fuel opened next
      | none => none
    | start =>
      match afterBreak? start with
      | some next => scanPage fuel page next
      | none =>
        match scanSetting page start with
        | some (extended, next) => scanPage fuel extended next
        | none => none

/-- The entries of a text; a byte order mark in front is passed over. -/
def parse? (source : String) : Option Entries :=
  let chars := match source.toList with
    | '\ufeff' :: rest => rest
    | all => all
  (scanPage (chars.length + 1) .empty chars).map Page.entries

end AudienceScope.Toml
