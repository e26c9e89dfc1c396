import AudienceScope.Decimal.Shortest
import AudienceScope.Json.Value

/-!
Text of JSON values, in one line or indented. Every function writes in front of the text that
follows, so that a reader can be run on the result with anything behind it.
-/

set_option autoImplicit false

namespace AudienceScope.Json

/-- Doubles are positional from `0.00001` up to sixteen digits before the point. -/
def numberFormat : Decimal.Format := ⟨.toEven, some (-5), some 15⟩

def integerText : Int → List Char
  | .ofNat value => Nat.toDigits 10 value
  | .negSucc value => '-' :: Nat.toDigits 10 (value + 1)

def numberText : Number → List Char
  | .integer value => integerText value
  | .binary value => Decimal.text numberFormat value

def hexDigit (value : Nat) : Char := Nat.digitChar value

def escapeChar (c : Char) : List Char :=
  if c = '"' then ['\\', '"']
  else if c = '\\' then ['\\', '\\']
  else if c = '\x08' then ['\\', 'b']
  else if c = '\x0c' then ['\\', 'f']
  else if c = '\n' then ['\\', 'n']
  else if c = '\r' then ['\\', 'r']
  else if c = '\t' then ['\\', 't']
  else if c.toNat < 32 then
    ['\\', 'u', '0', '0', hexDigit (c.toNat / 16), hexDigit (c.toNat % 16)]
  else [c]

def quote (text : List Char) (rest : List Char) : List Char :=
  '"' :: (text.flatMap escapeChar ++ '"' :: rest)

/-- Where white space goes: before each item and closing bracket, by depth, and after a colon. -/
structure Layout where
  pad : Nat → List Char
  gap : List Char

namespace Layout

def compact : Layout := ⟨fun _ => [], []⟩

def indented : Layout := ⟨fun level => '\n' :: List.replicate (2 * level) ' ', [' ']⟩

end Layout

mutual

def write (layout : Layout) (level : Nat) : Json → List Char → List Char
  | .null, rest => 'n' :: 'u' :: 'l' :: 'l' :: rest
  | .boolean true, rest => 't' :: 'r' :: 'u' :: 'e' :: rest
  | .boolean false, rest => 'f' :: 'a' :: 'l' :: 's' :: 'e' :: rest
  | .number value, rest => numberText value ++ rest
  | .text value, rest => quote value.toList rest
  | .list [], rest => '[' :: ']' :: rest
  | .list (item :: items), rest =>
    '[' :: (layout.pad (level + 1) ++ write layout (level + 1) item
      (writeItems layout (level + 1) items (layout.pad level ++ ']' :: rest)))
  | .object [], rest => '\x7b' :: '\x7d' :: rest
  | .object ((name, value) :: members), rest =>
    '\x7b' :: (layout.pad (level + 1) ++ quote name.toList (':' :: (layout.gap ++
      write layout (level + 1) value
        (writeMembers layout (level + 1) members (layout.pad level ++ '\x7d' :: rest)))))

/-- Writes the items after the first, each behind a comma. -/
def writeItems (layout : Layout) (level : Nat) : List Json → List Char → List Char
  | [], rest => rest
  | item :: items, rest =>
    ',' :: (layout.pad level ++ write layout level item (writeItems layout level items rest))

def writeMembers (layout : Layout) (level : Nat) : List (String × Json) → List Char → List Char
  | [], rest => rest
  | (name, value) :: members, rest =>
    ',' :: (layout.pad level ++ quote name.toList (':' :: (layout.gap ++
      write layout level value (writeMembers layout level members rest))))

end

def print (layout : Layout) (value : Json) : String := String.ofList (write layout 0 value [])

def compact (value : Json) : String := value.print .compact

def pretty (value : Json) : String := value.print .indented

end AudienceScope.Json
