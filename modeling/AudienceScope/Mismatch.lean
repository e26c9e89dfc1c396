import AudienceScope.Text.Quoted

/-!
Ways in which well-formed data fails to have the form that its reader expects, and the words in
which each is reported. The readers of documents and of configurations share them.
-/

set_option autoImplicit false

namespace AudienceScope

/-- What stands where something else was expected. A fraction carries its text. -/
inductive Found where
  | null
  | boolean (value : Bool)
  | integer (value : Int)
  | fraction (written : String)
  | text (value : String)
  | sequence
  | map
deriving DecidableEq

namespace Found

def phrase : Found → String
  | null => "null"
  | boolean value => "boolean `" ++ (if value then "true" else "false") ++ "`"
  | integer value => "integer `" ++ toString value ++ "`"
  | fraction written => "floating point `" ++ written ++ "`"
  | text value => "string " ++ Text.quoted value
  | sequence => "sequence"
  | map => "map"

end Found

/-- A failure to have the expected form; expectations are given as phrases. -/
inductive Mismatch where
  | wrongType (found : Found) (expected : String)
  | wrongValue (found : Found) (expected : String)
  | wrongLength (length : Nat) (expected : String)
  | unknownVariant (name : String) (known : List String)
  | unknownField (name : String) (known : List String)
  | missingField (name : String)
  | duplicateField (name : String)
  | refused (reason : String)
deriving DecidableEq

namespace Mismatch

def ticked (name : String) : String := "`" ++ name ++ "`"

def alternatives : List String → String
  | [] => "nothing"
  | [only] => ticked only
  | [first, second] => ticked first ++ " or " ++ ticked second
  | names => "one of " ++ String.intercalate ", " (names.map ticked)

def message : Mismatch → String
  | wrongType found expected => "invalid type: " ++ found.phrase ++ ", expected " ++ expected
  | wrongValue found expected => "invalid value: " ++ found.phrase ++ ", expected " ++ expected
  | wrongLength length expected =>
    "invalid length " ++ toString length ++ ", expected " ++ expected
  | unknownVariant name known =>
    "unknown variant " ++ ticked name ++ ", expected " ++ alternatives known
  | unknownField name known =>
    "unknown field " ++ ticked name ++ ", expected " ++ alternatives known
  | missingField name => "missing field " ++ ticked name
  | duplicateField name => "duplicate field " ++ ticked name
  | refused reason => reason

end Mismatch

def countOf (count : Nat) (noun : String) : String :=
  toString count ++ " " ++ (if count = 1 then noun else noun ++ "s")

end AudienceScope
