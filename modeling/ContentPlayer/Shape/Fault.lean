import ContentPlayer.Json.Draft
import ContentPlayer.Text.Quoted

namespace ContentPlayer.Shape

open ContentPlayer.Json (Draft floatText)

inductive Fault where
  | notJson
  | invalidType (found expected : String)
  | invalidInteger (n : Int) (expected : String)
  | notSingleKey
  | unknownVariant (name : String) (known : List String)
  | missingField (name : String)
  | duplicateField (name : String)
  | invalidLength (length : Nat) (expected : String)
  deriving DecidableEq, Repr

def ticked (s : String) : String := "\x60" ++ s ++ "\x60"

/-- Two names are joined by "or", any other number of them is a list. -/
def expectedNames (known : List String) : String :=
  match known with
  | [] => "there are no variants"
  | [a] => "expected " ++ ticked a
  | [a, b] => "expected " ++ ticked a ++ " or " ++ ticked b
  | names => "expected one of " ++ ", ".intercalate (names.map ticked)

def Fault.message : Fault → String
  | .notJson => "JSON syntax error"
  | .invalidType found expected => s!"invalid type: {found}, expected {expected}"
  | .invalidInteger n expected =>
    s!"invalid value: integer {ticked (toString n)}, expected {expected}"
  | .notSingleKey => "invalid value: map, expected map with a single key"
  | .unknownVariant name known => s!"unknown variant {ticked name}, {expectedNames known}"
  | .missingField name => s!"missing field {ticked name}"
  | .duplicateField name => s!"duplicate field {ticked name}"
  | .invalidLength n expected => s!"invalid length {n}, expected {expected}"

/-- How a draft is spoken of in a message, none for what is no JSON. -/
def describe : Draft → Option String
  | .null => some "null"
  | .bool b => some s!"boolean {ticked (toString b)}"
  | .int n => some s!"integer {ticked (toString n)}"
  | .float x => some s!"floating point {ticked (floatText x)}"
  | .string s => some s!"string {Text.quoted s}"
  | .array _ _ => some "sequence"
  | .object _ _ => some "map"
  | .vast | .halved | .broken => none

def mismatch (d : Draft) (expected : String) : Fault :=
  match describe d with
  | some found => .invalidType found expected
  | none => .notJson

end ContentPlayer.Shape
