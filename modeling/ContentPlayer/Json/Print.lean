import ContentPlayer.Json.Basic
import ContentPlayer.Json.Number
import ContentPlayer.Text.Surrogate

namespace ContentPlayer.Json

def unicodeEscape (n : Nat) : List Char :=
  let digits := Nat.toDigits 16 n
  '\\' :: 'u' :: List.replicate (4 - digits.length) '0' ++ digits

/-- One character of a string: quotes, backslashes and control characters are escaped. -/
def printChar (c : Char) : List Char :=
  if c = '"' then ['\\', '"']
  else if c = '\\' then ['\\', '\\']
  else if c.toNat < 0x20 then unicodeEscape c.toNat
  else [c]

def printString (s : String) : List Char := '"' :: s.toList.flatMap printChar ++ ['"']

mutual
/-- The text of a value without spaces. -/
def printChars : Json → List Char
  | .null => "null".toList
  | .bool b => (if b then "true" else "false").toList
  | .int n => (toString n).toList
  | .float x => (floatText x).toList
  | .string s => printString s
  | .array items => '[' :: printItems items ++ [']']
  | .object members => '\x7b' :: printMembers members ++ ['\x7d']

def printItems : List Json → List Char
  | [] => []
  | [v] => v.printChars
  | v :: rest => v.printChars ++ ',' :: printItems rest

def printMembers : List (String × Json) → List Char
  | [] => []
  | [(k, v)] => printString k ++ ':' :: v.printChars
  | (k, v) :: rest => printString k ++ ':' :: v.printChars ++ ',' :: printMembers rest
end

def print (v : Json) : String := String.ofList v.printChars

end ContentPlayer.Json
