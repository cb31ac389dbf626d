import ContentPlayer.Script.Number
import ContentPlayer.Script.Token

namespace ContentPlayer.Script

inductive Function where
  /-- Prints its arguments with spaces between them. -/
  | trace
  /-- Prints the lines of a text. -/
  | print
  | toText
  | makeError
  /-- Puts values into an array. -/
  | push
  /-- Joins the values of an array. -/
  | join
  deriving DecidableEq, Repr

inductive Value where
  | undefined
  | null
  | bool (b : Bool)
  | number (x : Float)
  | text (s : Units)
  | error (reason : Units)
  | function (f : Function)
  /-- A text inside an object. -/
  | boxed (s : Units)
  /-- An object with nothing to it. -/
  | emptyObject
  /-- An array of the scope, of which no script gets hold. -/
  | array (id : Nat)
  deriving BEq

/-- The source of the function that joins its arguments. -/
def traceSource : String :=
  "function () \x7b\n    var parts = [];\n    for (var i = 0; i < arguments.length; i++) \x7b\n" ++
    "        parts.push(String(arguments[i]));\n    \x7d\n    __trace(parts.join(' '));\n\x7d"

/-- A function without source. -/
def builtInSource (name : String) : String :=
  s!"function {name}" ++ "() \x7b\n    [native code]\n\x7d"

def Function.source : Function → String
  | .trace => traceSource
  | .print => builtInSource ""
  | .toText => builtInSource "String"
  | .makeError => builtInSource "Error"
  | .push => builtInSource "push"
  | .join => builtInSource "join"

namespace Value

/-- An error's name, and its reason if it has one. -/
def errorText (reason : Units) : Units :=
  if reason.isEmpty then unitsOf "Error" else unitsOf "Error: " ++ reason

def objectText : Units := unitsOf "[object Object]"

def toText : Value → Units
  | .undefined => unitsOf "undefined"
  | .null => unitsOf "null"
  | .bool b => unitsOf (if b then "true" else "false")
  | .number x => unitsOf (numberText x)
  | .text s => s
  | .error reason => errorText reason
  | .function f => unitsOf f.source
  | .boxed s => s
  | .emptyObject => objectText
  | .array _ => objectText

/-- Objects take part in sums as texts. -/
def primitive : Value → Value
  | .error reason => .text (errorText reason)
  | .function f => .text (unitsOf f.source)
  | .boxed s => .text s
  | .emptyObject => .text objectText
  | .array _ => .text objectText
  | v => v

def trimmed (cs : List Char) : List Char :=
  let isBlank (c : Char) := isSpace c || isLineEnd c
  ((cs.dropWhile isBlank).reverse.dropWhile isBlank).reverse

def wholeNumber (read : Option (Float × List Char)) : Float :=
  match read with
  | some (x, []) => x
  | _ => notANumber

/-- The number that a text spells, blanks around it aside; no text is zero. -/
def numberOfChars (cs : List Char) : Float :=
  match trimmed cs with
  | [] => 0
  | cs =>
    if cs.contains '_' then notANumber
    else
      let unsigned (cs : List Char) : Float :=
        if cs = "Infinity".toList then infinity
        else if (cs.head?.map fun c => c.isDigit || c = '.').getD false then
          wholeNumber (takeDecimal cs)
        else notANumber
      match cs with
      | '+' :: rest => unsigned rest
      | '-' :: rest => -unsigned rest
      | '0' :: c :: rest =>
        if c.isAlpha && c != 'e' && c != 'E' then wholeNumber (takeNumber ('0' :: c :: rest))
        else unsigned ('0' :: c :: rest)
      | cs => unsigned cs

def numberOfText (s : Units) : Float := ((charsOf? s).map numberOfChars).getD notANumber

def toNumber : Value → Float
  | .undefined => notANumber
  | .null => 0
  | .bool b => if b then 1 else 0
  | .number x => x
  | .text s => numberOfText s
  | .error _ => notANumber
  | .function _ => notANumber
  | .boxed s => numberOfText s
  | .emptyObject => notANumber
  | .array _ => notANumber

/-- Texts are joined, everything else is added as numbers. -/
def plus (a b : Value) : Value :=
  match a.primitive, b.primitive with
  | .text s, b => .text (s ++ b.toText)
  | a, .text s => .text (a.toText ++ s)
  | a, b => .number (a.toNumber + b.toNumber)

/-- A value among joined ones; nothing is written for the empty values. -/
def joinedText : Value → Units
  | .undefined => []
  | .null => []
  | v => v.toText

def joined (separator : Units) (vs : List Value) : Units :=
  separator.intercalate (vs.map joinedText)

end Value

end ContentPlayer.Script
