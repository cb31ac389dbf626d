import ContentPlayer.Decimal.Layout

namespace ContentPlayer.Json

/-- What a written number stands for: an integer of 64 bits, a float, or something beyond floats. -/
inductive Numeral where
  | int (n : Int)
  | float (x : Float)
  | vast
  deriving Inhabited

def digitValue (c : Char) : Nat := c.toNat - '0'.toNat

/-- The digits of a number up to the last one with which it fits 64 bits, and the others. -/
def significant (n : Nat) : List Char → Nat × List Char
  | [] => (n, [])
  | c :: rest =>
    let next := n * 10 + digitValue c
    if next < UInt64.size then significant next rest else (n, c :: rest)

def powerOfTen (n : Nat) : Float := Float.ofScientific 1 false n

/-- `x * 10 ^ exponent` in at most three rounded steps, none when it exceeds the floats. -/
def scaleFloat (x : Float) (exponent : Int) : Option Float :=
  if 0 ≤ exponent then
    if exponent ≤ 308 then
      let y := x * powerOfTen exponent.toNat
      if y.isInf then none else some y
    else if x == 0 then some x
    else none
  else
    let n := (-exponent).toNat
    if n ≤ 308 then some (x / powerOfTen n)
    else if n ≤ 616 then some (x / powerOfTen 308 / powerOfTen (n - 308))
    else some 0

/-- The exponent digits as a number, none when they exceed 31 bits. -/
def exponentValue (digits : List Char) : Option Nat :=
  digits.foldlM (fun n c =>
    let next := n * 10 + digitValue c
    if 2 * next < UInt32.size then some next else none) 0

/-- A number as written: its digits before and after the point, and its signed exponent. -/
structure Written where
  negative : Bool
  whole : List Char
  fraction : Option (List Char)
  exponent : Option (Bool × List Char)

def signed (negative : Bool) (x : Float) : Float := if negative then -x else x

/-- Without point and exponent a number is an integer if that fits 64 bits and is not a negative
zero. A float keeps as many leading digits as fit 64 bits and is then scaled by its exponent. -/
def Written.value (w : Written) : Numeral :=
  let (n, dropped) := significant 0 w.whole
  match w.fraction, w.exponent with
  | none, none =>
    if dropped.isEmpty && !w.negative then .int n
    else if dropped.isEmpty && n ≠ 0 && 2 * n ≤ UInt64.size then .int (-n)
    else ofParts n dropped.length
  | fraction, exponent =>
    let digits := fraction.getD []
    let (m, rest) := significant n digits
    let start : Int := dropped.length - (digits.length - rest.length : Nat)
    match exponent with
    | none => ofParts m start
    | some (down, e) =>
      match exponentValue e with
      | some e => ofParts m (if down then start - e else start + e)
      | none => if m ≠ 0 && !down then .vast else .float (signed w.negative 0)
where
  ofParts (n : Nat) (exponent : Int) : Numeral :=
    match scaleFloat n.toUInt64.toFloat exponent with
    | some x => .float (signed w.negative x)
    | none => .vast

/-- The fraction of a number: a point and at least one digit, or nothing. -/
def readFraction : List Char → Option (Option (List Char) × List Char)
  | '.' :: rest =>
    let digits := rest.takeWhile Char.isDigit
    if digits.isEmpty then none else some (some digits, rest.dropWhile Char.isDigit)
  | cs => some (none, cs)

/-- The exponent of a number: a mark, perhaps a sign, and at least one digit, or nothing. -/
def readExponent (cs : List Char) : Option (Option (Bool × List Char) × List Char) :=
  let digits (down : Bool) (rest : List Char) :=
    let ds := rest.takeWhile Char.isDigit
    if ds.isEmpty then none else some (some (down, ds), rest.dropWhile Char.isDigit)
  match cs with
  | c :: rest =>
    if c = 'e' || c = 'E' then
      match rest with
      | '+' :: rest => digits false rest
      | '-' :: rest => digits true rest
      | _ => digits false rest
    else some (none, cs)
  | [] => some (none, [])

/-- The digits before the point: a single zero, or digits that start with another. -/
def readWhole : List Char → Option (List Char × List Char)
  | '0' :: rest =>
    if (rest.head?.map Char.isDigit).getD false then none else some (['0'], rest)
  | cs =>
    let digits := cs.takeWhile Char.isDigit
    if digits.isEmpty then none else some (digits, cs.dropWhile Char.isDigit)

/-- Reads a number at the front of a text; none when what stands there is no number. -/
def readNumber (cs : List Char) : Option (Numeral × List Char) := do
  let (negative, cs) := match cs with
    | '-' :: rest => (true, rest)
    | _ => (false, cs)
  let (whole, cs) ← readWhole cs
  let (fraction, cs) ← readFraction cs
  let (exponent, cs) ← readExponent cs
  return ((Written.mk negative whole fraction exponent).value, cs)

/-- Floats have at most 16 digits before the point and 4 zeros behind it, and keep their point. -/
def floatLayout : Decimal.Layout := ⟨16, 4, true⟩

def floatText (x : Float) : String :=
  (if Decimal.isNegative x then "-" else "") ++ floatLayout.unsigned x

end ContentPlayer.Json
