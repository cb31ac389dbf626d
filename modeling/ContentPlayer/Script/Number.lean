import ContentPlayer.Decimal.Layout
import ContentPlayer.Text.Surrogate

namespace ContentPlayer.Script

def infinity : Float := 1.0 / 0.0

def notANumber : Float := 0.0 / 0.0

/-- Numbers are written out up to 21 digits before the point and 5 zeros behind it. -/
def numberLayout : Decimal.Layout := ⟨21, 5, false⟩

/-- The text of a number; zeros have no sign. -/
def numberText (x : Float) : String :=
  if x.isNaN then "NaN"
  else if x == 0 then "0"
  else
    let sign := if x < 0 then "-" else ""
    sign ++ (if x.isInf then "Infinity" else numberLayout.unsigned x)

def natValue (base : Nat) (digits : List Char) : Nat :=
  digits.foldl (fun n c => n * base + (Text.hexValue c).getD 0) 0

/-- Takes the digits at the front, between which single underscores may stand. -/
def takeDigits (isDigit : Char → Bool) : List Char → List Char × List Char
  | [] => ([], [])
  | c :: '_' :: d :: rest =>
    if isDigit c && isDigit d then
      let (digits, tail) := takeDigits isDigit (d :: rest)
      (c :: digits, tail)
    else if isDigit c then ([c], '_' :: d :: rest)
    else ([], c :: '_' :: d :: rest)
  | c :: rest =>
    if isDigit c then
      let (digits, tail) := takeDigits isDigit rest
      (c :: digits, tail)
    else ([], c :: rest)

/-- The exponent at the front, zero where none stands; none where its mark has no digits. -/
def takeExponent (cs : List Char) : Option (Int × List Char) :=
  match cs with
  | c :: rest =>
    if c = 'e' || c = 'E' then
      let (down, rest) := match rest with
        | '+' :: rest => (false, rest)
        | '-' :: rest => (true, rest)
        | _ => (false, rest)
      let (digits, rest) := takeDigits Char.isDigit rest
      if digits.isEmpty then none
      else
        let e : Int := (min (natValue 10 digits) 100000 : Nat)
        some (if down then -e else e, rest)
    else some (0, cs)
  | [] => some (0, [])

/-- The float nearest to `digits * 10 ^ exponent`. -/
def decimalFloat (digits : List Char) (exponent : Int) : Float :=
  Float.ofScientific (natValue 10 digits) (exponent < 0) exponent.natAbs

/-- A decimal number at the front: digits, perhaps a fraction, perhaps an exponent. -/
def takeDecimal (cs : List Char) : Option (Float × List Char) := do
  let (whole, rest) := takeDigits Char.isDigit cs
  let (fraction, rest) := match rest with
    | '.' :: rest => takeDigits Char.isDigit rest
    | _ => ([], rest)
  if whole.isEmpty && fraction.isEmpty then none
  let (e, rest) ← takeExponent rest
  return (decimalFloat (whole ++ fraction) (e - fraction.length), rest)

/-- A whole number of another base at the front. -/
def takeInBase (base : Nat) (cs : List Char) : Option (Float × List Char) :=
  let isDigit (c : Char) := match Text.hexValue c with
    | some v => v < base
    | none => false
  let (digits, rest) := takeDigits isDigit cs
  if digits.isEmpty then none
  else some (Float.ofScientific (natValue base digits) false 0, rest)

def takeNumber (cs : List Char) : Option (Float × List Char) :=
  match cs with
  | '0' :: c :: rest =>
    if c = 'x' || c = 'X' then takeInBase 16 rest
    else if c = 'o' || c = 'O' then takeInBase 8 rest
    else if c = 'b' || c = 'B' then takeInBase 2 rest
    else if c.isDigit || c = '_' then none
    else takeDecimal cs
  | _ => takeDecimal cs

end ContentPlayer.Script
