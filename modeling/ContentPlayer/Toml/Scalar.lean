import ContentPlayer.Json.Draft

namespace ContentPlayer.Toml

open ContentPlayer.Json (Draft digitValue)

/-- The digits of a number of the given base, in which single underscores may stand between two
digits; none if that is not what the text is. -/
def separatedDigits (isDigit : Char → Bool) : List Char → Option (List Char)
  | [] => none
  | [c] => if isDigit c then some [c] else none
  | c :: '_' :: rest => if isDigit c then (separatedDigits isDigit rest).map (c :: ·) else none
  | c :: rest => if isDigit c then (separatedDigits isDigit rest).map (c :: ·) else none

def isOctal (c : Char) : Bool := '0' ≤ c && c ≤ '7'

def isBinary (c : Char) : Bool := c = '0' || c = '1'

def isHex (c : Char) : Bool := (Text.hexValue c).isSome

def valueInBase (base : Nat) (digits : List Char) : Nat :=
  digits.foldl (fun n c => n * base + (Text.hexValue c).getD 0) 0

/-- Decimal digits without a leading zero. -/
def decimalDigits (cs : List Char) : Option (List Char) := do
  let digits ← separatedDigits Char.isDigit cs
  if digits.length > 1 && digits.head? = some '0' then none else some digits

/-- A sign and what follows it. -/
def splitSign : List Char → Bool × List Char
  | '+' :: rest => (false, rest)
  | '-' :: rest => (true, rest)
  | cs => (false, cs)

/-- Integers are kept while they fit 128 bits. -/
def boundedInt (n : Int) : Option Draft :=
  let half : Int := 0x80000000000000000000000000000000
  if -half ≤ n && n < 2 * half then some (.int n) else none

def readInteger (cs : List Char) : Option Draft :=
  match cs with
  | '0' :: 'x' :: rest => (separatedDigits isHex rest).bind (boundedInt <| valueInBase 16 ·)
  | '0' :: 'o' :: rest => (separatedDigits isOctal rest).bind (boundedInt <| valueInBase 8 ·)
  | '0' :: 'b' :: rest => (separatedDigits isBinary rest).bind (boundedInt <| valueInBase 2 ·)
  | _ =>
    let (negative, digits) := splitSign cs
    (decimalDigits digits).bind fun ds =>
      let n : Int := valueInBase 10 ds
      boundedInt (if negative then -n else n)

def infinity : Float := 1.0 / 0.0

/-- A float: digits with a fraction, an exponent or both, or a name. -/
def readFloat (cs : List Char) : Option Draft := do
  let (negative, body) := splitSign cs
  let signed (x : Float) : Draft := .float (if negative then -x else x)
  if body = "inf".toList then return signed infinity
  if body = "nan".toList then return signed (infinity - infinity)
  let mantissa := body.takeWhile fun c => c != 'e' && c != 'E'
  let exponent := (body.drop mantissa.length).drop 1
  let hasExponent := mantissa.length < body.length
  let whole ← decimalDigits (mantissa.takeWhile (· != '.'))
  let afterWhole := mantissa.dropWhile (· != '.')
  let fraction ←
    if afterWhole.isEmpty then some [] else separatedDigits Char.isDigit afterWhole.tail
  if afterWhole.isEmpty && !hasExponent then none
  let (down, e) := splitSign exponent
  let digits ← if hasExponent then separatedDigits Char.isDigit e else some []
  let scale : Int := (if down then -1 else 1) * (min (valueInBase 10 digits) 100000 : Nat)
    - fraction.length
  let x := Float.ofScientific (valueInBase 10 (whole ++ fraction)) (scale < 0) scale.natAbs
  if x.isInf then none else some (signed x)

/-- A number of exactly so many digits at the front. -/
def fixedDigits (n : Nat) (cs : List Char) : Option (Nat × List Char) :=
  let digits := cs.take n
  if digits.length = n && digits.all Char.isDigit then some (valueInBase 10 digits, cs.drop n)
  else none

def skipChar (p : Char → Bool) : List Char → Option (List Char)
  | c :: rest => if p c then some rest else none
  | [] => none

def isLeapYear (y : Nat) : Bool := y % 4 = 0 && (y % 100 ≠ 0 || y % 400 = 0)

def daysInMonth (y m : Nat) : Nat :=
  if m = 2 then (if isLeapYear y then 29 else 28)
  else if m = 4 || m = 6 || m = 9 || m = 11 then 30
  else 31

def readDate (cs : List Char) : Option (List Char) := do
  let (y, cs) ← fixedDigits 4 cs
  let cs ← skipChar (· = '-') cs
  let (m, cs) ← fixedDigits 2 cs
  let cs ← skipChar (· = '-') cs
  let (d, cs) ← fixedDigits 2 cs
  if 1 ≤ m && m ≤ 12 && 1 ≤ d && d ≤ daysInMonth y m then some cs else none

/-- A time of day at the front; the seconds may be left out. -/
def readTime (cs : List Char) : Option (List Char) := do
  let (h, cs) ← fixedDigits 2 cs
  let cs ← skipChar (· = ':') cs
  let (m, cs) ← fixedDigits 2 cs
  if h > 23 || m > 59 then none
  match cs with
  | ':' :: rest =>
    let (s, cs) ← fixedDigits 2 rest
    if s > 60 then none
    match cs with
    | '.' :: rest =>
      let digits := rest.takeWhile Char.isDigit
      if digits.isEmpty then none else some (rest.drop digits.length)
    | _ => some cs
  | _ => some cs

/-- The offset of a time, or nothing. -/
def readOffset : List Char → Option Unit
  | [] => some ()
  | ['Z'] => some ()
  | ['z'] => some ()
  | cs => do
    let cs ← skipChar (fun c => c = '+' || c = '-') cs
    let (h, cs) ← fixedDigits 2 cs
    let cs ← skipChar (· = ':') cs
    let (m, cs) ← fixedDigits 2 cs
    if h ≤ 23 && m ≤ 59 && cs.isEmpty then some () else none

/-- The name under which a date or time stands as the one member of an object. -/
def dateKey : String := "$date"

/-- A date, a time, or both with or without an offset. -/
def readDateTime (cs : List Char) : Option Draft := do
  let d : Draft := .object [(some dateKey, .string (String.ofList cs))] none
  match readDate cs with
  | some [] => return d
  | some (c :: rest) =>
    if c != 'T' && c != 't' && c != ' ' then none
    let rest ← readTime rest
    readOffset rest
    return d
  | none =>
    let rest ← readTime cs
    if rest.isEmpty then some d else none

def readScalar (cs : List Char) : Option Draft :=
  if cs = "true".toList then some (.bool true)
  else if cs = "false".toList then some (.bool false)
  else readInteger cs <|> readFloat cs <|> readDateTime cs

end ContentPlayer.Toml
