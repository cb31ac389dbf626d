import ContentPlayer.Decimal.Shortest

namespace ContentPlayer.Decimal

structure Layout where
  /-- Whole numbers of at most this many digits are written out. -/
  wholeDigits : Nat
  /-- Fractions with at most this many zeros after the point are written out. -/
  leadingZeros : Nat
  /-- Whole numbers keep a point and a zero. -/
  keepsPoint : Bool

def zeros (n : Nat) : List Char := List.replicate n '0'

/-- Digits with an exponent: one digit, a point if more follow, and a signed exponent. -/
def scientific (digits : List Char) (exponent : Int) : List Char :=
  let mantissa := match digits with
    | [] => ['0']
    | [d] => [d]
    | d :: rest => d :: '.' :: rest
  let sign := if exponent < 0 then '-' else '+'
  mantissa ++ 'e' :: sign :: Nat.toDigits 10 exponent.natAbs

/-- A positive number's text. -/
def Layout.magnitude (l : Layout) (d : Digits) : List Char :=
  let digits := Nat.toDigits 10 d.digits
  let point : Int := digits.length + d.exponent
  if 0 ≤ d.exponent && point ≤ l.wholeDigits then
    digits ++ zeros d.exponent.toNat ++ (if l.keepsPoint then ['.', '0'] else [])
  else if 0 < point && point ≤ l.wholeDigits then
    digits.take point.toNat ++ '.' :: digits.drop point.toNat
  else if point ≤ 0 && -point ≤ l.leadingZeros then
    '0' :: '.' :: zeros (-point).toNat ++ digits
  else scientific digits (point - 1)

/-- The text of a finite float without its sign: the shortest number that reads back. -/
def Layout.unsigned (l : Layout) (x : Float) : String :=
  String.ofList (l.magnitude (shortest x))

/-- The sign bit, also of zeros. -/
def isNegative (x : Float) : Bool := x.toBits ≥ 0x8000000000000000

end ContentPlayer.Decimal
