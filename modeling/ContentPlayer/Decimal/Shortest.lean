namespace ContentPlayer.Decimal

/-- A positive decimal number `digits * 10 ^ exponent`. -/
structure Digits where
  digits : Nat
  exponent : Int
  deriving DecidableEq, Repr

/-- A finite positive float taken apart: its value is `mantissa * 2 ^ power`. `lowest` says that the
float below it lies half as far away as the one above. -/
structure Binary where
  mantissa : Nat
  power : Int
  lowest : Bool
  deriving DecidableEq, Repr

/-- The first bit of a mantissa, which is not stored; the others are below it. -/
def hiddenBit : Nat := 0x10000000000000

/-- The parts of a float's magnitude. -/
def Binary.ofFloat (x : Float) : Binary :=
  let bits := x.toBits.toNat
  let field : Nat := bits / hiddenBit % 2048
  let fraction := bits % hiddenBit
  if field = 0 then ⟨fraction, -1074, false⟩
  else ⟨hiddenBit + fraction, (field : Int) - 1075, fraction = 0 && field ≠ 1⟩

/-- `n * b ^ e` as a quotient of natural numbers. -/
def scaled (n b : Nat) (e : Int) : Nat × Nat :=
  (n * Nat.pow b e.toNat, Nat.pow b (-e).toNat)

/-- Where `a` stands to `b`, both quotients of natural numbers. -/
def compareQuotients (a b : Nat × Nat) : Ordering := compare (a.1 * b.2) (b.1 * a.2)

/-- The numbers that read back as `x` are those between the midpoints to its neighbours, the
midpoints themselves only when the mantissa is even. -/
def Binary.readsBack (x : Binary) (d : Digits) : Bool :=
  let value := scaled d.digits 10 d.exponent
  let low := scaled (4 * x.mantissa - (if x.lowest then 1 else 2)) 2 (x.power - 2)
  let high := scaled (4 * x.mantissa + 2) 2 (x.power - 2)
  if x.mantissa % 2 = 0 then compareQuotients low value != .gt && compareQuotients value high != .gt
  else compareQuotients low value == .lt && compareQuotients value high == .lt

/-- The neighbour of `x` on the grid of multiples of `10 ^ exponent` that reads back, the nearer one
if both do, the even one if both are as near. -/
def Binary.onGrid (x : Binary) (exponent : Int) : Option Digits :=
  let (n, d) := scaled x.mantissa 2 x.power
  let (p, q) := scaled 1 10 exponent
  let below := n * q / (d * p)
  let rest := n * q % (d * p)
  let low : Digits := ⟨below, exponent⟩
  let high : Digits := ⟨below + 1, exponent⟩
  let lowHits := below ≠ 0 && x.readsBack low
  let highHits := x.readsBack high
  if lowHits && highHits then
    if 2 * rest < d * p then some low
    else if d * p < 2 * rest then some high
    else some (if below % 2 = 0 then low else high)
  else if lowHits then some low
  else if highHits then some high
  else none

/-- Tries one grid after the other, from coarse to fine. -/
def Binary.search (x : Binary) : Nat → Int → Digits
  | 0, exponent => ⟨0, exponent⟩
  | n + 1, exponent => (x.onGrid exponent).getD (x.search n (exponent - 1))

/-- The decimal number with the fewest digits that reads back as the magnitude of `x`, and of
those the nearest. Zero has the one digit 0. -/
def shortest (x : Float) : Digits :=
  let b := Binary.ofFloat x
  if b.mantissa = 0 then ⟨0, 0⟩
  else
    let size : Int := Nat.log2 b.mantissa + b.power
    b.search 24 (size * 30103 / 100000 + 2)

end ContentPlayer.Decimal
