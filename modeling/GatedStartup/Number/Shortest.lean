/-! Shortest decimals of binary64 numbers. Among the decimals with the fewest digits that lie
in the interval of reals rounding to a number, the one nearest to it is taken.

A positive finite number is `mantissa * 2 ^ exponent`. With `k` digits the candidates are the
two neighbours of the number on the grid of decimals with `k` significant digits, and 17 digits
always suffice. -/
namespace GatedStartup.Number

/-- The positive number `mantissa * 2 ^ exponent`. `narrow` says that the gap below it is half
the gap above it, as it is for powers of two. -/
structure Binary where
  mantissa : Nat
  exponent : Int
  narrow : Bool
deriving DecidableEq, Repr

/-- The decimal `digits * 10 ^ exponent`. -/
structure Decimal where
  digits : Nat
  exponent : Int
deriving DecidableEq, Repr

/-- Sign-free decoding of the bits of a finite number other than zero. -/
def Binary.ofBits (bits : UInt64) : Binary :=
  let raw : Nat := (bits.toNat / Nat.pow 2 52) % 2048
  let fraction : Nat := bits.toNat % Nat.pow 2 52
  if raw = 0 then ⟨fraction, -1074, false⟩
  else ⟨Nat.pow 2 52 + fraction, (raw : Int) - 1075, fraction = 0 && raw > 1⟩

/-- Compares `x * 2 ^ p` with `y * 10 ^ q`. -/
def compareScaled (x : Nat) (p : Int) (y : Nat) (q : Int) : Ordering :=
  let left := x * Nat.pow 2 p.toNat * Nat.pow 10 (-q).toNat
  let right := y * Nat.pow 10 q.toNat * Nat.pow 2 (-p).toNat
  compare left right

/-- Whether the decimal rounds to the number: it lies between the midpoints to the neighbours,
which belong to the interval when the mantissa is even. -/
def Binary.admits (b : Binary) (d : Decimal) : Bool :=
  let even := b.mantissa % 2 = 0
  let low := if b.narrow then (4 * b.mantissa - 1, b.exponent - 2)
    else (2 * b.mantissa - 1, b.exponent - 1)
  let high := (2 * b.mantissa + 1, b.exponent - 1)
  let above := match compareScaled low.1 low.2 d.digits d.exponent with
    | .lt => true
    | .eq => even
    | .gt => false
  let below := match compareScaled high.1 high.2 d.digits d.exponent with
    | .gt => true
    | .eq => even
    | .lt => false
  above && below

/-- The largest multiple of `10 ^ exponent` that is not above the number, as its factor. -/
def Binary.floorOn (b : Binary) (exponent : Int) : Nat :=
  (b.mantissa * Nat.pow 2 b.exponent.toNat * Nat.pow 10 (-exponent).toNat) /
    (Nat.pow 10 exponent.toNat * Nat.pow 2 (-b.exponent).toNat)

/-- Twice the number against the sum of two neighbours on a grid. -/
def Binary.nearerLower (b : Binary) (lower : Nat) (exponent : Int) : Bool :=
  match compareScaled (2 * b.mantissa) b.exponent (2 * lower + 1) exponent with
  | .lt => true
  | .eq => lower % 2 = 0
  | .gt => false

/-- The better of the two neighbours on the grid of `10 ^ exponent`, if one rounds back. -/
def Binary.on? (b : Binary) (exponent : Int) : Option Decimal :=
  let lower := b.floorOn exponent
  let down : Decimal := ⟨lower, exponent⟩
  let up : Decimal := ⟨lower + 1, exponent⟩
  match b.admits down && lower != 0, b.admits up with
  | true, true => some (if b.nearerLower lower exponent then down else up)
  | true, false => some down
  | false, true => some up
  | false, false => none

/-- The decimal exponent of the leading digit: the `e` with `10 ^ e ≤ b < 10 ^ (e + 1)`. -/
def Binary.leading (b : Binary) : Int :=
  let guess : Int := ((b.mantissa.log2 : Int) + b.exponent) * 30103 / 100000 - 1
  let up (e : Int) : Int :=
    match compareScaled b.mantissa b.exponent 1 (e + 1) with
    | .lt => e
    | _ => e + 1
  up (up (up guess))

/-- Drops trailing zeros of the digits. -/
def Decimal.reduce (d : Decimal) : Nat → Decimal
  | 0 => d
  | fuel + 1 =>
    if d.digits != 0 && d.digits % 10 = 0 then
      Decimal.reduce ⟨d.digits / 10, d.exponent + 1⟩ fuel
    else d

/-- The first grid, from one digit on, with a neighbour that rounds back. -/
def Binary.shortest (b : Binary) : Decimal :=
  let top := b.leading
  let found := (List.range 17).findSome? fun (k : Nat) => b.on? (top - (k : Int))
  (found.getD ⟨b.floorOn (top - 16), top - 16⟩).reduce 20

/-- Positional between these decimal exponents of the leading digit, ends included. -/
structure Layout where
  lowest : Int
  highest : Int
deriving DecidableEq, Repr

/-- Messages write a real number with a point when its leading digit is at `1e-5` to `1e15`,
and by its exponent with a sign outside. -/
def messageLayout : Layout := ⟨-5, 15⟩

/-- Digits before the last `point` digits, a point, and those digits. -/
def pointed (digits : List Char) (exponent : Int) : String :=
  let size : Int := digits.length
  let whole := size + exponent
  if exponent ≥ 0 then
    String.ofList (digits ++ List.replicate exponent.toNat '0') ++ ".0"
  else if whole > 0 then
    String.ofList (digits.take whole.toNat) ++ "." ++ String.ofList (digits.drop whole.toNat)
  else
    "0." ++ String.ofList (List.replicate (-whole).toNat '0' ++ digits)

def Decimal.text (layout : Layout) (d : Decimal) : String :=
  let digits := Nat.toDigits 10 d.digits
  let top : Int := d.exponent + digits.length - 1
  if layout.lowest ≤ top && top ≤ layout.highest then pointed digits d.exponent
  else
    let fraction := digits.drop 1
    String.ofList (digits.take 1) ++
      (if fraction.isEmpty then "" else "." ++ String.ofList fraction) ++ "e" ++
      (if top < 0 then "-" else "+") ++ String.ofList (Nat.toDigits 10 top.natAbs)

/-- The text of a finite real number, by its bits. -/
def realText (bits : UInt64) : String :=
  let sign := if bits.toNat ≥ Nat.pow 2 63 then "-" else ""
  let size := bits.toNat % Nat.pow 2 63
  if size = 0 then sign ++ "0.0"
  else sign ++ (Binary.ofBits bits).shortest.text messageLayout

end GatedStartup.Number
