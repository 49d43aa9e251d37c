import GatedStartup.Json.Value
import GatedStartup.Number.Shortest

/-! Numbers as read. A number is an integer when it has neither fraction nor exponent and fits
64 bits; any other is real. The digits of a real number that fit 64 bits are rounded to a
number, the power of ten to another, and the two are multiplied or divided with rounding. A
result too large to represent is refused. -/
namespace GatedStartup.Json

inductive Number where
  | integer (value : Int)
  | real (bits : UInt64)
deriving DecidableEq, Repr

namespace Numeral

/-- Takes digits while the number fits 64 bits. -/
def accumulate (value : Nat) : List Nat → Nat × List Nat
  | [] => (value, [])
  | d :: rest =>
    if value * 10 + d < Nat.pow 2 64 then accumulate (value * 10 + d) rest else (value, d :: rest)

/-- The significant digits that fit, and the power of ten they are scaled by. Digits before the
point that do not fit raise the power; digits after the point are dropped from the first that
does not fit. -/
def significand (n : Numeral) : Nat × Int :=
  let whole := accumulate 0 n.whole
  let fraction := accumulate whole.1 (n.fraction.getD [])
  let taken : Nat := (n.fraction.getD []).length - fraction.2.length
  (fraction.1, (whole.2.length : Int) - (taken : Int))

/-- The written exponent. -/
def written (n : Numeral) : Int :=
  match n.exponent with
  | none => 0
  | some (negative, digits) =>
    let size : Nat := digits.foldl (fun value d => value * 10 + d) 0
    if negative then -(size : Int) else (size : Int)

/-- Scales by a power of ten of at most 308 at a time; nothing when the result is too large. -/
def scale (x : Float) (exponent : Int) : Option Float :=
  let power (e : Nat) : Float := Float.ofScientific 1 false e
  if exponent > 308 then if x == 0.0 then some x else none
  else if exponent ≥ 0 then
    let scaled := x * power exponent.toNat
    if scaled.isInf then none else some scaled
  else if exponent ≥ -308 then some (x / power (-exponent).toNat)
  else if exponent ≥ -616 then some (x / power 308 / power (-exponent - 308).toNat)
  else if exponent ≥ -924 then some (x / power 308 / power 308 / power (-exponent - 616).toNat)
  else some (x * 0.0)

def real? (n : Numeral) : Option Number :=
  let parts := n.significand
  (scale parts.1.toUInt64.toFloat (parts.2 + n.written)).map fun x =>
    .real (if n.negative then -x else x).toBits

/-- The number, unless it is too large. Minus zero is real. -/
def read? (n : Numeral) : Option Number :=
  match n.fraction, n.exponent with
  | none, none =>
    let value : Nat := n.whole.foldl (fun value d => value * 10 + d) 0
    if n.negative then
      if 0 < value && value ≤ Nat.pow 2 63 then some (.integer (-(value : Int))) else n.real?
    else if value < Nat.pow 2 64 then some (.integer value) else n.real?
  | _, _ => n.real?

end Numeral

def Number.text : Number → String
  | .integer value => toString value
  | .real bits => GatedStartup.Number.realText bits

end GatedStartup.Json
