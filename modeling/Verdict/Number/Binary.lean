/-!
# Binary floating-point numbers

What the library needs of `Float` and `Float32` beyond their arithmetic: conversions between integers, decimals
and the two widths, and the remainder. Each takes a number apart into sign, mantissa and exponent, works on
integers and rounds once, to the nearest number and to the even one of two.
-/

namespace Verdict.Binary

open Float.Model

/-- A signed mantissa and an exponent, for a number that is neither infinite nor `NaN`: the number is the
mantissa times a power of two. -/
structure Parts where
  negative : Bool
  mantissa : Nat
  exponent : Int
deriving DecidableEq, Repr

def isNegative : UnpackedFloat.Sign → Bool
  | .negative => true
  | .positive => false

/-- The parts of a finite number. -/
def parts? : UnpackedFloat → Option Parts
  | .zero s => some ⟨isNegative s, 0, 0⟩
  | .finite s m e _ => some ⟨isNegative s, m, e⟩
  | .infinity _ | .notANumber => none

/-- A number of one format rounded to another. -/
def convert (format : Format) : UnpackedFloat → UnpackedFloat
  | .finite s m e _ => .round format s m e
  | x => x

/-- The double of the same value. -/
def widen (x : Float32) : Float :=
  ⟨.pack (convert .binary64 x.toModel.unpack)⟩

/-- The nearest number of single width. -/
def narrow (x : Float) : Float32 :=
  ⟨.pack (convert .binary32 x.toModel.unpack)⟩

/-- The double nearest to an integer. -/
def ofInt (n : Int) : Float := ⟨.ofInt n⟩

/-- The single nearest to an integer. -/
def ofInt32 (n : Int) : Float32 := ⟨.ofInt n⟩

/-- The double nearest to `digits * 10 ^ exponent`. -/
def ofDecimal (negative : Bool) (digits : Nat) (exponent : Int) : Float :=
  let x : Float := ⟨.ofScientific digits exponent⟩
  if negative then -x else x

/-- The single nearest to `digits * 10 ^ exponent`. -/
def ofDecimal32 (negative : Bool) (digits : Nat) (exponent : Int) : Float32 :=
  let x : Float32 := ⟨.ofScientific digits exponent⟩
  if negative then -x else x

def nan : Float := ⟨.pack .notANumber⟩

def infinity (negative : Bool) : Float :=
  ⟨.pack (.infinity (if negative then .negative else .positive))⟩

/-- The remainder of a division whose quotient is cut toward zero. It is exact and has the sign of the dividend;
an infinite divisor leaves the dividend as it is. -/
def unpackedRem : UnpackedFloat → UnpackedFloat → UnpackedFloat
  | .finite s m e _, .finite _ m' e' _ =>
    let low := min e e'
    let r := (m <<< (e - low).toNat) % (m' <<< (e' - low).toNat)
    if r = 0 then .zero s else .round .binary64 s r low
  | .zero s, .finite .. => .zero s
  | .zero s, .infinity _ => .zero s
  | x@(.finite ..), .infinity _ => x
  | _, _ => .notANumber

def rem (x y : Float) : Float :=
  ⟨.pack (unpackedRem x.toModel.unpack y.toModel.unpack)⟩

end Verdict.Binary
