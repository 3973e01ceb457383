import Verdict.Number.Binary

/-!
# The shortest decimal of a binary number

A binary number stands for all reals that round to it. Of those, its decimal is one with the fewest digits, and
of these the one nearest to the number itself. It is found on grids of decreasing width, multiples of a power
of ten: the first grid with a point among the reals holds the decimal, and only the two points next to the
number have to be looked at.
-/

namespace Verdict

open Float.Model

/-- `digits * 10 ^ exponent`, with a sign of its own so that zero can be negative. -/
structure Decimal where
  negative : Bool
  digits : Nat
  exponent : Int
deriving DecidableEq, Repr, Inhabited

namespace Decimal

/-- Which of two equally near points of a grid is taken. -/
inductive Tie where
  | up
  | even
deriving DecidableEq

/-- The reals that round to a number, as a range around it: all three are counted in units of `2 ^ scale`. -/
structure Range where
  low : Nat
  value : Nat
  high : Nat
  scale : Int
  closed : Bool

/-- The range of the number `m * 2 ^ e`. It reaches half a unit to both sides, and only a quarter down from a
power of two, below which the numbers lie closer. The ends belong to it when the mantissa is even. -/
def Range.around (format : Format) (m : Nat) (e : Int) : Range :=
  let atPower := m = Nat.pow 2 format.mantissaBitsWithoutImplicit ∧ format.minExponent < e
  ⟨4 * m - (if atPower then 1 else 2), 4 * m, 4 * m + 2, e - 2, m % 2 = 0⟩

/-- The multiple of `10 ^ j` in the range that is nearest to the number, as a factor of that power. -/
def Range.onGrid (r : Range) (tie : Tie) (j : Int) : Option Nat :=
  let factor := Nat.pow 2 r.scale.toNat * Nat.pow 10 (-j).toNat
  let step := Nat.pow 2 (-r.scale).toNat * Nat.pow 10 j.toNat
  let value := r.value * factor
  let below := value / step
  let meets (a b : Nat) : Bool := if r.closed then a ≤ b else a < b
  let belowIn := meets (r.low * factor) (below * step)
  let aboveIn := meets ((below + 1) * step) (r.high * factor)
  if belowIn && aboveIn then
    match compare (2 * (value - below * step)) step with
    | .lt => some below
    | .gt => some (below + 1)
    | .eq => some (if tie = .even ∧ below % 2 = 0 then below else below + 1)
  else if belowIn then some below
  else if aboveIn then some (below + 1)
  else none

/-- Tries the grids of `10 ^ j`, `10 ^ (j - 1)`, … in turn. -/
def Range.firstHit (r : Range) (tie : Tie) : Nat → Int → Option (Nat × Int)
  | 0, _ => none
  | fuel + 1, j =>
    match r.onGrid tie j with
    | some n => some (n, j)
    | none => r.firstHit tie fuel (j - 1)

/-- An exponent of ten that is too great for the range: 0.30103 is a little more than the logarithm of 2. -/
def Range.topExponent (r : Range) : Int :=
  (r.value.log2 + 1 + r.scale) * 30103 / 100000 + 2

/-- The number of grids tried, more than the digits of any number of the two formats. -/
def gridCount : Nat := 25

/-- The shortest decimal of a finite number. -/
def shortest (format : Format) (tie : Tie) (x : Binary.Parts) : Decimal :=
  if x.mantissa = 0 then ⟨x.negative, 0, 0⟩
  else
    let r := Range.around format x.mantissa x.exponent
    match r.firstHit tie gridCount r.topExponent with
    | some (n, j) => ⟨x.negative, n, j⟩
    | none => ⟨x.negative, 0, 0⟩

/-! ## Plain notation -/

/-- The digits of a natural number. -/
def digitsOf (n : Nat) : List Char := Nat.toDigits 10 n

/-- Digits with the point `point` places after the first; `0` stands before a leading point, and a point at
the end is left out. -/
def placePoint (digits : List Char) (point : Int) : List Char :=
  if point ≤ 0 then ['0', '.'] ++ List.replicate (-point).toNat '0' ++ digits
  else if digits.length ≤ point.toNat then digits ++ List.replicate (point.toNat - digits.length) '0'
  else digits.take point.toNat ++ '.' :: digits.drop point.toNat

/-- A sign in front of a text. -/
def signed (negative : Bool) (cs : List Char) : List Char := if negative then '-' :: cs else cs

/-- A decimal without an exponent, however long. -/
def plain (d : Decimal) : List Char :=
  let digits := digitsOf d.digits
  signed d.negative (if d.digits = 0 then ['0'] else placePoint digits (digits.length + d.exponent))

/-- How a number is displayed: its shortest decimal in plain notation. -/
def display (format : Format) (x : UnpackedFloat) : List Char :=
  match x with
  | .notANumber => ['N', 'a', 'N']
  | .infinity s => signed (Binary.isNegative s) ['i', 'n', 'f']
  | _ =>
    match Binary.parts? x with
    | some p => (shortest format .up p).plain
    | none => []

def displayFloat (x : Float) : List Char := display .binary64 x.toModel.unpack

def displayFloat32 (x : Float32) : List Char := display .binary32 x.toModel.unpack

/-- An integer in decimal digits. -/
def displayInt : Int → List Char
  | .ofNat n => digitsOf n
  | .negSucc n => '-' :: digitsOf (n + 1)

/-! ## Reading -/

def isDigit (c : Char) : Bool := '0' ≤ c && c ≤ '9'

def digitValue (c : Char) : Nat := c.toNat - 48

/-- The value of a row of digits. -/
def natOf (ds : List Char) : Nat := ds.foldl (fun n d => n * 10 + digitValue d) 0

/-- The digits in front of a text, and what follows them. -/
def takeDigits (cs : List Char) : List Char × List Char := (cs.takeWhile isDigit, cs.dropWhile isDigit)

end Decimal

end Verdict
