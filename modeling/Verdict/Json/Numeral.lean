import Verdict.Number.Decimal

/-!
# Numbers in JSON text

A numeral is a number as JSON writes it. Reading one does not round: that is left to `Numeral.value?`, which
gives an integer where there is neither a point nor an exponent and the integer fits 64 bits, and a double
otherwise. The double is worked out from the first digits that fit 64 bits and a power of ten, each rounded, so
it may miss the nearest double by a little.
-/

namespace Verdict.Json

/-- A number as it is written: the digits before and after the point, and the exponent. A fraction without
digits stands for no point at all. -/
structure Numeral where
  negative : Bool
  whole : List Char
  fraction : List Char := []
  exponent : Option Int := none
deriving DecidableEq, Repr

/-- An integer between the least signed and the greatest unsigned one of 64 bits. -/
structure WideInt where
  val : Int
  min_le : -9223372036854775808 ≤ val
  lt_max : val < 18446744073709551616
deriving DecidableEq

def WideInt.ofInt? (n : Int) : Option WideInt :=
  if h : -9223372036854775808 ≤ n ∧ n < 18446744073709551616 then some ⟨n, h.1, h.2⟩ else none

/-- The value of a numeral. -/
inductive Number where
  | int (n : WideInt)
  | float (x : Float)

namespace Numeral

/-- The greatest natural number that is kept digit by digit. -/
def maxDigits : Nat := 18446744073709551615

/-- Appends digits to a number as long as it fits, and gives the digits that are left. -/
def absorb (n : Nat) : List Char → Nat × List Char
  | [] => (n, [])
  | d :: ds =>
    let next := n * 10 + Decimal.digitValue d
    if next ≤ maxDigits then absorb next ds else (n, d :: ds)

/-- The greatest power of ten that one multiplication or division works with. -/
def maxPower : Nat := 308

def powerOfTen (e : Nat) : Float := Binary.ofDecimal false 1 e

/-- Divides by a power of ten, in steps no power of which is infinite. Three steps bring any number that the
digits give to zero. -/
def scaleDown : Nat → Float → Nat → Float
  | 0, x, _ => x
  | fuel + 1, x, e =>
    if e ≤ maxPower then x / powerOfTen e
    else if x == 0 then x
    else scaleDown fuel (x / powerOfTen maxPower) (e - maxPower)

/-- A number of at most 64 bits times a power of ten, or nothing where that is infinite. -/
def scale? (n : Nat) (e : Int) : Option Float :=
  let x := Binary.ofInt n
  if e < 0 then some (scaleDown 4 x (-e).toNat)
  else if e.toNat ≤ maxPower then
    let y := x * powerOfTen e.toNat
    if y.isInf then none else some y
  else if n = 0 then some x
  else none

/-- The double of a numeral. -/
def float? (x : Numeral) : Option Float :=
  let (n, wholeLeft) := absorb 0 x.whole
  let (n, fractionLeft) := absorb n x.fraction
  let e : Int := wholeLeft.length - (x.fraction.length - fractionLeft.length : Nat) + x.exponent.getD 0
  (scale? n e).map fun y => if x.negative then -y else y

/-- The value of a numeral. `-0` is a double, since no integer has that sign. -/
def value? (x : Numeral) : Option Number :=
  if x.fraction.isEmpty && x.exponent.isNone then
    let n := Decimal.natOf x.whole
    if x.negative && n = 0 then some (.float (-Binary.ofInt 0))
    else
      match WideInt.ofInt? (if x.negative then -n else n) with
      | some i => some (.int i)
      | none =>
        if x.negative && n ≤ maxDigits then some (.float (-Binary.ofInt n)) else x.float?.map .float
  else x.float?.map .float

/-! ## Numerals of values -/

def ofInt : Int → Numeral
  | .ofNat n => ⟨false, Decimal.digitsOf n, [], none⟩
  | .negSucc n => ⟨true, Decimal.digitsOf (n + 1), [], none⟩

/-- The least and the first exponent beyond which a decimal is written with its exponent. -/
def leastPlain : Int := -5

def firstScientific : Int := 16

/-- A decimal in plain notation if its first digit stands from the fifth place after the point to the
sixteenth before it, else as one digit, a fraction and an exponent. A plain one always has a fraction. -/
def ofDecimal (d : Decimal) : Numeral :=
  let digits := Decimal.digitsOf d.digits
  let lead : Int := digits.length + d.exponent - 1
  if d.digits = 0 then ⟨d.negative, ['0'], ['0'], none⟩
  else if leastPlain ≤ lead ∧ lead < firstScientific then
    if lead < 0 then ⟨d.negative, ['0'], List.replicate (-lead - 1).toNat '0' ++ digits, none⟩
    else
      let places := (lead + 1).toNat
      if digits.length ≤ places then
        ⟨d.negative, digits ++ List.replicate (places - digits.length) '0', ['0'], none⟩
      else ⟨d.negative, digits.take places, digits.drop places, none⟩
  else ⟨d.negative, digits.take 1, digits.drop 1, some lead⟩

/-- The numeral of a double, if it is finite: its shortest decimal, of two equally near the even one. -/
def ofFloat? (x : Float) : Option Numeral :=
  (Binary.parts? x.toModel.unpack).map fun p => ofDecimal (Decimal.shortest .binary64 .even p)

/-- The numeral of a single, if it is finite. -/
def ofFloat32? (x : Float32) : Option Numeral :=
  (Binary.parts? x.toModel.unpack).map fun p => ofDecimal (Decimal.shortest .binary32 .even p)

/-- The text of a numeral. A positive exponent carries its sign. -/
def text (x : Numeral) : List Char :=
  let fraction := if x.fraction.isEmpty then [] else '.' :: x.fraction
  let exponent :=
    match x.exponent with
    | none => []
    | some (.ofNat n) => 'e' :: '+' :: Decimal.digitsOf n
    | some (.negSucc n) => 'e' :: '-' :: Decimal.digitsOf (n + 1)
  Decimal.signed x.negative (x.whole ++ fraction ++ exponent)

/-- Reads the exponent of a numeral, after its letter. -/
def readExponent (cs : List Char) : Option (Int × List Char) :=
  let (negative, cs) :=
    match cs with
    | '-' :: cs => (true, cs)
    | '+' :: cs => (false, cs)
    | cs => (false, cs)
  match Decimal.takeDigits cs with
  | ([], _) => none
  | (ds, rest) => some (if negative then -(Decimal.natOf ds) else Decimal.natOf ds, rest)

/-- Reads the part of a numeral after its fraction. -/
def readTail (negative : Bool) (whole fraction cs : List Char) : Option (Numeral × List Char) :=
  match cs with
  | 'e' :: rest | 'E' :: rest =>
    (readExponent rest).map fun (e, rest) => (⟨negative, whole, fraction, some e⟩, rest)
  | _ => some (⟨negative, whole, fraction, none⟩, cs)

/-- Reads a numeral without its sign. Only zero itself may begin with the digit zero. -/
def readUnsigned (negative : Bool) (cs : List Char) : Option (Numeral × List Char) :=
  let (whole, rest) :=
    match cs with
    | '0' :: rest => (['0'], rest)
    | _ => Decimal.takeDigits cs
  if whole.isEmpty then none
  else
    match rest with
    | '.' :: rest =>
      match Decimal.takeDigits rest with
      | ([], _) => none
      | (fraction, rest) => readTail negative whole fraction rest
    | _ => readTail negative whole [] rest

/-- Reads a numeral from the front of a text. -/
def read : List Char → Option (Numeral × List Char)
  | '-' :: cs => readUnsigned true cs
  | cs => readUnsigned false cs

end Numeral

end Verdict.Json
