/-!
# Integers of fixed width

The eight kinds of integers, signed and unsigned, of 8 to 64 bits. An integer carries its kind and the proof
that it lies in the kind's range, so an operation either gives an integer of the kind or nothing. The bitwise
operations act on the two's complement words of the kind.
-/

namespace Verdict

/-- A width and a signedness. -/
inductive IntKind where
  | int8 | int16 | int32 | int64 | uint8 | uint16 | uint32 | uint64
deriving DecidableEq, Repr, Inhabited

namespace IntKind

def all : List IntKind := [int8, int16, int32, int64, uint8, uint16, uint32, uint64]

/-- The number of bits. -/
def width : IntKind → Nat
  | int8 | uint8 => 8
  | int16 | uint16 => 16
  | int32 | uint32 => 32
  | int64 | uint64 => 64

def signed : IntKind → Bool
  | int8 | int16 | int32 | int64 => true
  | uint8 | uint16 | uint32 | uint64 => false

def name : IntKind → String
  | int8 => "int8"
  | int16 => "int16"
  | int32 => "int32"
  | int64 => "int64"
  | uint8 => "uint8"
  | uint16 => "uint16"
  | uint32 => "uint32"
  | uint64 => "uint64"

/-- The least integer of the kind. -/
def min (k : IntKind) : Int := if k.signed then -(Nat.pow 2 (k.width - 1) : Int) else 0

/-- The greatest integer of the kind. -/
def max (k : IntKind) : Int := (if k.signed then Nat.pow 2 (k.width - 1) else Nat.pow 2 k.width : Nat) - 1

/-- The word read as an integer of the kind. -/
def ofWord (k : IntKind) (w : BitVec k.width) : Int := if k.signed then w.toInt else w.toNat

theorem min_le_ofWord (k : IntKind) (w : BitVec k.width) : k.min ≤ k.ofWord w := by
  unfold min ofWord
  split
  · exact BitVec.le_toInt w
  · exact Int.natCast_nonneg _

theorem ofWord_le_max (k : IntKind) (w : BitVec k.width) : k.ofWord w ≤ k.max := by
  unfold max ofWord
  split
  · exact Int.le_sub_one_of_lt BitVec.toInt_lt
  · have h : ((w.toNat : Nat) : Int) < ((2 ^ k.width : Nat) : Int) := Int.ofNat_lt.mpr w.isLt
    rw [Int.natCast_pow] at h
    exact Int.le_sub_one_of_lt h

end IntKind

/-- An integer of one of the kinds. -/
structure Integer where
  kind : IntKind
  val : Int
  min_le : kind.min ≤ val
  le_max : val ≤ kind.max
deriving DecidableEq

namespace Integer

/-- The number as an integer of the kind, if it lies in the kind's range. -/
def ofInt? (k : IntKind) (n : Int) : Option Integer :=
  if h : k.min ≤ n ∧ n ≤ k.max then some ⟨k, n, h.1, h.2⟩ else none

/-- The integer of the kind with that word. -/
def ofWord (k : IntKind) (w : BitVec k.width) : Integer :=
  ⟨k, k.ofWord w, k.min_le_ofWord w, k.ofWord_le_max w⟩

/-- The two's complement word of a number in the width of the kind. -/
def word (k : IntKind) (n : Int) : BitVec k.width := BitVec.ofInt k.width n

/-! ## Arithmetic

Each operation works on the numbers of two integers of kind `k`. It gives nothing where the exact result does
not fit; division and remainder cut toward zero and are asked for with a divisor that is not zero. -/

def add? (k : IntKind) (a b : Int) : Option Integer := ofInt? k (a + b)

def sub? (k : IntKind) (a b : Int) : Option Integer := ofInt? k (a - b)

def mul? (k : IntKind) (a b : Int) : Option Integer := ofInt? k (a * b)

def div? (k : IntKind) (a b : Int) : Option Integer := ofInt? k (a.tdiv b)

/-- The remainder is refused where the quotient does not fit, although it would itself be zero. -/
def mod? (k : IntKind) (a b : Int) : Option Integer :=
  if k.min ≤ a.tdiv b ∧ a.tdiv b ≤ k.max then ofInt? k (a.tmod b) else none

/-- The greatest exponent that is worked out. -/
def maxExponent : Int := 4294967295

/-- A power of which it is known whether it can fit 64 bits; the powers of 0, 1 and -1 are found without
multiplying. -/
def power? (a : Int) (e : Nat) : Option Int :=
  if a.natAbs ≤ 1 then some (if e = 0 then 1 else if e % 2 = 0 then a * a else a)
  else if e ≤ 64 then some (a.pow e)
  else none

def pow? (k : IntKind) (a b : Int) : Option Integer :=
  if 0 ≤ b ∧ b ≤ maxExponent then (power? a b.toNat).bind (ofInt? k) else none

/-! ## Words -/

def bitAnd (k : IntKind) (a b : Int) : Integer := ofWord k (word k a &&& word k b)

def bitOr (k : IntKind) (a b : Int) : Integer := ofWord k (word k a ||| word k b)

def bitXor (k : IntKind) (a b : Int) : Integer := ofWord k (word k a ^^^ word k b)

/-- The bits that leave the word at the left are lost. The amount has to be less than the width. -/
def shl? (k : IntKind) (a b : Int) : Option Integer :=
  if 0 ≤ b ∧ b < k.width then some (ofWord k (word k a <<< b.toNat)) else none

/-- The sign fills in from the left for a signed kind, zero for an unsigned one. -/
def shr? (k : IntKind) (a b : Int) : Option Integer :=
  if 0 ≤ b ∧ b < k.width then
    some (ofWord k (if k.signed then (word k a).sshiftRight b.toNat else word k a >>> b.toNat))
  else none

end Integer

end Verdict
