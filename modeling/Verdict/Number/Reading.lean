import Verdict.Number.Decimal

/-!
# Reading floating-point numbers

The written forms of a floating-point number, as the command line, files of variables and the expression language
know them: digits with an optional point on either side of them, an optional exponent, and words for what is
infinite or no number. The nearest number of the width is taken.
-/

namespace Verdict.Decimal

/-- A number as it is written. -/
inductive Written where
  | finite (negative : Bool) (digits : Nat) (exponent : Int)
  | infinite (negative : Bool)
  | notANumber
deriving DecidableEq, Repr

namespace Written

/-- The exponent after its letter, which has to take the rest of the text. -/
def exponent? (cs : List Char) : Option Int :=
  let (negative, ds) :=
    match cs with
    | '-' :: ds => (true, ds)
    | '+' :: ds => (false, ds)
    | ds => (false, ds)
  if ds.isEmpty || !ds.all isDigit then none
  else some (if negative then -(natOf ds) else natOf ds)

/-- A number without its sign. -/
def unsigned? (negative : Bool) (cs : List Char) : Option Written :=
  let (whole, rest) := takeDigits cs
  let (fraction, rest) :=
    match rest with
    | '.' :: rest => takeDigits rest
    | _ => ([], rest)
  if whole.isEmpty && fraction.isEmpty then
    match cs.map Char.toLower with
    | ['i', 'n', 'f'] | ['i', 'n', 'f', 'i', 'n', 'i', 't', 'y'] => some (.infinite negative)
    | ['n', 'a', 'n'] => some .notANumber
    | _ => none
  else
    let of (e : Int) := some (finite negative (natOf (whole ++ fraction)) (e - fraction.length))
    match rest with
    | [] => of 0
    | 'e' :: rest | 'E' :: rest => (exponent? rest).bind of
    | _ => none

def ofText? : List Char → Option Written
  | '-' :: cs => unsigned? true cs
  | '+' :: cs => unsigned? false cs
  | cs => unsigned? false cs

def toFloat : Written → Float
  | finite negative digits exponent => Binary.ofDecimal negative digits exponent
  | infinite negative => Binary.infinity negative
  | notANumber => Binary.nan

def toFloat32 : Written → Float32
  | finite negative digits exponent => Binary.ofDecimal32 negative digits exponent
  | infinite negative => ⟨.pack (.infinity (if negative then .negative else .positive))⟩
  | notANumber => ⟨.pack .notANumber⟩

end Written

end Verdict.Decimal
