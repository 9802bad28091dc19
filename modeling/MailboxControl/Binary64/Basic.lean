/-! Floating-point numbers of 64 bits by their fields. Every finite number is a whole count of least
subnormals, so comparison, truncation and the test for a whole value are integer arithmetic. -/

namespace MailboxControl

/-- The biased exponent of a finite number. -/
abbrev Exponent := Fin 2047

/-- The significand without its leading bit, in 52 bits. -/
abbrev Fraction := Fin 0x10000000000000

/-- Sign, biased exponent and fraction. Every combination of the last form is a number. -/
inductive Binary64 where
  | nan
  | infinite (negative : Bool)
  | finite (negative : Bool) (exponent : Exponent) (fraction : Fraction)
deriving DecidableEq, Repr

namespace Binary64

/-- The leading bit of a significand. -/
def leadingBit : Nat := 0x10000000000000

/-- The number of least subnormals in one. -/
def one : Nat := 1 <<< 1074

def significand (exponent : Exponent) (fraction : Fraction) : Nat :=
  if exponent.val = 0 then fraction.val else leadingBit + fraction.val

/-- Subnormal numbers share the scale of the least normal ones. -/
def scale (exponent : Exponent) : Nat := exponent.val - 1

/-- The absolute value, counted in least subnormals. -/
def magnitude (exponent : Exponent) (fraction : Fraction) : Nat :=
  significand exponent fraction <<< scale exponent

/-- The signed value of a finite number, counted in least subnormals. -/
def units? : Binary64 → Option Int
  | .finite negative e f => some (if negative then -(magnitude e f : Int) else magnitude e f)
  | _ => none

/-- Equality of numbers: the two zeros are equal and no number equals a NaN. -/
def same : Binary64 → Binary64 → Bool
  | .nan, _ => false
  | .infinite a, .infinite b => a == b
  | x, y =>
    match x.units?, y.units? with
    | some a, some b => a == b
    | _, _ => false

/-- The whole number that `x` is, if it is one. -/
def whole? (x : Binary64) : Option Int :=
  match x.units? with
  | some u => if u % one = 0 then some (u / one) else none
  | none => none

/-- The whole part of a finite number, rounded toward zero. -/
def truncate? (x : Binary64) : Option Int :=
  x.units?.map (fun u => u.tdiv one)

def isNegative : Binary64 → Bool
  | .nan => false
  | .infinite negative => negative
  | x => x.units?.any (· < 0)

/-- The number is larger than the whole number `n`. -/
def isAbove (n : Int) : Binary64 → Bool
  | .nan => false
  | .infinite negative => !negative
  | x => x.units?.any (n * one < ·)

def isZero (x : Binary64) : Bool := x.units? == some 0

protected def neg : Binary64 → Binary64
  | .nan => .nan
  | .infinite negative => .infinite !negative
  | .finite negative e f => .finite (!negative) e f

theorem units?_neg (x : Binary64) : x.neg.units? = x.units?.map (- ·) := by
  cases x with
  | nan => rfl
  | infinite => rfl
  | finite negative e f => cases negative <;> simp [Binary64.neg, units?]

/-- A number that is whole is its own whole part. -/
theorem truncate?_of_whole? {x : Binary64} {n : Int} (h : x.whole? = some n) :
    x.truncate? = some n := by
  unfold whole? at h
  unfold truncate?
  cases hu : x.units? with
  | none => simp [hu] at h
  | some u =>
    simp only [hu] at h
    split at h
    · rename_i hm
      cases h
      exact congrArg some (Int.tdiv_eq_ediv_of_dvd (Int.dvd_of_emod_eq_zero hm))
    · cases h

end Binary64

end MailboxControl
