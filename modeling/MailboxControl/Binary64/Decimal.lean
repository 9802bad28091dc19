import MailboxControl.Binary64.Basic

/-! Decimal text of floating-point numbers. Reading rounds to the nearest number, ties to the even
significand. Writing takes the fewest digits that read back, and of those the nearest. -/

namespace MailboxControl.Binary64

/-- The quotient rounded to the nearest whole number, ties to even. -/
def roundQuotient (num den : Nat) : Nat :=
  let q := num / den
  match compare (2 * (num % den)) den with
  | .lt => q
  | .gt => q + 1
  | .eq => q + q % 2

/-- A power of ten, which is one for negative exponents. -/
def tens (exponent : Int) : Nat := Nat.pow 10 exponent.toNat

/-- The number with the given significand at the given scale. A significand has at most 53 bits, or
is the least number of 54 bits. -/
def ofSignificand (negative : Bool) (significand scale : Nat) : Binary64 :=
  if significand < leadingBit then .finite negative 0 (Fin.ofNat _ significand)
  else
    let (f, e) :=
      if significand < 2 * leadingBit then (significand - leadingBit, scale + 1) else (0, scale + 2)
    if h : e < 2047 then .finite negative ⟨e, h⟩ (Fin.ofNat _ f) else .infinite negative

/-- The number nearest to `digits * 10 ^ exponent`. -/
def ofDecimal (negative : Bool) (digits : Nat) (exponent : Int) : Binary64 :=
  let num := digits * tens exponent * one
  let den := tens (-exponent)
  let floor := num / den
  let scale := if floor < 2 * leadingBit then 0 else floor.log2 - 52
  ofSignificand negative (roundQuotient num (den <<< scale)) scale

/-- The value `digits * 10 ^ exponent` reads back as the number with the given fields: it lies
between the midpoints to the two neighbours, which belong to the even significands. -/
def readsBack (e : Exponent) (f : Fraction) (digits : Nat) (exponent : Int) : Bool :=
  let gap := 1 <<< scale e
  let below := if f.val = 0 && 1 < e.val then gap else 2 * gap
  let low := 4 * magnitude e f - below
  let high := 4 * magnitude e f + 2 * gap
  let value := 4 * (digits * tens exponent * one)
  let unit := tens (-exponent)
  let even := significand e f % 2 == 0
  (low * unit < value || (even && low * unit == value)) &&
    (value < high * unit || (even && value == high * unit))

/-- The least power of ten above the number. -/
def decimalPoint (e : Exponent) (f : Fraction) : Int :=
  let u := magnitude e f
  let guess : Int := ((u.log2 : Int) - 1074) * 30103 / 100000 - 1
  let above (p : Int) : Bool := u * tens (-p) < tens p * one
  ([guess, guess + 1, guess + 2, guess + 3].find? above).getD (guess + 4)

/-- The nearer of the two decimals of `count` digits beside the number, if it reads back. -/
def digitsOfLength? (e : Exponent) (f : Fraction) (count : Nat) : Option (Nat × Int) :=
  let k := decimalPoint e f - count
  let num := magnitude e f * tens (-k)
  let den := one * tens k
  let nearest := roundQuotient num den
  let floor := num / den
  let other := if nearest = floor then floor + 1 else floor
  if readsBack e f nearest k then some (nearest, k)
  else if readsBack e f other k then some (other, k) else none

/-- Seventeen digits are enough for every number. -/
def shortest (e : Exponent) (f : Fraction) : Nat × Int :=
  let k := decimalPoint e f - 17
  ((List.range 17).findSome? (fun i => digitsOfLength? e f (i + 1))).getD
    (magnitude e f * tens (-k) / (one * tens k), k)

def stripZeros : List Char → List Char
  | cs => (cs.reverse.dropWhile (· == '0')).reverse

/-- Digits with the decimal point after the first `point` of them. Positional from `0.0001` up to
sixteen whole digits, otherwise with a signed exponent of at least two digits. -/
def layout (digits : List Char) (point : Int) : List Char :=
  if point ≤ -4 || 16 < point then
    let e := point - 1
    let power := (toString e.natAbs).toList
    let padded := if power.length < 2 then '0' :: power else power
    let tail := if digits.length ≤ 1 then [] else '.' :: digits.drop 1
    digits.take 1 ++ tail ++ ['e', if e < 0 then '-' else '+'] ++ padded
  else if point ≤ 0 then ['0', '.'] ++ List.replicate (-point).toNat '0' ++ digits
  else
    let n := point.toNat
    if digits.length ≤ n then digits ++ List.replicate (n - digits.length) '0' ++ ['.', '0']
    else digits.take n ++ '.' :: digits.drop n

def magnitudeText (e : Exponent) (f : Fraction) : List Char :=
  if magnitude e f = 0 then ['0', '.', '0']
  else
    let (digits, exponent) := shortest e f
    let cs := (toString digits).toList
    layout (stripZeros cs) (exponent + cs.length)

def text : Binary64 → String
  | .nan => "nan"
  | .infinite negative => if negative then "-inf" else "inf"
  | .finite negative e f => String.ofList ((if negative then ['-'] else []) ++ magnitudeText e f)

/-- The digits before a stopping character, as a number, their count, and the rest. -/
def takeDigits (cs : List Char) : Nat × Nat × List Char :=
  let ds := cs.takeWhile Char.isDigit
  (ds.foldl (fun n c => 10 * n + (c.toNat - 48)) 0, ds.length, cs.dropWhile Char.isDigit)

def readExponent : List Char → Option Int
  | '-' :: cs => let (n, count, rest) := takeDigits cs
    if count = 0 || !rest.isEmpty then none else some (-(n : Int))
  | '+' :: cs => let (n, count, rest) := takeDigits cs
    if count = 0 || !rest.isEmpty then none else some n
  | cs => let (n, count, rest) := takeDigits cs
    if count = 0 || !rest.isEmpty then none else some n

/-- Reads an unsigned decimal with an optional fraction and exponent. -/
def readDecimal (negative : Bool) (cs : List Char) : Option Binary64 :=
  let (n, count, rest) := takeDigits cs
  let (m, places, rest) :=
    match rest with
    | '.' :: rest => let (k, c, rest) := takeDigits rest; (n * tens c + k, c, rest)
    | _ => (n, 0, rest)
  if count + places = 0 then none
  else
    match rest with
    | [] => some (ofDecimal negative m (-(places : Int)))
    | 'e' :: power => (readExponent power).map (fun e => ofDecimal negative m (e - places))
    | _ => none

/-- Reads what `text` writes, and any other decimal form of a number. -/
def ofText? (s : String) : Option Binary64 :=
  match s.toList with
  | ['n', 'a', 'n'] => some .nan
  | ['i', 'n', 'f'] => some (.infinite false)
  | ['-', 'i', 'n', 'f'] => some (.infinite true)
  | '-' :: cs => readDecimal true cs
  | cs => readDecimal false cs

end MailboxControl.Binary64
