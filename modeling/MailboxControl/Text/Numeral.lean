/-! Whole numbers as text: reading signed decimal numerals and writing hexadecimal ones. The decimal
digits of every script and the blank characters are those of the Unicode 14 properties
`Decimal_Number` and `White_Space`. -/

namespace MailboxControl.Text

/-- The zero of every set of ten consecutive decimal digits. -/
def digitZeros : List Nat :=
  [0x30, 0x660, 0x6F0, 0x7C0, 0x966, 0x9E6, 0xA66, 0xAE6, 0xB66, 0xBE6, 0xC66, 0xCE6, 0xD66, 0xDE6,
   0xE50, 0xED0, 0xF20, 0x1040, 0x1090, 0x17E0, 0x1810, 0x1946, 0x19D0, 0x1A80, 0x1A90, 0x1B50,
   0x1BB0, 0x1C40, 0x1C50, 0xA620, 0xA8D0, 0xA900, 0xA9D0, 0xA9F0, 0xAA50, 0xABF0, 0xFF10, 0x104A0,
   0x10D30, 0x11066, 0x110F0, 0x11136, 0x111D0, 0x112F0, 0x11450, 0x114D0, 0x11650, 0x116C0,
   0x11730, 0x118E0, 0x11950, 0x11C50, 0x11D50, 0x11DA0, 0x16A60, 0x16AC0, 0x16B50, 0x1D7CE,
   0x1D7D8, 0x1D7E2, 0x1D7EC, 0x1D7F6, 0x1E140, 0x1E2F0, 0x1E950, 0x1FBF0]

/-- The value of a decimal digit of any script. -/
def digitValue? (c : Char) : Option Nat :=
  (digitZeros.find? (fun z => z ≤ c.toNat && c.toNat < z + 10)).map (c.toNat - ·)

def isBlank (c : Char) : Bool :=
  let n := c.toNat
  (9 ≤ n && n ≤ 13) || n == 0x20 || n == 0x85 || n == 0xA0 || n == 0x1680 ||
    (0x2000 ≤ n && n ≤ 0x200A) || n == 0x2028 || n == 0x2029 || n == 0x202F || n == 0x205F ||
    n == 0x3000

/-- The longest numeral that is read, counted in digits. -/
def numeralLimit : Nat := 4300

/-- The digits of a numeral in which single underscores may stand between digits. The flag says
whether the character before was a digit. -/
def readDigits (afterDigit : Bool) : List Char → Option (List Nat)
  | [] => if afterDigit then some [] else none
  | c :: cs =>
    if c == '_' then if afterDigit then readDigits false cs else none
    else
      match digitValue? c with
      | some d => (readDigits true cs).map (d :: ·)
      | none => none

def readMagnitude (cs : List Char) : Option Nat :=
  match readDigits false cs with
  | some ds =>
    if ds.length ≤ numeralLimit then some (ds.foldl (fun n d => 10 * n + d) 0) else none
  | none => none

def trimBlanks (cs : List Char) : List Char :=
  (cs.dropWhile isBlank).reverse.dropWhile isBlank |>.reverse

/-- Reads a whole number with blanks around it, at most one sign, and decimal digits of any
script. -/
def readInteger (cs : List Char) : Option Int :=
  match trimBlanks cs with
  | '-' :: ds => (readMagnitude ds).map (fun n => -(n : Int))
  | '+' :: ds => (readMagnitude ds).map (fun n => (n : Int))
  | ds => (readMagnitude ds).map (fun n => (n : Int))

/-- Bytes are read as a numeral only if all are ASCII. -/
def readIntegerBytes (bs : List UInt8) : Option Int :=
  if bs.all (fun b => b.toNat < 0x80) then readInteger (bs.map (fun b => Char.ofNat b.toNat))
  else none

def upperHex (n : Nat) : List Char :=
  (Nat.toDigits 16 n).map Char.toUpper

/-- Upper-case hexadecimal in at least two places, the sign counting as one. -/
def hexField (n : Int) : String :=
  match n with
  | .ofNat m => String.ofList (if m < 16 then '0' :: upperHex m else upperHex m)
  | .negSucc m => String.ofList ('-' :: upperHex (m + 1))

end MailboxControl.Text
