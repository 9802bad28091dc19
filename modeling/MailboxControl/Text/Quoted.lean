import MailboxControl.Text.Printable

/-! Quoted text and quoted bytes. The single quote is preferred; the double quote is taken when
the content holds a single quote and no double one. -/

namespace MailboxControl.Text

def lowerHexDigit (d : Nat) : Char :=
  if d < 10 then Char.ofNat (48 + d) else Char.ofNat (87 + d)

/-- The last `width` hexadecimal digits of `n`. -/
def lowerHex : Nat → Nat → List Char
  | 0, _ => []
  | width + 1, n => lowerHex width (n / 16) ++ [lowerHexDigit (n % 16)]

def chooseQuote (cs : List Char) : Char :=
  if cs.contains '\'' && !cs.contains '"' then '"' else '\''

/-- The escapes that quoted text and quoted bytes share. -/
def shortEscape? (quote c : Char) : Option (List Char) :=
  if c == quote || c == '\\' then some ['\\', c]
  else if c == '\n' then some ['\\', 'n']
  else if c == '\r' then some ['\\', 'r']
  else if c == '\t' then some ['\\', 't']
  else none

/-- Characters without a visible form are written by their code point, in the narrowest of three
widths. -/
def escapeChar (quote c : Char) : List Char :=
  match shortEscape? quote c with
  | some cs => cs
  | none =>
    let n := c.toNat
    if isPrintable c then [c]
    else if n < 0x100 then ['\\', 'x'] ++ lowerHex 2 n
    else if n < 0x10000 then ['\\', 'u'] ++ lowerHex 4 n
    else ['\\', 'U'] ++ lowerHex 8 n

def quoteText (s : String) : String :=
  let cs := s.toList
  let quote := chooseQuote cs
  String.ofList (quote :: cs.flatMap (escapeChar quote) ++ [quote])

/-- Bytes outside the visible part of ASCII are written in two hexadecimal digits. -/
def escapeByte (quote : Char) (b : UInt8) : List Char :=
  let c := Char.ofNat b.toNat
  match shortEscape? quote c with
  | some cs => cs
  | none =>
    if 0x20 ≤ b.toNat && b.toNat < 0x7F then [c] else ['\\', 'x'] ++ lowerHex 2 b.toNat

def quoteBytes (bs : List UInt8) : String :=
  let quote := chooseQuote (bs.map (fun b => Char.ofNat b.toNat))
  String.ofList ('b' :: quote :: bs.flatMap (escapeByte quote) ++ [quote])

/-- Two hexadecimal digits for each byte, with a space between bytes. -/
def spacedHex (bs : List UInt8) : String :=
  " ".intercalate (bs.map (fun b => String.ofList (lowerHex 2 b.toNat)))

end MailboxControl.Text
