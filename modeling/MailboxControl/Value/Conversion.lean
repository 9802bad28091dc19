import MailboxControl.Fault
import MailboxControl.Text.Numeral

/-! Conversions of unvalidated data: to an integer, to bytes, to a pair, and to the commands,
statuses and flags that it may stand for. -/

namespace MailboxControl.Value

/-- Numerals are read and fractions are cut off. -/
def toInteger : Value → Except IntegerFault Int
  | float x =>
    match x with
    | .infinite _ => .error .infinite
    | x =>
      match x.truncate? with
      | some n => .ok n
      | none => .error .unreadable
  | text s =>
    match Text.readInteger s.toList with
    | some n => .ok n
    | none => .error .unreadable
  | bytes bs =>
    match Text.readIntegerBytes bs with
    | some n => .ok n
    | none => .error .unreadable
  | v =>
    match v.integer? with
    | some n => .ok n
    | none => .error .unsuitable

def toByte (v : Value) : Except Fault UInt8 :=
  match v.integer? with
  | some n => if 0 ≤ n ∧ n < 256 then .ok (UInt8.ofNat n.toNat) else .error .itemNotByte
  | none => .error (.itemNotInteger v.kind)

/-- Counts from here on do not index anything. -/
def countLimit : Int := 0x8000000000000000

/-- Byte strings of this length and more cannot be described, for lack of room for their header. -/
def lengthLimit : Int := 0x7fffffffffffffdf

/-- Byte strings of this length and more find no memory. This is no law of bytes but what the machine has
that the client runs on; another machine has another limit. -/
def memoryLimit : Int := 0x2000000000

/-- A whole number as a count of bytes. -/
def toCount (n : Int) : Except Fault Nat :=
  if countLimit ≤ n ∨ n < -countLimit then .error .countTooLarge
  else if n < 0 then .error .negativeCount
  else if lengthLimit ≤ n then .error .bytesTooLong
  else if memoryLimit ≤ n then .error .outOfMemory
  else .ok n.toNat

/-- Bytes stay as they are, a list gives its items, and a whole number gives that many zeros. -/
def toBytes : Value → Except Fault Bytes
  | bytes bs => .ok bs
  | list xs => xs.mapM toByte
  | text _ => .error .textAsBytes
  | v =>
    match v.integer? with
    | some n => (toCount n).map (fun count => List.replicate count 0)
    | none => .error (.notBytes v.kind)

/-- The number of bytes that a value gives, without giving them. -/
def byteCount (v : Value) : Except Fault Nat :=
  match v with
  | bytes _ | list _ | text _ => v.toBytes.map List.length
  | v =>
    match v.integer? with
    | some n => toCount n
    | none => .error (.notBytes v.kind)

theorem byteCount_eq_map_length (v : Value) : v.byteCount = v.toBytes.map List.length := by
  unfold byteCount toBytes
  cases v with
  | bytes bs => rfl
  | list xs => rfl
  | text s => rfl
  | null => rfl
  | float x => rfl
  | bool b => simp only [integer?]; cases toCount (if b then 1 else 0) <;> simp [Except.map]
  | int n => simp only [integer?]; cases toCount n <;> simp [Except.map]
  | code c => simp only [integer?]; cases toCount c.number <;> simp [Except.map]

def length : Value → Except Fault Nat
  | text s => .ok s.length
  | bytes bs => .ok bs.length
  | list xs => .ok xs.length
  | v => .error (.noLength v.kind)

/-- The items of text, bytes or a list. -/
def items? : Value → Option (List Value)
  | text s => some (s.toList.map (fun c => text (String.singleton c)))
  | bytes bs => some (bs.map (fun b => int b.toNat))
  | list xs => some xs
  | _ => none

def pairOfItems : List Value → Except Fault (Value × Value)
  | [a, b] => .ok (a, b)
  | xs => .error (if xs.length < 2 then .tooFewItems 2 xs.length else .tooManyItems 2)

def toPair (v : Value) : Except Fault (Value × Value) :=
  match v.items? with
  | some xs => pairOfItems xs
  | none => .error (.notIterable v.kind)

def negated (v : Value) : Except Fault Number :=
  match v.number? with
  | some n => .ok n.neg
  | none => .error (.notNegatable v.kind)

/-- A list cannot be looked up. -/
def isKey : Value → Bool
  | list _ => false
  | _ => true

/-- The first candidate whose number equals the value. -/
def find? {α : Type} (number : α → Nat) (candidates : List α) (v : Value) : Option α :=
  candidates.find? (fun a => v.same (int (number a)))

def toStatus? (v : Value) : Option Status := v.find? Status.number Status.all

def toCommand (v : Value) : Except Fault Command :=
  if v.isKey then
    match v.find? Command.number Command.all with
    | some c => .ok c
    | none => .error (.noKey v)
  else .error (.unhashable v.kind)

def toResumeFlag (v : Value) : Except Fault ResumeFlag :=
  match v.find? ResumeFlag.number ResumeFlag.all with
  | some f => .ok f
  | none => .error (.notResumeFlag v)

/-- The name of a code; other data has none. -/
def nameOf : Value → Except Fault String
  | code c => .ok c.name
  | v => .error (.noFeature v.kind "name")

end MailboxControl.Value
