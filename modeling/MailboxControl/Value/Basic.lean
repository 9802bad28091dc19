import MailboxControl.Binary64.Decimal
import MailboxControl.Command
import MailboxControl.Status
import MailboxControl.Text.Quoted

/-! Unvalidated data. Reply fields and arguments arrive without a checked type, so every check on
them is an operation on `Value`. -/

namespace MailboxControl

abbrev Bytes := List UInt8

/-- A number that goes by a name. -/
inductive Code where
  | command (c : Command)
  | flag (f : ResumeFlag)
  | status (s : Status)
  | state (s : AccessState)
deriving DecidableEq, Repr

namespace Code

def number : Code → Nat
  | command c => c.number
  | flag f => f.number
  | status s => s.number
  | state s => s.number

def name : Code → String
  | command c => c.name
  | flag f => f.name
  | status s => s.name
  | state s => s.name

/-- The set of codes that this one belongs to. -/
def family : Code → String
  | command _ => "Command"
  | flag _ => "ResumeFlag"
  | status _ => "DaemonStatus"
  | state _ => "DaemonState"

end Code

inductive Value where
  | null
  | bool (b : Bool)
  | int (n : Int)
  | code (c : Code)
  | float (x : Binary64)
  | text (s : String)
  | bytes (bs : Bytes)
  | list (items : List Value)
deriving Inhabited

/-- A value that counts as a number, without the name it may go by. -/
inductive Number where
  | whole (n : Int)
  | real (x : Binary64)
deriving DecidableEq, Repr

namespace Number

/-- Equality across whole and floating-point numbers. -/
def same : Number → Number → Bool
  | whole a, whole b => a == b
  | whole a, real x => x.whole? == some a
  | real x, whole a => x.whole? == some a
  | real x, real y => x.same y

protected def neg : Number → Number
  | whole n => whole (-n)
  | real x => real x.neg

def isNegative : Number → Bool
  | whole n => n < 0
  | real x => x.isNegative

def isZero : Number → Bool
  | whole n => n == 0
  | real x => x.isZero

/-- The number is larger than `n`. -/
def isAbove (n : Int) : Number → Bool
  | whole m => n < m
  | real x => x.isAbove n

end Number

namespace Value

/-- The word for the kind of data, as error texts use it. -/
def kind : Value → String
  | null => "NoneType"
  | bool _ => "bool"
  | int _ => "int"
  | code c => c.family
  | float _ => "float"
  | text _ => "str"
  | bytes _ => "bytes"
  | list _ => "list"

/-- The whole number behind a flag, an integer or a code. -/
def integer? : Value → Option Int
  | bool b => some (if b then 1 else 0)
  | int n => some n
  | code c => some c.number
  | _ => none

def number? : Value → Option Number
  | float x => some (.real x)
  | v => v.integer?.map .whole

mutual

/-- Equality by content: numbers of any kind are compared as numbers, lists item by item, and
values of different kinds otherwise differ. -/
def same : Value → Value → Bool
  | null, null => true
  | text s, text t => s == t
  | bytes a, bytes b => a == b
  | list xs, list ys => sameItems xs ys
  | v, w =>
    match v.number?, w.number? with
    | some a, some b => a.same b
    | _, _ => false

def sameItems : List Value → List Value → Bool
  | [], [] => true
  | x :: xs, y :: ys => same x y && sameItems xs ys
  | _, _ => false

end

/-- Nothing, zero and empty content count as absent. -/
def isEmpty : Value → Bool
  | null => true
  | text s => s.isEmpty
  | bytes bs => bs.isEmpty
  | list xs => xs.isEmpty
  | v => v.number?.any (·.isZero)

mutual

/-- The form that tells values of different kinds apart. -/
def literal : Value → String
  | null => "None"
  | bool b => if b then "True" else "False"
  | int n => toString n
  | code c => "<" ++ c.family ++ "." ++ c.name ++ ": " ++ toString c.number ++ ">"
  | float x => x.text
  | text s => Text.quoteText s
  | bytes bs => Text.quoteBytes bs
  | list xs => "[" ++ literalItems xs ++ "]"

def literalItems : List Value → String
  | [] => ""
  | [x] => literal x
  | x :: xs => literal x ++ ", " ++ literalItems xs

end

/-- The form that stands inside a sentence: text as it is and codes by their number. -/
def plain : Value → String
  | text s => s
  | code c => toString c.number
  | v => v.literal

end Value

end MailboxControl
