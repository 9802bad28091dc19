import MailboxControl.Value.Basic

/-! What can go wrong when unvalidated data is used as if it had a certain form. A fault says what
was asked of which kind of data; its text is written in one place. -/

namespace MailboxControl

/-- The broad sorts of faults, which decide where a fault is caught. -/
inductive FaultFamily where
  | value
  | type
  | key
  | feature
  | overflow
  | memory
deriving DecidableEq, Repr

/-- Why a value is no integer. -/
inductive IntegerFault where
  /-- text or bytes that are no numeral, or a NaN -/
  | unreadable
  /-- data of a kind that never stands for a number -/
  | unsuitable
  | infinite
deriving DecidableEq, Repr

inductive Fault where
  | infiniteInteger
  | textAsBytes
  | notBytes (kind : String)
  | itemNotInteger (kind : String)
  | itemNotByte
  | negativeCount
  | countTooLarge
  | bytesTooLong
  | outOfMemory
  | noLength (kind : String)
  | noFeature (kind feature : String)
  | surplusHexArgument
  | unhashable (kind : String)
  | noKey (key : Value)
  | notResumeFlag (v : Value)
  | notHexadecimal (kind : String)
  | notFormattable (kind : String)
  | notComparable (kind : String)
  | notIndex
  | notNegatable (kind : String)
  | notIterable (kind : String)
  | tooFewItems (expected got : Nat)
  | tooManyItems (expected : Nat)
  | negativeLength (length : Value)
  /-- what the bus library refuses, in its own words -/
  | refused (family : FaultFamily) (text : String)
  | surplusArgument (callee : String) (takes given : Nat)
  | surplusField (callee : String) (given : Nat)
  | missingArgument (callee argument : String)
  | unknownArgument (callee argument : String)

namespace Fault

def family : Fault → FaultFamily
  | infiniteInteger | countTooLarge | bytesTooLong => .overflow
  | outOfMemory => .memory
  | itemNotByte | negativeCount | notResumeFlag _ | notHexadecimal _ | tooFewItems _ _
  | tooManyItems _ | negativeLength _ => .value
  | noKey _ => .key
  | noFeature _ _ => .feature
  | refused family _ => family
  | _ => .type

/-- `count` with its noun in the right number. -/
def counted (count : Nat) (noun : String) : String :=
  toString count ++ " " ++ noun ++ if count = 1 then "" else "s"

def message : Fault → String
  | infiniteInteger => "cannot convert float infinity to integer"
  | textAsBytes => "string argument without an encoding"
  | notBytes kind => "cannot convert '" ++ kind ++ "' object to bytes"
  | itemNotInteger kind => "'" ++ kind ++ "' object cannot be interpreted as an integer"
  | itemNotByte => "bytes must be in range(0, 256)"
  | negativeCount => "negative count"
  | countTooLarge => "cannot fit 'int' into an index-sized integer"
  | bytesTooLong => "byte string is too large"
  | outOfMemory => ""
  | noLength kind => "object of type '" ++ kind ++ "' has no len()"
  | noFeature kind feature => "'" ++ kind ++ "' object has no attribute '" ++ feature ++ "'"
  | surplusHexArgument => "float.hex() takes no arguments (1 given)"
  | unhashable kind => "unhashable type: '" ++ kind ++ "'"
  | noKey key => key.literal
  | notResumeFlag v => v.literal ++ " is not a valid ResumeFlag"
  | notHexadecimal kind => "Unknown format code 'X' for object of type '" ++ kind ++ "'"
  | notFormattable kind => "unsupported format string passed to " ++ kind ++ ".__format__"
  | notComparable kind => "'<' not supported between instances of '" ++ kind ++ "' and 'int'"
  | notIndex => "slice indices must be integers or None or have an __index__ method"
  | notNegatable kind => "bad operand type for unary -: '" ++ kind ++ "'"
  | notIterable kind => "cannot unpack non-iterable " ++ kind ++ " object"
  | tooFewItems expected got =>
    "not enough values to unpack (expected " ++ toString expected ++ ", got " ++ toString got ++ ")"
  | tooManyItems expected => "too many values to unpack (expected " ++ toString expected ++ ")"
  | negativeLength length => "expected_len must be >= 0, got " ++ length.plain
  | refused _ text => text
  | surplusArgument callee takes given =>
    callee ++ "() takes " ++ counted takes "positional argument" ++ " but " ++ toString given ++
      (if given = 1 then " was given" else " were given")
  | surplusField callee given =>
    callee ++ "() takes from 2 to 3 positional arguments but " ++ toString given ++ " were given"
  | missingArgument callee argument =>
    callee ++ "() missing 1 required positional argument: '" ++ argument ++ "'"
  | unknownArgument callee argument =>
    callee ++ "() got an unexpected keyword argument '" ++ argument ++ "'"

end Fault

end MailboxControl
