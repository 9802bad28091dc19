/-! Status codes of the daemon with their operator-facing phrases, and the access state that a
status reply carries. -/

namespace MailboxControl

inductive Status where
  | success
  | internalError
  | invalidRequest
  | rejected
  | hardwareError
deriving DecidableEq, Repr

/-- Whether the daemon itself uses flash or leaves it to the host. -/
inductive AccessState where
  | active
  | suspended
deriving DecidableEq, Repr

namespace Status

def all : List Status := [success, internalError, invalidRequest, rejected, hardwareError]

def number : Status → Nat
  | success => 0
  | internalError => 1
  | invalidRequest => 2
  | rejected => 3
  | hardwareError => 4

def name : Status → String
  | success => "SUCCESS"
  | internalError => "INTERNAL_ERROR"
  | invalidRequest => "INVALID_REQUEST"
  | rejected => "REJECTED"
  | hardwareError => "HARDWARE_ERROR"

def phrase : Status → String
  | success => "Success"
  | internalError => "Failed - Internal Error"
  | invalidRequest => "Failed - Invalid Command or Request"
  | rejected => "Failed - Request Rejected by Daemon"
  | hardwareError => "Failed - BMC Hardware Error"

/-- The phrase of every code the client does not know. -/
def unknownPhrase : String := "Failed - Unknown Error"

theorem phrase_injective {s t : Status} (h : s.phrase = t.phrase) : s = t := by
  cases s <;> cases t <;> first | rfl | exact absurd h (by decide)

theorem phrase_ne_unknownPhrase (s : Status) : s.phrase ≠ unknownPhrase := by
  cases s <;> decide

end Status

namespace AccessState

def all : List AccessState := [active, suspended]

def number : AccessState → Nat
  | active => 0
  | suspended => 1

def name : AccessState → String
  | active => "ACTIVE"
  | suspended => "SUSPENDED"

def label : AccessState → String
  | active => "Active"
  | suspended => "Suspended"

end AccessState

end MailboxControl
