import MailboxControl.Request

/-! What the daemon said about one command, and the views of it: success, phrase, exit code, summary
and the error of a caller that wants success. -/

namespace MailboxControl

/-- The phrase of a raw status. Codes that the client does not know share one phrase. -/
def Value.phrase (status : Value) : String :=
  match status.toStatus? with
  | some s => s.phrase
  | none => Status.unknownPhrase

def Value.isSuccess (status : Value) : Bool := status.same (.int Status.success.number)

/-- The label of an access state; other data has none. -/
def Value.label : Value → Except Fault String
  | .code (.state s) => .ok s.label
  | v => .error (.noFeature v.kind "label")

structure Verdict where
  operation : String
  status : Value
  state : Value := .null

/-- A verdict as it is handed to other programs. -/
structure Summary where
  operation : String
  status : Value
  message : String
  state : Option String

namespace Verdict

def ok (v : Verdict) : Bool := v.status.isSuccess

def message (v : Verdict) : String := v.status.phrase

def exitCode (v : Verdict) : Except Fault Number := v.status.negated

/-- The verdict itself if it is a success, otherwise the daemon's error. -/
def accept (v : Verdict) : Except Failure Verdict :=
  if v.ok then .ok v else .error (.daemon (.text v.operation) v.status (.text v.message))

/-- The summary has a label if there is a state. -/
def summary (v : Verdict) : Except Fault Summary :=
  match v.state with
  | .null => .ok ⟨v.operation, v.status, v.message, none⟩
  | state => state.label.map fun label => ⟨v.operation, v.status, v.message, some label⟩

end Verdict

end MailboxControl
