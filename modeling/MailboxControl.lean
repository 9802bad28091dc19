import MailboxControl.Step
import MailboxControl.Tool
import MailboxControl.Main
import MailboxControl.Proofs.Lifecycle
import MailboxControl.Proofs.CommandLine.Events
import MailboxControl.Proofs.CommandLine.View
import MailboxControl.Proofs.CommandLine.Ending
import MailboxControl.Proofs.Codec
import MailboxControl.Proofs.Remainder
import MailboxControl.Proofs.Use
import MailboxControl.Proofs.Request
import MailboxControl.Proofs.Tool
import MailboxControl.Proofs.Agreement
import MailboxControl.Proofs.Cause
import MailboxControl.Proofs.Delivery
import MailboxControl.Proofs.Reply
import MailboxControl.Proofs.Resume
import MailboxControl.Proofs.Closing
import MailboxControl.Proofs.Posting
import MailboxControl.Proofs.Verdict
import MailboxControl.Proofs.CommandLine.Options
import MailboxControl.Proofs.CommandLine.Verbose
import MailboxControl.Proofs.Audit
import MailboxControl.Proofs.Success
import MailboxControl.Proofs.Shape
