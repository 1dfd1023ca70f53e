import DpllWatch.Bytes.Value
import DpllWatch.Link.Script
import DpllWatch.Main
import DpllWatch.Monitor.Snapshot
import DpllWatch.Subscriptions.Delivery
import DpllWatch.Proofs.Monitor.Decision
import DpllWatch.Proofs.Monitor.Step
import DpllWatch.Proofs.Monitor.Safety
import DpllWatch.Proofs.Monitor.Offset
import DpllWatch.Proofs.Monitor.BoundedHoldover
import DpllWatch.Proofs.Outage
import DpllWatch.Proofs.Monitor.Episodes
import DpllWatch.Proofs.Monitor.Recovery
import DpllWatch.Proofs.Monitor.Rearming
import DpllWatch.Proofs.Monitor.Teardown
import DpllWatch.Proofs.Monitor.Reporting
import DpllWatch.Proofs.Link.Step
import DpllWatch.Proofs.Link.Custody
import DpllWatch.Proofs.Link.Stopping
import DpllWatch.Proofs.Node.Move
import DpllWatch.Proofs.Node.Tracking
import DpllWatch.Proofs.Text.Utf8
import DpllWatch.Proofs.Netlink.Framing
import DpllWatch.Proofs.Netlink.Devices
import DpllWatch.Proofs.Netlink.Checked
import DpllWatch.Proofs.Monitor.Repeats
import DpllWatch.Proofs.Node.Seat
import DpllWatch.Proofs.Node.Acting
import DpllWatch.Proofs.Node.Publishing
import DpllWatch.Proofs.Node.Operations
import DpllWatch.Proofs.Node.Sharing
import DpllWatch.Proofs.Netlink.Dumps
import DpllWatch.Proofs.Netlink.Families
import DpllWatch.Proofs.Monitor.Reassertion
import DpllWatch.Proofs.Countdown.Calls
import DpllWatch.Proofs.SerialNumber
import DpllWatch.Proofs.Text.Decimal
import DpllWatch.Proofs.Settings.Reading
import DpllWatch.Proofs.Settings.Configuring
import DpllWatch.Proofs.Netlink.Sifting
import DpllWatch.Proofs.Netlink.Records
import DpllWatch.Proofs.Monitor.Attribution
import DpllWatch.Proofs.SourceStates
import DpllWatch.Proofs.Link.Redialing
import DpllWatch.Proofs.Monitor.Unbound
import DpllWatch.Proofs.Subscriptions.Delivering
import DpllWatch.Proofs.Documents
