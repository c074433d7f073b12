import LogicCapture.Main
import LogicCapture.Usb.Bench.Fault
import LogicCapture.Usb.HostStack.Script
import LogicCapture.Usb.Recorder
import LogicCapture.Proofs.Analyzer.Run
import LogicCapture.Proofs.Analyzer.Agreement
import LogicCapture.Proofs.Analyzer.Watch
import LogicCapture.Proofs.Bench.Drain
import LogicCapture.Proofs.Analyzer.Ledger
import LogicCapture.Proofs.Stream.Flow
import LogicCapture.Proofs.Stream.Loss
import LogicCapture.Proofs.Analyzer.Cancel
import LogicCapture.Proofs.Session.Calm
import LogicCapture.Proofs.Analyzer.Recovery
import LogicCapture.Proofs.Link.Loss
import LogicCapture.Proofs.Stream.Leak
import LogicCapture.Proofs.Analyzer.Deeds
import LogicCapture.Proofs.Analyzer.Sends
import LogicCapture.Proofs.Analyzer.CommandOrder
import LogicCapture.Proofs.Analyzer.Phases
import LogicCapture.Proofs.Analyzer.Spared
import LogicCapture.Proofs.Analyzer.Aim
import LogicCapture.Proofs.Analyzer.Coherent
import LogicCapture.Proofs.Link.Attested
import LogicCapture.Proofs.Link.Replies
import LogicCapture.Proofs.Link.Converse
import LogicCapture.Proofs.Link.Halts
import LogicCapture.Proofs.Link.Returns
import LogicCapture.Proofs.Capture.Ends
import LogicCapture.Proofs.Wire.Layout
import LogicCapture.Proofs.Configuration.RoundTrip
import LogicCapture.Proofs.Session.Scripted
import LogicCapture.Proofs.Analyzer.Starting
import LogicCapture.Proofs.Capture.Settings
import LogicCapture.Proofs.CommandLine.Effective
import LogicCapture.Proofs.Session.Transcript
import LogicCapture.Proofs.Session.Conduct
import LogicCapture.Proofs.Session.Framing
import LogicCapture.Proofs.Analyzer.Stopping
import LogicCapture.Proofs.Analyzer.Configuring
import LogicCapture.Proofs.Stream.Clones
import LogicCapture.Proofs.Sink.Report
import LogicCapture.Proofs.Pool.Allocation
import LogicCapture.Proofs.Analyzer.Identity
import LogicCapture.Proofs.Link.Timeouts
import LogicCapture.Proofs.Link.Bounds
