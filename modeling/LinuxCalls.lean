import LinuxCalls.MappedRange
import LinuxCalls.SignalMask
import LinuxCalls.Session.Run
import LinuxCalls.Writer
import LinuxCalls.Main
import LinuxCalls.Proofs.Run
import LinuxCalls.Proofs.Stream.Account
import LinuxCalls.Proofs.Stream.Recorded
import LinuxCalls.Proofs.Stream.Writing
import LinuxCalls.Proofs.Stream.WriterBalance
import LinuxCalls.Proofs.Stream.Reading
import LinuxCalls.Proofs.Stream.ReaderBalance
import LinuxCalls.Proofs.Stream.CursorDevice
import LinuxCalls.Proofs.Stream.Chunking
import LinuxCalls.Proofs.Log.Alike
import LinuxCalls.Proofs.Log.Transparent
import LinuxCalls.Proofs.Log.Telling
import LinuxCalls.Proofs.Log.Calls
import LinuxCalls.Proofs.Log.Streams
import LinuxCalls.Proofs.Log.Slots
import LinuxCalls.Proofs.Log.Steps
import LinuxCalls.Proofs.Log.Transparency
import LinuxCalls.Proofs.Log.Reentry
import LinuxCalls.Proofs.Calls.Own
import LinuxCalls.Proofs.Calls.Trace
import LinuxCalls.Proofs.Calls.Policy
import LinuxCalls.Proofs.Calls.Reports
import LinuxCalls.Proofs.Calls.Wrappers
import LinuxCalls.Proofs.Calls.Streams
import LinuxCalls.Proofs.Calls.Devices
import LinuxCalls.Proofs.Stream.WriterEnd
import LinuxCalls.Proofs.Calls.Endings
import LinuxCalls.Proofs.Calls.Causes
import LinuxCalls.Proofs.Calls.Errors
import LinuxCalls.Proofs.Ownership.Balance
import LinuxCalls.Proofs.Ownership.Slots
import LinuxCalls.Proofs.Ownership.Custody
import LinuxCalls.Proofs.Ownership.Settling
import LinuxCalls.Proofs.Ownership.Confined
import LinuxCalls.Proofs.Ownership.Steps
import LinuxCalls.Proofs.Ownership.StreamSteps
import LinuxCalls.Proofs.Ownership.Lives
import LinuxCalls.Proofs.Ownership.Ledger
import LinuxCalls.Proofs.Stream.CursorRoundTrip
import LinuxCalls.Proofs.Calls.ReservedSignals
import LinuxCalls.Proofs.Log.Lines
import LinuxCalls.Proofs.Log.Delivery
import LinuxCalls.Proofs.Log.Entries
import LinuxCalls.Proofs.Log.Transcript
import LinuxCalls.Proofs.Probe.Calls
import LinuxCalls.Proofs.Probe.Streams
import LinuxCalls.Proofs.Calls.Rows
import LinuxCalls.Proofs.Probe.Plan
import LinuxCalls.Proofs.Probe.Tasks
import LinuxCalls.Proofs.Probe.Transfers
import LinuxCalls.Proofs.Probe.Progress
import LinuxCalls.Proofs.Probe.Reports
import LinuxCalls.Proofs.Probe.Steps
import LinuxCalls.Proofs.Mapping.BoundedArray
import LinuxCalls.Proofs.Stream.Interruption
import LinuxCalls.Proofs.Strings.Layout
import LinuxCalls.Proofs.Strings.Passing
import LinuxCalls.Proofs.Mapping.Calls
import LinuxCalls.Proofs.Mapping.Custody
import LinuxCalls.Proofs.Mapping.Shelving
import LinuxCalls.Proofs.Mapping.Steps
import LinuxCalls.Proofs.Mapping.StreamSteps
import LinuxCalls.Proofs.Mapping.Ledger
import LinuxCalls.Proofs.Stream.DescriptorDevice
import LinuxCalls.Proofs.Stream.Resumption
import LinuxCalls.Proofs.Stream.Pushing
import LinuxCalls.Proofs.Stream.ShortWrites
import LinuxCalls.Proofs.Stream.WriterRestraint
import LinuxCalls.Proofs.Log.Rounds
import LinuxCalls.Proofs.Log.WholeLine
import LinuxCalls.Proofs.Calls.SignalMembers
import LinuxCalls.Proofs.Stream.FormattedWrites
import LinuxCalls.Proofs.Stream.ReaderAsks
import LinuxCalls.Proofs.Stream.ReaderEconomy
import LinuxCalls.Proofs.Log.FirstInterruption
import LinuxCalls.Proofs.Log.LastComplaint
import LinuxCalls.Proofs.Calls.ReturnWords
import LinuxCalls.Proofs.Calls.Replies
import LinuxCalls.Proofs.Layout.Fields
import LinuxCalls.Proofs.Layout.Buffers
import LinuxCalls.Proofs.Layout.ChildChanges
import LinuxCalls.Proofs.Calls.NewProcesses
import LinuxCalls.Proofs.Log.ProcessRecords
import LinuxCalls.Proofs.Ownership.Acquiring
