import TapeMachine.CommandLine.Checker
import TapeMachine.Input.Reader
import TapeMachine.Main
import TapeMachine.Proofs.Config.Layers
import TapeMachine.Proofs.Input.Exchange
import TapeMachine.Proofs.Input.Handoff
import TapeMachine.Proofs.Lint.FlatScan
import TapeMachine.Proofs.Machine.CancelledTail
import TapeMachine.Proofs.Machine.Debugger
import TapeMachine.Proofs.Machine.Dump
import TapeMachine.Proofs.Machine.EmptyLoop
import TapeMachine.Proofs.Machine.FlatRefinement
import TapeMachine.Proofs.Machine.Intake
import TapeMachine.Proofs.Machine.LimitedSink
import TapeMachine.Proofs.Machine.LongerTape
import TapeMachine.Proofs.Machine.Memory
import TapeMachine.Proofs.Machine.Shedding
import TapeMachine.Proofs.Machine.Statistics
import TapeMachine.Proofs.Machine.Stop
import TapeMachine.Proofs.Machine.Trimming
import TapeMachine.Proofs.Program.Mismatch
import TapeMachine.Proofs.Sample.Echo
