import TapeDebugger.Session.Command
import TapeDebugger.Snapshot
import TapeDebugger.Main
import TapeDebugger.Proofs.Machine.Runs
import TapeDebugger.Proofs.Machine.LoopStack
import TapeDebugger.Proofs.Program.Balance
import TapeDebugger.Proofs.Machine.Faults
import TapeDebugger.Proofs.Structured.Block
import TapeDebugger.Proofs.Structured.Meaning
import TapeDebugger.Proofs.Structured.Simulation
import TapeDebugger.Proofs.Machine.Stretches
import TapeDebugger.Proofs.Session.Interleaving
import TapeDebugger.Proofs.Machine.Stops
import TapeDebugger.Proofs.Observers
import TapeDebugger.Proofs.Session.Effects
import TapeDebugger.Proofs.Session.TimedRuns
import TapeDebugger.Proofs.Session.Coherence
import TapeDebugger.Proofs.Session.Ledger
import TapeDebugger.Proofs.Program.Selection
import TapeDebugger.Proofs.Machine.Comments
import TapeDebugger.Proofs.Debugger.Signals
import TapeDebugger.Proofs.Debugger.Faultless
import TapeDebugger.Proofs.CommandLine.HeadlessRuns
import TapeDebugger.Proofs.Machine.Rest
import TapeDebugger.Proofs.Machine.Lockstep
import TapeDebugger.Proofs.Machine.Recurrence
import TapeDebugger.Proofs.Machine.Safety
import TapeDebugger.Proofs.Session.Safety
import TapeDebugger.Proofs.Machine.Markers
import TapeDebugger.Proofs.Program.Grammar
import TapeDebugger.Proofs.Session.Ticks
import TapeDebugger.Proofs.Delivery
import TapeDebugger.Proofs.Session.FreshRuns
import TapeDebugger.Proofs.Program.Nesting
import TapeDebugger.Proofs.Machine.Bursts
import TapeDebugger.Proofs.Session.StepsAtOnce
import TapeDebugger.Proofs.Machine.Transcript
import TapeDebugger.Proofs.Debugger.KeyMap
import TapeDebugger.Proofs.Debugger.Looking
import TapeDebugger.Proofs.Pane.Typesetting
import TapeDebugger.Proofs.Pane.ProgramScroll
import TapeDebugger.Proofs.Pane.MemoryDump
import TapeDebugger.Proofs.Machine.Progress
import TapeDebugger.Proofs.Pane.DumpWindow
import TapeDebugger.Proofs.Pane.OutputWindow
