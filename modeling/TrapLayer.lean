import TrapLayer.Boot
import TrapLayer.Bytes
import TrapLayer.Console
import TrapLayer.Csr
import TrapLayer.Debugger
import TrapLayer.Dispatch
import TrapLayer.Frame.Debug
import TrapLayer.Frame.Exception
import TrapLayer.Frame.Float
import TrapLayer.Frame.Register
import TrapLayer.Frame.Switch
import TrapLayer.Hardware
import TrapLayer.Ident
import TrapLayer.Machine
import TrapLayer.Paging.Entry
import TrapLayer.Paging.Geometry
import TrapLayer.Paging.Refill
import TrapLayer.Paging.Walk
import TrapLayer.Proofs.Boot.BringUp
import TrapLayer.Proofs.Boot.Refused
import TrapLayer.Proofs.Debug.ExportImport
import TrapLayer.Proofs.Debug.History
import TrapLayer.Proofs.Debug.Quiet
import TrapLayer.Proofs.Debug.RegisterWrite
import TrapLayer.Proofs.Debug.Resumption
import TrapLayer.Proofs.Debug.Shadow
import TrapLayer.Proofs.Hardware
import TrapLayer.Proofs.Image.Extent
import TrapLayer.Proofs.Image.Registers
import TrapLayer.Proofs.Image.SignalFrame
import TrapLayer.Proofs.Machine
import TrapLayer.Proofs.Paging.ByteAccess
import TrapLayer.Proofs.Paging.Gap
import TrapLayer.Proofs.Paging.HardwareWalk
import TrapLayer.Proofs.Paging.LoadedBits
import TrapLayer.Proofs.Paging.Misses
import TrapLayer.Proofs.Paging.Refill
import TrapLayer.Proofs.RegisteredCall
import TrapLayer.Proofs.Signal.AltStack
import TrapLayer.Proofs.Signal.Chain
import TrapLayer.Proofs.Signal.CheckedDelivery
import TrapLayer.Proofs.Signal.Codec
import TrapLayer.Proofs.Signal.ControlRegister
import TrapLayer.Proofs.Signal.Delivery
import TrapLayer.Proofs.Signal.GapFree
import TrapLayer.Proofs.Signal.Grammar
import TrapLayer.Proofs.Signal.KillAndStop
import TrapLayer.Proofs.Signal.Layout
import TrapLayer.Proofs.Signal.LowestFirst
import TrapLayer.Proofs.Signal.Nesting
import TrapLayer.Proofs.Signal.Pass
import TrapLayer.Proofs.Signal.Pending
import TrapLayer.Proofs.Signal.Return
import TrapLayer.Proofs.Signal.RoundTrip
import TrapLayer.Proofs.Signal.Units
import TrapLayer.Proofs.Signal.Work
import TrapLayer.Proofs.Signal.WrittenChain
import TrapLayer.Proofs.StoppedCall
import TrapLayer.Proofs.SyscallRestart
import TrapLayer.Proofs.TaskTable
import TrapLayer.Proofs.Trap.Balance
import TrapLayer.Proofs.Trap.Claims
import TrapLayer.Proofs.Trap.Diagnostics
import TrapLayer.Proofs.Trap.Drain
import TrapLayer.Proofs.Trap.Handlers
import TrapLayer.Proofs.Trap.KernelMode
import TrapLayer.Proofs.Trap.LogLines
import TrapLayer.Proofs.Trap.Recent
import TrapLayer.Proofs.Trap.Slots
import TrapLayer.Proofs.Trap.Transparent
import TrapLayer.Proofs.Trap.Verdict
import TrapLayer.Proofs.UnhandledCall
import TrapLayer.Proofs.Word
import TrapLayer.Signal.Action
import TrapLayer.Signal.Chain
import TrapLayer.Signal.Checked
import TrapLayer.Signal.Deliver
import TrapLayer.Signal.Image
import TrapLayer.Signal.Pass
import TrapLayer.Signal.Record
import TrapLayer.Signal.Return
import TrapLayer.Signal.Set
import TrapLayer.Syscall
import TrapLayer.Task
import TrapLayer.Testbed.Basic
import TrapLayer.Testbed.Script
import TrapLayer.Testbed.TableBuilder
import TrapLayer.Trap.Cause
import TrapLayer.Trap.Cpu
import TrapLayer.Trap.Report
import TrapLayer.Word
