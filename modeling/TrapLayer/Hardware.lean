import TrapLayer.Bytes
import TrapLayer.Csr
import TrapLayer.Frame.Float
import TrapLayer.Paging.Walk
import TrapLayer.Syscall
import TrapLayer.Trap.Cpu
import TrapLayer.Trap.Report

/-!
# Hardware and the trace of effects

What the trap layer reaches outside itself: control registers, table pages, memory, the live
floating-point registers and the debug registers. Everything it asks of the hardware, the
scheduler, the interrupt controller and the console is written to a trace, oldest first, so that
"exactly one refill" or "no line was logged" are statements about lists.
-/
namespace TrapLayer

/-- One hardware watchpoint. -/
structure Watchpoint where
  addr : UInt64
  mask : UInt64
  ctrl : UInt64
  deriving DecidableEq, Repr

namespace Watchpoint

def off : Watchpoint := ⟨0, 0, 0⟩

/-- Watchpoints of each kind. -/
abbrev count : Nat := 8

end Watchpoint

/-- Watchpoint and single-step registers. -/
structure DebugRegs where
  inst : Vector Watchpoint 8
  data : Vector Watchpoint 8
  singleStep : Bool
  deriving DecidableEq

def DebugRegs.off : DebugRegs := ⟨Vector.replicate 8 .off, Vector.replicate 8 .off, false⟩

/-- Something asked of the world outside, or seen by a handler while it ran. -/
inductive Effect
  | csrWrite (csr : Csr) (value : UInt64)
  /-- Every entry of the translation buffer was dropped. -/
  | tlbFlush
  /-- An even and an odd entry were loaded for a pair of pages. -/
  | tlbFill (va lo0 lo1 : UInt64) (pageShift : Nat)
  | codeWrite (addr : UInt64) (code : Bytes)
  | icacheFlush (addr : UInt64) (len : Nat)
  | tableRead (read : TableRead)
  | userWrite (addr : UInt64) (bytes : Bytes)
  | userRead (addr : UInt64) (len : Nat)
  | fpSave (bank : FpBank)
  | fpRestore (bank : FpBank)
  | lbtSave
  | lbtRestore
  | debugWrite (regs : DebugRegs)
  /-- The scheduler was asked for a switch. -/
  | reschedule
  /-- The scheduler was told that the task entered the kernel. -/
  | enterKernel (task : TaskId)
  /-- The scheduler was told that the task is about to run in user mode. -/
  | enterUser (task : TaskId)
  /-- The scheduler was told that the task must not be resumed. -/
  | taskExited (task : TaskId)
  /-- An interrupt was claimed from the controller. -/
  | irqClaim (source : CpuId) (irq : IrqId)
  /-- A claimed interrupt was given back to the controller. -/
  | irqDone (irq : IrqId) (source : CpuId)
  /-- The dispatcher of a core moved to another state. -/
  | transition (cpu : CpuId) (slot : CpuSlot)
  | logged (line : LogLine)
  /-- A syscall handler started; `framed` says that its first argument is the address of the
  frame. -/
  | syscallRun (name : String) (framed : Bool) (args : SyscallArgs) (crmd : UInt64)
  /-- An interrupt handler started. -/
  | irqRun (irq : IrqId) (cpu : CpuId) (slot : CpuSlot)
  /-- A trap was taken inside a handler. -/
  | nestedBegin
  | nestedEnd (outcome : TrapOutcome) (frame : ExceptionFrame) (slot : CpuSlot)
  deriving DecidableEq

structure Hardware where
  geometry : Geometry
  features : Features
  csrs : CsrFile
  tables : PageTables
  memory : Memory
  /-- The live floating-point, vector and binary-translation registers. -/
  fp : FpState
  debugRegs : DebugRegs
  /-- What happened, newest first. -/
  history : List Effect

namespace Hardware

/-- What happened, oldest first. -/
def trace (hw : Hardware) : List Effect := hw.history.reverse

def emit (hw : Hardware) (e : Effect) : Hardware := { hw with history := e :: hw.history }

/-- How many effects there were so far. -/
def mark (hw : Hardware) : Nat := hw.history.length

/-- The effects after the first `mark`, oldest first. -/
def since (hw : Hardware) (mark : Nat) : List Effect :=
  (hw.history.take (hw.mark - mark)).reverse

def log (hw : Hardware) (level : LogLevel) (target text : String) : Hardware :=
  hw.emit (.logged ⟨level, target, text⟩)

/-- The lines a console that captures the trace holds. -/
def console (hw : Hardware) : LogCapture :=
  .ofHistory (hw.trace.filterMap fun e => match e with | .logged line => some line | _ => none)

/-! ## Control registers and the translation buffer -/

def readCsr (hw : Hardware) (c : Csr) : UInt64 := hw.csrs.read c

def writeCsr (hw : Hardware) (c : Csr) (v : UInt64) : Hardware :=
  { hw with csrs := hw.csrs.write c v }.emit (.csrWrite c v)

def flushTlb (hw : Hardware) : Hardware := hw.emit .tlbFlush

def fillTlb (hw : Hardware) (va lo0 lo1 : UInt64) (pageShift : Nat) : Hardware :=
  hw.emit (.tlbFill va lo0 lo1 pageShift)

/-! ## Code -/

def writeCode (hw : Hardware) (addr : UInt64) (code : Bytes) : Hardware :=
  hw.emit (.codeWrite addr code)

def flushIcache (hw : Hardware) (addr : UInt64) (len : Nat) : Hardware :=
  hw.emit (.icacheFlush addr len)

/-! ## Table pages and memory -/

/-- Notes the table entries that a walk or a range check read, given newest first. -/
def noteReads (hw : Hardware) (reads : List TableRead) : Hardware :=
  { hw with history := reads.map .tableRead ++ hw.history }

/-- Walks the live tables from `root`. -/
def walk (hw : Hardware) (root va : UInt64) : Except WalkError Leaf × Hardware :=
  let w := hw.geometry.walk hw.tables root va
  (w.result, hw.noteReads w.reads.reverse)

/-- Checks `[addr, addr + len)` in the current lower half. -/
def checkUser (hw : Hardware) (addr : UInt64) (len : Nat) (access : Access) : Bool × Hardware :=
  let c := hw.geometry.checkUser hw.tables (hw.readCsr .pgdl) addr len access
  (c.granted, hw.noteReads c.reads)

/-- Checks `[addr, addr + len)` in the current upper half. -/
def checkKernel (hw : Hardware) (addr : UInt64) (len : Nat) (access : Access) : Bool × Hardware :=
  let c := hw.geometry.checkKernel hw.tables (hw.readCsr .pgdh) addr len access
  (c.granted, hw.noteReads c.reads)

/-- Writes to an address that a range check has accepted. -/
def writeUser (hw : Hardware) (addr : UInt64) (bytes : Bytes) : Hardware :=
  { hw with memory := hw.memory.write addr bytes }.emit (.userWrite addr bytes)

/-- Reads from an address that a range check has accepted. -/
def readUser (hw : Hardware) (addr : UInt64) (len : Nat) : Bytes × Hardware :=
  (hw.memory.read addr len, hw.emit (.userRead addr len))

/-! ## Register banks and debug registers -/

/-- Saves the live registers of a bank over `state`. -/
def saveFp (hw : Hardware) (bank : FpBank) (state : FpState) : FpState × Hardware :=
  (.moveBank bank hw.fp state, hw.emit (.fpSave bank))

/-- Loads the live registers of a bank from `state`. -/
def restoreFp (hw : Hardware) (bank : FpBank) (state : FpState) : Hardware :=
  { hw with fp := .moveBank bank state hw.fp }.emit (.fpRestore bank)

def saveLbt (hw : Hardware) (state : FpState) : FpState × Hardware :=
  (.moveLbt hw.fp state, hw.emit .lbtSave)

def restoreLbt (hw : Hardware) (state : FpState) : Hardware :=
  { hw with fp := .moveLbt state hw.fp }.emit .lbtRestore

def writeDebugRegs (hw : Hardware) (regs : DebugRegs) : Hardware :=
  { hw with debugRegs := regs }.emit (.debugWrite regs)

end Hardware

/-! ## Copies to and from user memory

A copy checks its whole range first and touches memory only when every page of it grants the
access.
-/

/-- Why nothing was copied. -/
inductive CopyError
  | fault (addr : UInt64) (len : Nat)
  deriving DecidableEq, Repr

def CopyError.message : CopyError → String
  | fault addr len =>
    "Fault \x7b addr: " ++ toString addr ++ ", len: " ++ toString len ++ " \x7d"

namespace Hardware

def copyToUser (hw : Hardware) (addr : UInt64) (bytes : Bytes) : Except CopyError Unit × Hardware :=
  let c := hw.checkUser addr bytes.length .write
  if c.1 then (.ok (), c.2.writeUser addr bytes) else (.error (.fault addr bytes.length), c.2)

def copyFromUser (hw : Hardware) (addr : UInt64) (len : Nat) : Except CopyError Bytes × Hardware :=
  let c := hw.checkUser addr len .read
  if c.1 then
    let r := c.2.readUser addr len
    (.ok r.1, r.2)
  else (.error (.fault addr len), c.2)

end Hardware

end TrapLayer
