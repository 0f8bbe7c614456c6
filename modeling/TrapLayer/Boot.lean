import TrapLayer.Dispatch

/-!
# Bring-up and trap entry

The kernel is registered once; from then on each core sets up its vectors and its page walker, and
the entry stubs hand the frames they pushed to the dispatcher. A core without a per-core slot, and
a trap that cannot be survived, stop the core that is running. The arena of the kernel heap is
handed over once as well.
-/
namespace TrapLayer

/-! ## The page walker

The hardware walker of a core is programmed with the page size, the shape of the tables, both
roots, an empty translation buffer, and the physical address of the refill handler. The boot core
also installs the refill handler, once for the whole system. A core is set up at most once.
-/

/-- Root tables of the upper and the lower half. -/
structure Roots where
  kernel : UInt64
  user : UInt64
  deriving DecidableEq, Repr

/-- Why a core was not set up. -/
inductive SetupError
  | alreadyConfigured (cpu : CpuId)
  /-- The refill handler does not fit its slot. -/
  | refillBlockTooLarge (size : Nat)
  deriving DecidableEq, Repr

def SetupError.message : SetupError → String
  | alreadyConfigured cpu => "AlreadyConfigured(" ++ cpu.text ++ ")"
  | refillBlockTooLarge size => "RefillBlockTooLarge(" ++ toString size ++ ")"

/-- Bytes kept for the refill handler. -/
def refillBlockSize : Nat := 0x80

/-- Vector slot of the refill handler. -/
def refillVector : Nat := 80

/-- Address of the refill handler of the vector table at `eentry`. -/
def refillAddress (eentry : UInt64) : UInt64 := eentry + UInt64.ofNat (refillVector * vectorSize)

def refillAddressChecked (eentry : UInt64) : Checked UInt64 :=
  Checked.add eentry (UInt64.ofNat (refillVector * vectorSize))

/-- The physical address behind a direct-mapped one: its low 48 bits. -/
def physical (addr : UInt64) : UInt64 := addr % 0x1000000000000

/-- Page size field of the refill entry register: bits 5 to 0. -/
def refillPageSize : UInt64 := 0x3f

/-- Page size field of the index register: bits 29 to 24. -/
def indexPageSize : UInt64 := 0x3f000000

namespace Hardware

/-- Writes the fields of the page size, leaving the bits around them alone. -/
def writePageSize (hw : Hardware) : Hardware :=
  let ps := UInt64.ofNat hw.geometry.pageShift
  let hw := hw.writeCsr .stlbps ps
  let hw := hw.writeCsr .tlbrEhi ((hw.readCsr .tlbrEhi &&& ~~~ refillPageSize) ||| ps)
  hw.writeCsr .tlbIdx ((hw.readCsr .tlbIdx &&& ~~~ indexPageSize) ||| (ps <<< 24))

/-- Writes the shape of the tables and their roots, and empties the translation buffer. -/
def writeRoots (hw : Hardware) (roots : Roots) : Hardware :=
  let hw := hw.writeCsr .pwctl0 hw.geometry.walkControlLow
  let hw := hw.writeCsr .pwctl1 hw.geometry.walkControlHigh
  let hw := hw.writeCsr .pgdh roots.kernel
  let hw := hw.writeCsr .pgdl roots.user
  hw.flushTlb

/-- Programs the walker of a core for the vector table at `eentry`. The refill handler runs with
translation off, so its address is a physical one. -/
def programWalker (hw : Hardware) (cpu : CpuId) (roots : Roots) (eentry : UInt64) : Hardware :=
  let hw := hw.writePageSize.writeRoots roots
  let hw := hw.writeCsr .tmid (UInt64.ofNat cpu.index.val)
  hw.writeCsr .tlbrEntry (physical (refillAddress eentry))

/-- Installs the refill handler of the vector table at `eentry`. -/
def installRefill (hw : Hardware) (eentry : UInt64) (code : Bytes) : Hardware :=
  (hw.writeCode (refillAddress eentry) code).flushIcache (refillAddress eentry) refillBlockSize

end Hardware

/-- The hardware after a setup, and whether the refill handler is installed. -/
structure WalkerSetup where
  hw : Hardware
  refillInstalled : Bool

/-- Sets up the page walker of a core whose state is `state`. -/
def setUpWalker (hw : Hardware) (refillInstalled : Bool) (cpu : CpuId) (state : WalkerState)
    (roots : Roots) (eentry : UInt64) (code : Bytes) : Except SetupError WalkerSetup :=
  if state = .configured then .error (.alreadyConfigured cpu)
  else if refillBlockSize < code.length then .error (.refillBlockTooLarge code.length)
  else
    let hw := hw.programWalker cpu roots eentry
    if cpu.isBoot && !refillInstalled then .ok ⟨hw.installRefill eentry code, true⟩
    else .ok ⟨hw, refillInstalled⟩

/-- Sets up the page walker of a core, or stops at the address of the refill handler. -/
def setUpWalkerChecked (hw : Hardware) (refillInstalled : Bool) (cpu : CpuId) (state : WalkerState)
    (roots : Roots) (eentry : UInt64) (code : Bytes) :
    Checked (Except SetupError WalkerSetup) := do
  if state = .configured then return .error (.alreadyConfigured cpu)
  else if refillBlockSize < code.length then return .error (.refillBlockTooLarge code.length)
  else
    let _refill ← refillAddressChecked eentry
    return setUpWalker hw refillInstalled cpu state roots eentry code

/-! ## The exception vector table

Where the core enters on a trap. The table is page aligned; its slots hold `2 ^ n` instructions,
and `n` is a field of the configuration register, next to the enabled interrupt lines.
-/

/-- Why the vector table refused an address, a slot or a handler. -/
inductive VectorError
  | misaligned (eentry : UInt64)
  | noSuchVector (vector : Nat)
  /-- The handler is larger than a slot. -/
  | tooLarge (size : Nat)
  deriving DecidableEq, Repr

def VectorError.message : VectorError → String
  | misaligned eentry => "Misaligned(" ++ toString eentry ++ ")"
  | noSuchVector vector => "NoSuchVector(" ++ toString vector ++ ")"
  | tooLarge size => "TooLarge(" ++ toString size ++ ")"

namespace VectorTable

/-- Slots below the one of the refill handler. -/
def slots : Nat := refillVector

/-- The table is aligned to this many bytes. -/
def align : UInt64 := 0x1000

/-- The spacing field for slots of `size` bytes. -/
def spacing (size : UInt64) : Nat := (lowestBit? (size / 4)).getD 64

/-- Position of the spacing field of the configuration register, bits 18 to 16. -/
def spacingShift : UInt64 := 16

def spacingMask : UInt64 := 0x70000

/-- Enabled interrupt lines of the configuration register: bits 12 to 0. -/
def lineMask : UInt64 := 0x1fff

/-- The configuration register with both of its fields written and the bits of `old` around them. -/
def config (old lines : UInt64) : UInt64 :=
  let field := UInt64.ofNat (spacing (UInt64.ofNat vectorSize)) <<< spacingShift
  (old &&& ~~~ (spacingMask ||| lineMask)) ||| field ||| (lines &&& lineMask)

/-- Points the core at the table at `eentry` and enables the interrupt lines of `lines`. -/
def install (hw : Hardware) (eentry lines : UInt64) : Except VectorError Hardware :=
  if eentry % align ≠ 0 then .error (.misaligned eentry)
  else .ok ((hw.writeCsr .ecfg (config (hw.readCsr .ecfg) lines)).writeCsr .eentry eentry)

/-- Copies a handler into a slot of the table at `eentry` and gives its address. -/
def setHandler (hw : Hardware) (eentry : UInt64) (vector : Nat) (code : Bytes) :
    Except VectorError (UInt64 × Hardware) :=
  if slots ≤ vector then .error (.noSuchVector vector)
  else if vectorSize < code.length then .error (.tooLarge code.length)
  else
    let slot := eentry + UInt64.ofNat (vector * vectorSize)
    .ok (slot, (hw.writeCode slot code).flushIcache slot vectorSize)

/-- Copies a handler into a slot, or stops at the address of the slot. -/
def setHandlerChecked (hw : Hardware) (eentry : UInt64) (vector : Nat) (code : Bytes) :
    Checked (Except VectorError (UInt64 × Hardware)) := do
  if slots ≤ vector then return .error (.noSuchVector vector)
  else if vectorSize < code.length then return .error (.tooLarge code.length)
  else
    let slot ← Checked.add eentry (UInt64.ofNat (vector * vectorSize))
    return .ok (slot, (hw.writeCode slot code).flushIcache slot vectorSize)

end VectorTable

/-! ## The kernel heap

The arena behind boot-time allocations is handed to the allocator once; later calls change
nothing. While nothing is allocated all of it is free.
-/

/-- Bytes of the arena. -/
def heapSize : Nat := 512 * 1024

structure Heap where
  /-- Bytes the allocator was given. -/
  capacity : Nat
  /-- Bytes that are allocated. -/
  used : Nat
  initialised : Bool
  deriving DecidableEq, Repr

namespace Heap

/-- The heap before the arena is handed over. -/
def unset : Heap := ⟨0, 0, false⟩

/-- Hands the arena to the allocator, unless that was done. -/
def init (h : Heap) : Heap := if h.initialised then h else ⟨heapSize, 0, true⟩

def freeBytes (h : Heap) : Nat := h.capacity - h.used

end Heap

/-! ## Bringing up a core -/

/-- What is linked in for trap entry: where the exception vector table lies, and the code of the
refill handler. -/
structure TrapImage where
  vectors : UInt64
  refill : Bytes
  deriving DecidableEq, Repr

/-- The image of the running system; its refill handler has 64 bytes. -/
def TrapImage.linked : TrapImage := ⟨0x9000000000200000, (List.range 64).map UInt8.ofNat⟩

/-- Why a core was not brought up. -/
inductive BootError
  /-- No kernel was registered. -/
  | notRegistered
  | vector (cause : VectorError)
  | walker (cause : SetupError)
  deriving DecidableEq, Repr

def BootError.message : BootError → String
  | notRegistered => "NotRegistered"
  | vector cause => "Vector(" ++ cause.message ++ ")"
  | walker cause => "Walker(" ++ cause.message ++ ")"

/-- How a bring-up ended. -/
inductive BootOutcome
  | ready (cpu : CpuId)
  | failed (error : BootError)
  /-- The core was stopped. -/
  | halted
  deriving DecidableEq, Repr

/-- How a trap entry ended. -/
inductive EntryOutcome
  /-- The stub restores the frame. -/
  | returned
  /-- The core was stopped. -/
  | halted
  deriving DecidableEq, Repr

def EntryOutcome.text : EntryOutcome → String
  | returned => "returned" | halted => "halted"

namespace Machine

/-- The core that is running, if it has a slot. -/
def runningCpu? (m : Machine) : Option CpuId := CpuId.ofCsr? (m.hw.readCsr .cpuId)

/-- Reports a core that has no slot. -/
def reportNoSlot (m : Machine) : Machine :=
  m.log .error "boot"
    ("core id " ++ toString (CpuId.csrField (m.hw.readCsr .cpuId)) ++ " out of range (max " ++
      toString maxCpus ++ ")")

/-- Sets up the page walker of a core, and remembers that it is. -/
def configureWalker (m : Machine) (cpu : CpuId) (state : WalkerState) (roots : Roots)
    (eentry : UInt64) (code : Bytes) : Except SetupError Machine :=
  (setUpWalker m.hw m.refillInstalled cpu state roots eentry code).map fun s =>
    { m with hw := s.hw, refillInstalled := s.refillInstalled }.setSlot cpu
      { m.slot cpu with walker := .configured }

/-- Says that a core is ready, with its vectors at `eentry`. -/
def announce (m : Machine) (cpu : CpuId) (eentry : UInt64) : Machine :=
  let g := m.hw.geometry
  let m := m.log .debug "boot"
    (cpu.name ++ ": walker " ++ toString g.levels ++ " levels, page shift " ++
      toString g.pageShift)
  m.log .info "boot" (cpu.name ++ ": traps ready, vectors at " ++ Text.hex eentry)

/-- Brings up the running core: its kernel stack, its vectors and its page walker. -/
def initCore (m : Machine) (image : TrapImage) (kernel : Option Kernel) (roots : Roots)
    (stackTop lines : UInt64) : BootOutcome × Machine :=
  match kernel with
  | none => (.failed .notRegistered, m)
  | some _ =>
    match m.runningCpu? with
    | none => (.halted, m.reportNoSlot)
    | some cpu =>
      let m := m.writeCsr .ks0 stackTop
      match VectorTable.install m.hw image.vectors lines with
      | .error e => (.failed (.vector e), m)
      | .ok hw =>
        let m := { m with hw := hw }
        match m.configureWalker cpu (m.slot cpu).walker roots image.vectors image.refill with
        | .error e => (.failed (.walker e), m)
        | .ok m => (.ready cpu, m.announce cpu image.vectors)

/-- Hands a frame that an entry stub pushed to the dispatcher of the running core. -/
def trapEntry (m : Machine) (kernel : Option Kernel) (frameAddr : UInt64) (f : ExceptionFrame) :
    EntryOutcome × ExceptionFrame × Machine :=
  match kernel with
  | none =>
    (.halted, f,
      m.log .error "trap" ("trap before kernel registration, era=" ++ Text.hex f.era))
  | some k =>
    match m.runningCpu? with
    | none => (.halted, f, m.reportNoSlot)
    | some cpu =>
      let d := dispatch k m cpu frameAddr f
      match d.outcome with
      | .resume => (.returned, d.frame, d.machine)
      | .halt _ => (.halted, d.frame, d.machine)

end Machine

end TrapLayer
