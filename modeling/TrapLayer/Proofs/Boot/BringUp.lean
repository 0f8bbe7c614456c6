import TrapLayer.Boot
import TrapLayer.Proofs.Hardware

/-!
# Cores are brought up once

Every core calls the bring-up for itself, on registers of its own; what the calls share is the table
of slots and the mark that the refill handler is installed. A slot remembers that its walker was set
up, so the first call of a core succeeds and every later one is refused. The boot core is the only
one that writes the handler, so its first call is the only one in a whole run that does.

* `setUpWalkerChecked_eq`, `setUpWalkerChecked_of_wraps`: which set-ups stop under overflow checks.
* `initCore_ends`: all that a call of the bring-up can come to.
* `FieldWritten`: a field of a register is written and the bits around it are kept.
* `programmed_broughtUp`: the registers of a core after a call that succeeded.
* `BroughtUp.bringUp`, `BroughtUp.bringUps`: what the cores have in common after one call, and
  after a run.
* `bring_up_once_per_core`: every call of a run, and the code that a run writes.
-/
namespace TrapLayer

/-! ## Fields of registers -/

/-- `new` is `old` with `value` in the field under `mask`. -/
structure FieldWritten (mask value old new : UInt64) : Prop where
  inside : new &&& mask = value
  outside : new &&& ~~~ mask = old &&& ~~~ mask

theorem FieldWritten.of_fits {mask value : UInt64} (old : UInt64)
    (h : hasBits mask value = true) :
    FieldWritten mask value old ((old &&& ~~~ mask) ||| value) := by
  rw [hasBits_iff] at h
  constructor
  · apply eq_of_bitOf
    intro i
    simp only [bitOf_and, bitOf_or, bitOf_not]
    cases hv : bitOf value i with
    | true => simp [h i hv]
    | false => cases bitOf mask i <;> simp
  · apply eq_of_bitOf
    intro i
    simp only [bitOf_and, bitOf_or, bitOf_not]
    cases hv : bitOf value i with
    | true => simp [h i hv]
    | false => cases bitOf mask i <;> simp

/-- A page shift fits the field of a refill entry, and shifted that of the index register. -/
theorem Geometry.hasBits_pageShift (g : Geometry) :
    hasBits refillPageSize (UInt64.ofNat g.pageShift) = true ∧
      hasBits indexPageSize (UInt64.ofNat g.pageShift <<< 24) = true := by
  rcases g.shift_mem with h | h | h <;> rw [h] <;> decide

/-! ## Overflow checks -/

theorem toNat_slot {vector : Nat} (h : vector ≤ refillVector) :
    (UInt64.ofNat (vector * vectorSize)).toNat = vector * vectorSize := by
  unfold refillVector at h
  unfold vectorSize
  exact toNat_ofNat (by omega)

theorem refillAddressChecked_eq {eentry : UInt64} (h : eentry.toNat + 0xa000 < 2 ^ 64) :
    refillAddressChecked eentry = .ok (refillAddress eentry) :=
  Checked.add_of_lt h

theorem refillAddressChecked_of_wraps {eentry : UInt64} (h : 2 ^ 64 ≤ eentry.toNat + 0xa000) :
    refillAddressChecked eentry = .error .add :=
  Checked.add_of_le h

theorem setUpWalkerChecked_eq {eentry : UInt64} (h : eentry.toNat + 0xa000 < 2 ^ 64)
    (hw : Hardware) (refillInstalled : Bool) (cpu : CpuId) (state : WalkerState) (roots : Roots)
    (code : Bytes) :
    setUpWalkerChecked hw refillInstalled cpu state roots eentry code =
      .ok (setUpWalker hw refillInstalled cpu state roots eentry code) := by
  unfold setUpWalkerChecked
  rw [refillAddressChecked_eq h, Checked.ok_bind]
  unfold setUpWalker
  split
  · rfl
  · split <;> rfl

/-- A core that is not refused stops at a refill handler that does not lie in the address space. -/
theorem setUpWalkerChecked_of_wraps {eentry : UInt64} (h : 2 ^ 64 ≤ eentry.toNat + 0xa000)
    (hw : Hardware) (refillInstalled : Bool) (cpu : CpuId) {state : WalkerState} (roots : Roots)
    {code : Bytes} (fresh : state ≠ .configured) (fits : code.length ≤ refillBlockSize) :
    setUpWalkerChecked hw refillInstalled cpu state roots eentry code = .error .add := by
  unfold setUpWalkerChecked
  rw [if_neg fresh, if_neg (Nat.not_lt.2 fits), refillAddressChecked_of_wraps h,
    Checked.error_bind]

namespace VectorTable

theorem setHandlerChecked_eq {eentry : UInt64} {vector : Nat}
    (h : eentry.toNat + vector * vectorSize < 2 ^ 64) (hw : Hardware) (code : Bytes) :
    setHandlerChecked hw eentry vector code = .ok (setHandler hw eentry vector code) := by
  unfold setHandlerChecked setHandler
  split
  · rfl
  · rename_i hslot
    have hsize := toNat_slot (Nat.le_of_not_le hslot)
    rw [Checked.add_of_lt (by rw [hsize]; exact h), Checked.ok_bind]
    split <;> rfl

theorem setHandlerChecked_of_wraps {eentry : UInt64} {vector : Nat}
    (h : 2 ^ 64 ≤ eentry.toNat + vector * vectorSize) (hw : Hardware) {code : Bytes}
    (slot : vector < slots) (fits : code.length ≤ vectorSize) :
    setHandlerChecked hw eentry vector code = .error .add := by
  have hsize := toNat_slot (Nat.le_of_lt slot)
  unfold setHandlerChecked
  rw [if_neg (Nat.not_le.2 slot), if_neg (Nat.not_lt.2 fits),
    Checked.add_of_le (by rw [hsize]; exact h), Checked.error_bind]

end VectorTable

/-! ## How a bring-up ends -/

namespace Machine

/-- The machine of a core that has its kernel stack and its vectors. -/
def vectored (m : Machine) (eentry stackTop lines : UInt64) : Machine :=
  ((m.writeCsr .ks0 stackTop).writeCsr .ecfg
    (VectorTable.config (m.hw.readCsr .ecfg) lines)).writeCsr .eentry eentry

/-- The machine in which the walker of a core is set up. -/
def walking (m : Machine) (image : TrapImage) (cpu : CpuId) (roots : Roots) : Machine :=
  let hw := m.hw.programWalker cpu roots image.vectors
  { m with
    hw := if cpu.isBoot && !m.refillInstalled then hw.installRefill image.vectors image.refill
      else hw
    cpus := m.cpus.set cpu { m.slot cpu with walker := .configured }
    refillInstalled := m.refillInstalled || cpu.isBoot }

/-- All that a call of the bring-up can come to. -/
inductive BringUpEnds (m : Machine) (image : TrapImage) (roots : Roots) (stackTop lines : UInt64) :
    Option Kernel → BootOutcome × Machine → Prop
  | notRegistered : BringUpEnds m image roots stackTop lines none (.failed .notRegistered, m)
  | noSlot {k : Kernel} (hcpu : m.runningCpu? = none) :
    BringUpEnds m image roots stackTop lines (some k) (.halted, m.reportNoSlot)
  | misaligned {k : Kernel} {cpu : CpuId} (hcpu : m.runningCpu? = some cpu)
    (hbase : image.vectors % VectorTable.align ≠ 0) :
    BringUpEnds m image roots stackTop lines (some k)
      (.failed (.vector (.misaligned image.vectors)), m.writeCsr .ks0 stackTop)
  | configured {k : Kernel} {cpu : CpuId} (hcpu : m.runningCpu? = some cpu)
    (hbase : image.vectors % VectorTable.align = 0) (hslot : (m.slot cpu).walker = .configured) :
    BringUpEnds m image roots stackTop lines (some k)
      (.failed (.walker (.alreadyConfigured cpu)), m.vectored image.vectors stackTop lines)
  | tooLarge {k : Kernel} {cpu : CpuId} (hcpu : m.runningCpu? = some cpu)
    (hbase : image.vectors % VectorTable.align = 0) (hslot : (m.slot cpu).walker ≠ .configured)
    (hsize : refillBlockSize < image.refill.length) :
    BringUpEnds m image roots stackTop lines (some k)
      (.failed (.walker (.refillBlockTooLarge image.refill.length)),
        m.vectored image.vectors stackTop lines)
  | ready {k : Kernel} {cpu : CpuId} (hcpu : m.runningCpu? = some cpu)
    (hbase : image.vectors % VectorTable.align = 0) (hslot : (m.slot cpu).walker ≠ .configured)
    (hsize : image.refill.length ≤ refillBlockSize) :
    BringUpEnds m image roots stackTop lines (some k)
      (.ready cpu,
        ((m.vectored image.vectors stackTop lines).walking image cpu roots).announce cpu
          image.vectors)

theorem install_of_aligned (m : Machine) {eentry : UInt64} (lines stackTop : UInt64)
    (h : eentry % VectorTable.align = 0) :
    VectorTable.install (m.writeCsr .ks0 stackTop).hw eentry lines =
      .ok (m.vectored eentry stackTop lines).hw := by
  unfold VectorTable.install
  rw [if_neg (not_not_intro h)]
  rfl

theorem configureWalker_of_fresh (m : Machine) (image : TrapImage) (cpu : CpuId) (roots : Roots)
    {state : WalkerState} (hstate : state ≠ .configured)
    (hsize : image.refill.length ≤ refillBlockSize) :
    m.configureWalker cpu state roots image.vectors image.refill =
      .ok (m.walking image cpu roots) := by
  unfold configureWalker setUpWalker walking
  rw [if_neg hstate, if_neg (Nat.not_lt.2 hsize)]
  dsimp only
  cases hb : cpu.isBoot <;> cases hi : m.refillInstalled <;> rfl

theorem initCore_ends (m : Machine) (image : TrapImage) (kernel : Option Kernel) (roots : Roots)
    (stackTop lines : UInt64) :
    m.BringUpEnds image roots stackTop lines kernel
      (m.initCore image kernel roots stackTop lines) := by
  unfold initCore
  cases kernel with
  | none => exact .notRegistered
  | some k =>
    cases hcpu : m.runningCpu? with
    | none => exact .noSlot hcpu
    | some cpu =>
      dsimp only
      by_cases hbase : image.vectors % VectorTable.align = 0
      · rw [install_of_aligned m lines stackTop hbase]
        dsimp only
        by_cases hslot : (m.slot cpu).walker = .configured
        · have hrefused : (m.vectored image.vectors stackTop lines).configureWalker cpu
              (m.slot cpu).walker roots image.vectors image.refill =
              .error (.alreadyConfigured cpu) := by
            unfold configureWalker setUpWalker
            rw [if_pos hslot]
            rfl
          exact hrefused ▸ .configured hcpu hbase hslot
        · by_cases hsize : image.refill.length ≤ refillBlockSize
          · have hdone := configureWalker_of_fresh (m.vectored image.vectors stackTop lines) image
              cpu roots hslot hsize
            exact hdone ▸ .ready hcpu hbase hslot hsize
          · have hrefused : (m.vectored image.vectors stackTop lines).configureWalker cpu
                (m.slot cpu).walker roots image.vectors image.refill =
                .error (.refillBlockTooLarge image.refill.length) := by
              unfold configureWalker setUpWalker
              rw [if_neg hslot, if_pos (Nat.lt_of_not_le hsize)]
              rfl
            exact hrefused ▸ .tooLarge hcpu hbase hslot (Nat.lt_of_not_le hsize)
      · have hrefused : VectorTable.install (m.writeCsr .ks0 stackTop).hw image.vectors lines =
            .error (.misaligned image.vectors) := if_pos hbase
        exact hrefused ▸ .misaligned hcpu hbase

end Machine

/-! ## Calls -/

/-- One call of the bring-up: the core that makes it, the registers of that core at the time, and
what it asks for. -/
structure BringUp where
  cpu : CpuId
  csrs : CsrFile
  running : CpuId.ofCsr? (csrs.read .cpuId) = some cpu
  roots : Roots
  stackTop : UInt64
  lines : UInt64

/-- The registers that a bring-up writes. -/
def BringUp.written : List Csr :=
  [.ks0, .ecfg, .eentry, .stlbps, .tlbrEhi, .tlbIdx, .pwctl0, .pwctl1, .pgdh, .pgdl, .tmid,
    .tlbrEntry]

/-- Base and width of the last level, from bits 0 and 5 on; of the level above it, from bits 10 and
15 on; and of the next one, from bits 20 and 25 on. A table has eight bytes for each entry, so a
level takes three address bits less than a page has. -/
def Geometry.lowFields (g : Geometry) : Nat :=
  g.pageShift ||| (g.pageShift - 3) <<< 5 |||
    (if 2 < g.levels then
      (g.pageShift + (g.pageShift - 3)) <<< 10 ||| (g.pageShift - 3) <<< 15
    else 0) |||
    (if 3 < g.levels then
      (g.pageShift + 2 * (g.pageShift - 3)) <<< 20 ||| (g.pageShift - 3) <<< 25
    else 0)

/-- Base and width of the root, from bits 0 and 6 on. -/
def Geometry.highFields (g : Geometry) : Nat :=
  g.pageShift + (g.levels - 1) * (g.pageShift - 3) ||| (g.pageShift - 3) <<< 6

/-- The registers of a core that a call has brought up. -/
structure BringUp.Programmed (b : BringUp) (image : TrapImage) (g : Geometry) (csrs : CsrFile) :
    Prop where
  pwctl0 : csrs.read .pwctl0 = UInt64.ofNat g.lowFields
  pwctl1 : csrs.read .pwctl1 = UInt64.ofNat g.highFields
  pgdh : csrs.read .pgdh = b.roots.kernel
  pgdl : csrs.read .pgdl = b.roots.user
  tmid : csrs.read .tmid = UInt64.ofNat b.cpu.index.val
  /-- The refill handler is slot 80 of the vectors, and the core enters it with translation off. -/
  tlbrEntry : csrs.read .tlbrEntry = (image.vectors + 0xa000) &&& 0xffffffffffff
  stlbps : csrs.read .stlbps = UInt64.ofNat g.pageShift
  /-- The page size, in bits 5 to 0. -/
  tlbrEhi : FieldWritten 0x3f (UInt64.ofNat g.pageShift) (b.csrs.read .tlbrEhi)
    (csrs.read .tlbrEhi)
  /-- The page size, in bits 29 to 24. -/
  tlbIdx : FieldWritten 0x3f000000 (UInt64.ofNat g.pageShift <<< 24) (b.csrs.read .tlbIdx)
    (csrs.read .tlbIdx)
  /-- Slots hold `2 ^ 7` instructions, in bits 18 to 16; the lines are bits 12 to 0. -/
  ecfg : FieldWritten (0x70000 ||| 0x1fff) ((7 : UInt64) <<< 16 ||| (b.lines &&& 0x1fff))
    (b.csrs.read .ecfg) (csrs.read .ecfg)
  eentry : csrs.read .eentry = image.vectors
  ks0 : csrs.read .ks0 = b.stackTop
  others : ∀ c, c ∉ written → csrs.read c = b.csrs.read c

/-- Code was written, or the instruction cache was flushed. -/
def Effect.isCode : Effect → Bool
  | .codeWrite .. | .icacheFlush .. => true
  | _ => false

/-- The refill handler is written behind the vectors, and the cache is flushed over its block. -/
def TrapImage.install (image : TrapImage) : List Effect :=
  [.codeWrite (image.vectors + 0xa000) image.refill, .icacheFlush (image.vectors + 0xa000) 0x80]

theorem Geometry.walkControl_eq (g : Geometry) :
    g.walkControlLow = UInt64.ofNat g.lowFields ∧
      g.walkControlHigh = UInt64.ofNat g.highFields := by
  obtain ⟨levels, shift, hl, hs, hc⟩ := g
  rcases hl with rfl | rfl | rfl <;> rcases hs with rfl | rfl | rfl <;> revert hc <;>
    decide +kernel

theorem physical_eq (addr : UInt64) : physical addr = addr &&& 0xffffffffffff := by
  apply UInt64.toNat_inj.mp
  rw [physical, UInt64.toNat_mod, UInt64.toNat_and]
  exact (Nat.and_two_pow_sub_one_eq_mod addr.toNat 48).symm

theorem CpuId.isBoot_iff (cpu : CpuId) : cpu.isBoot = true ↔ cpu = .boot := by
  unfold isBoot
  rw [beq_iff_eq]
  constructor
  · intro h
    cases cpu
    exact congrArg CpuId.mk (Fin.ext h)
  · rintro rfl
    rfl

/-- The lines of a call and the spacing of the slots fit the two fields of their register. -/
theorem VectorTable.config_written (old lines : UInt64) :
    FieldWritten (spacingMask ||| lineMask) (7 <<< spacingShift ||| (lines &&& lineMask)) old
      (config old lines) := by
  have hspacing : UInt64.ofNat (spacing (UInt64.ofNat vectorSize)) = 7 := by decide
  have hfits : hasBits (spacingMask ||| lineMask)
      (7 <<< spacingShift ||| (lines &&& lineMask)) = true := by
    rw [hasBits_iff]
    intro i hi
    rw [bitOf_or, bitOf_and, Bool.or_eq_true, Bool.and_eq_true] at hi
    rw [bitOf_or]
    rcases hi with hfield | ⟨-, hline⟩
    · have hsame : 7 <<< spacingShift = spacingMask := by decide
      rw [← hsame, hfield, Bool.true_or]
    · rw [hline, Bool.or_true]
  have hwritten := FieldWritten.of_fits old hfits
  rw [← UInt64.or_assoc] at hwritten
  unfold config
  rw [hspacing]
  exact hwritten

namespace Machine

section

variable (m : Machine) (image : TrapImage) (k : Kernel) (b : BringUp)

/-- The machine as a core with those registers sees it. -/
def onCore (csrs : CsrFile) : Machine := { m with hw := { m.hw with csrs := csrs } }

def bringUp : BootOutcome × Machine :=
  (m.onCore b.csrs).initCore image (some k) b.roots b.stackTop b.lines

/-- The machine after calls of the bring-up, one after the other. -/
def bringUps (calls : List BringUp) : Machine :=
  calls.foldl (fun m b => (m.bringUp image k b).2) m

/-- The machine that a call leaves on which it succeeded. -/
def broughtUp : Machine :=
  (((m.onCore b.csrs).vectored image.vectors b.stackTop b.lines).walking image b.cpu
    b.roots).announce b.cpu image.vectors

end

theorem announce_eq (m : Machine) (cpu : CpuId) (eentry : UInt64) :
    ∃ walker vectors : LogLine, m.announce cpu eentry = { m with hw := { m.hw with
      history := .logged vectors :: .logged walker :: m.hw.history } } := ⟨_, _, rfl⟩

/-- Installing the refill handler is no matter of registers. -/
theorem csrs_walking (m : Machine) (image : TrapImage) (cpu : CpuId) (roots : Roots) :
    (m.walking image cpu roots).hw.csrs = (m.hw.programWalker cpu roots image.vectors).csrs := by
  unfold walking
  dsimp only
  generalize m.hw.programWalker cpu roots image.vectors = hw
  split <;> rfl

theorem geometry_walking (m : Machine) (image : TrapImage) (cpu : CpuId) (roots : Roots) :
    (m.walking image cpu roots).hw.geometry = m.hw.geometry := by
  have hsame : (m.hw.programWalker cpu roots image.vectors).geometry = m.hw.geometry := by
    simp only [Hardware.programWalker, Hardware.writeRoots, Hardware.writePageSize,
      Hardware.flushTlb, Hardware.writeCsr, Hardware.emit]
  rw [← hsame]
  unfold walking
  dsimp only
  generalize m.hw.programWalker cpu roots image.vectors = hw
  split <;> rfl

theorem programmed_broughtUp (m : Machine) (image : TrapImage) (b : BringUp) :
    b.Programmed image m.hw.geometry (m.broughtUp image b).hw.csrs := by
  have hps := m.hw.geometry.hasBits_pageShift
  obtain ⟨hlow, hhigh⟩ := m.hw.geometry.walkControl_eq
  obtain ⟨_, _, hlines⟩ := announce_eq
    (((m.onCore b.csrs).vectored image.vectors b.stackTop b.lines).walking image b.cpu b.roots)
    b.cpu image.vectors
  unfold broughtUp
  rw [hlines]
  dsimp only
  rw [csrs_walking]
  constructor
  case pwctl0 => exact hlow
  case pwctl1 => exact hhigh
  case tlbrEntry => exact physical_eq _
  case tlbrEhi => exact .of_fits _ hps.1
  case tlbIdx => exact .of_fits _ hps.2
  case ecfg => exact VectorTable.config_written _ _
  case others =>
    intro c hc
    simp only [BringUp.written, List.mem_cons, List.not_mem_nil, or_false, not_or] at hc
    simp only [Hardware.programWalker, Hardware.writeRoots, Hardware.writePageSize,
      Hardware.flushTlb, Hardware.writeCsr, Hardware.emit, vectored, writeCsr, onCore,
      CsrFile.read_write, hc, if_false]
  all_goals
    simp only [Hardware.programWalker, Hardware.writeRoots, Hardware.writePageSize,
      Hardware.flushTlb, Hardware.writeCsr, Hardware.emit, vectored, writeCsr, onCore,
      CsrFile.read_write, reduceCtorEq, if_true, if_false]

theorem slot_broughtUp (m : Machine) (image : TrapImage) (b : BringUp) (cpu : CpuId) :
    (m.broughtUp image b).slot cpu =
      if cpu = b.cpu then { m.slot b.cpu with walker := .configured } else m.slot cpu := by
  by_cases h : cpu = b.cpu
  · rw [if_pos h, h]
    exact CpuRegistry.get_set_same m.cpus b.cpu _
  · rw [if_neg h]
    exact CpuRegistry.get_set_of_ne m.cpus h _

theorem refillInstalled_broughtUp (m : Machine) (image : TrapImage) (b : BringUp) :
    (m.broughtUp image b).refillInstalled = (m.refillInstalled || b.cpu.isBoot) := rfl

theorem geometry_broughtUp (m : Machine) (image : TrapImage) (b : BringUp) :
    (m.broughtUp image b).hw.geometry = m.hw.geometry := by
  obtain ⟨_, _, hlines⟩ := announce_eq
    (((m.onCore b.csrs).vectored image.vectors b.stackTop b.lines).walking image b.cpu b.roots)
    b.cpu image.vectors
  unfold broughtUp
  rw [hlines]
  exact geometry_walking _ image b.cpu b.roots

theorem shows_vectored (m : Machine) (eentry stackTop lines : UInt64) :
    m.hw.Shows Effect.isCode [] (m.vectored eentry stackTop lines).hw := ⟨[_, _, _], rfl, rfl⟩

theorem shows_programWalker (hw : Hardware) (cpu : CpuId) (roots : Roots) (eentry : UInt64) :
    hw.Shows Effect.isCode [] (hw.programWalker cpu roots eentry) :=
  ⟨[_, _, _, _, _, _, _, _, _, _], rfl, rfl⟩

theorem shows_installRefill (hw : Hardware) (image : TrapImage) :
    hw.Shows Effect.isCode image.install (hw.installRefill image.vectors image.refill) :=
  ⟨[_, _], rfl, rfl⟩

theorem shows_announce (m : Machine) (cpu : CpuId) (eentry : UInt64) :
    m.hw.Shows Effect.isCode [] (m.announce cpu eentry).hw := by
  obtain ⟨_, _, hlines⟩ := announce_eq m cpu eentry
  rw [hlines]
  exact ⟨[_, _], rfl, rfl⟩

/-- The boot core writes the handler, unless it is there. -/
theorem shows_broughtUp (m : Machine) (image : TrapImage) (b : BringUp) :
    m.hw.Shows Effect.isCode
      (if b.cpu.isBoot && !m.refillInstalled then image.install else [])
      (m.broughtUp image b).hw := by
  have hvectors := shows_vectored (m.onCore b.csrs) image.vectors b.stackTop b.lines
  have hwalker := shows_programWalker
    ((m.onCore b.csrs).vectored image.vectors b.stackTop b.lines).hw b.cpu b.roots image.vectors
  have hlines := shows_announce
    (((m.onCore b.csrs).vectored image.vectors b.stackTop b.lines).walking image b.cpu b.roots)
    b.cpu image.vectors
  have hset : (m.onCore b.csrs).hw.Shows Effect.isCode
      (if b.cpu.isBoot && !m.refillInstalled then image.install else [])
      (((m.onCore b.csrs).vectored image.vectors b.stackTop b.lines).walking image b.cpu
        b.roots).hw := by
    have hsame : ((m.onCore b.csrs).vectored image.vectors b.stackTop b.lines).refillInstalled =
      m.refillInstalled := rfl
    unfold walking
    rw [hsame]
    dsimp only
    split
    · exact (hvectors.trans hwalker).trans (shows_installRefill _ image)
    · exact hvectors.trans hwalker
  have hall := hset.trans hlines
  rw [List.append_nil] at hall
  exact hall

/-! ## One call -/

/-- What the cores have in common after the bring-up was called on those of `called`, from a
machine whose walkers have the geometry `g`. -/
structure BroughtUp (g : Geometry) (m : Machine) (called : List CpuId) : Prop where
  walker : ∀ cpu, (m.slot cpu).walker = .configured ↔ cpu ∈ called
  refill : m.refillInstalled = decide (CpuId.boot ∈ called)
  geometry : m.hw.geometry = g

variable {m : Machine} {image : TrapImage} {called : List CpuId} {g : Geometry}

theorem BroughtUp.of_fresh (hfresh : m.cpus = .fresh) (hinst : m.refillInstalled = false) :
    BroughtUp m.hw.geometry m [] where
  walker cpu := by
    have hslot : m.slot cpu = .fresh := by
      simp [slot, hfresh, CpuRegistry.fresh, CpuRegistry.get]
    rw [hslot]
    simp [CpuSlot.fresh]
  refill := hinst
  geometry := rfl

/-- The first call of a core succeeds, and every later one is refused by its slot. -/
theorem BroughtUp.bringUp_eq (hm : BroughtUp g m called) (k : Kernel)
    (haligned : image.vectors % VectorTable.align = 0)
    (hfits : image.refill.length ≤ refillBlockSize) (b : BringUp) :
    m.bringUp image k b =
      if b.cpu ∈ called then
        (.failed (.walker (.alreadyConfigured b.cpu)),
          (m.onCore b.csrs).vectored image.vectors b.stackTop b.lines)
      else (.ready b.cpu, m.broughtUp image b) := by
  have hends := initCore_ends (m.onCore b.csrs) image (some k) b.roots b.stackTop b.lines
  have hcpu' : (m.onCore b.csrs).runningCpu? = some b.cpu := b.running
  have hslot' : ((m.onCore b.csrs).slot b.cpu).walker = .configured ↔ b.cpu ∈ called :=
    hm.walker b.cpu
  unfold bringUp
  generalize (m.onCore b.csrs).initCore image (some k) b.roots b.stackTop b.lines = done at hends
  cases hends with
  | noSlot hcpu => rw [hcpu'] at hcpu; cases hcpu
  | misaligned hcpu hbase => exact absurd haligned hbase
  | configured hcpu hbase hslot =>
    obtain rfl := Option.some.inj (hcpu'.symm.trans hcpu)
    rw [if_pos (hslot'.1 hslot)]
  | tooLarge hcpu hbase hslot hsize => exact absurd hfits (Nat.not_le.2 hsize)
  | ready hcpu hbase hslot hsize =>
    obtain rfl := Option.some.inj (hcpu'.symm.trans hcpu)
    rw [if_neg (mt hslot'.2 hslot)]
    rfl

/-- One call adds its core to those that were brought up, whether it succeeds or is refused. -/
theorem BroughtUp.bringUp (hm : BroughtUp g m called) (k : Kernel)
    (haligned : image.vectors % VectorTable.align = 0)
    (hfits : image.refill.length ≤ refillBlockSize) (b : BringUp) :
    BroughtUp g (m.bringUp image k b).2 (called ++ [b.cpu]) := by
  rw [hm.bringUp_eq k haligned hfits b]
  by_cases hcalled : b.cpu ∈ called
  · rw [if_pos hcalled]
    have hmem : ∀ cpu, cpu ∈ called ++ [b.cpu] ↔ cpu ∈ called := by
      intro cpu
      rw [List.mem_append, List.mem_singleton]
      exact or_iff_left_of_imp (fun h => h ▸ hcalled)
    exact ⟨fun cpu => (hm.walker cpu).trans (hmem cpu).symm,
      hm.refill.trans (decide_eq_decide.2 (hmem .boot).symm), hm.geometry⟩
  · rw [if_neg hcalled]
    refine ⟨fun cpu => ?_, ?_, (geometry_broughtUp m image b).trans hm.geometry⟩
    · rw [slot_broughtUp, List.mem_append, List.mem_singleton]
      by_cases hcpu : cpu = b.cpu
      · rw [if_pos hcpu]
        exact iff_of_true rfl (.inr hcpu)
      · rw [if_neg hcpu, or_iff_left hcpu]
        exact hm.walker cpu
    · rw [refillInstalled_broughtUp, hm.refill, Bool.eq_iff_iff, Bool.or_eq_true,
        CpuId.isBoot_iff, decide_eq_true_iff, decide_eq_true_iff, List.mem_append,
        List.mem_singleton, eq_comm (a := b.cpu)]

/-- Only the first call of the boot core writes code. -/
theorem BroughtUp.shows_bringUp (hm : BroughtUp g m called) (k : Kernel)
    (haligned : image.vectors % VectorTable.align = 0)
    (hfits : image.refill.length ≤ refillBlockSize) (b : BringUp) :
    m.hw.Shows Effect.isCode (if b.cpu = .boot ∧ b.cpu ∉ called then image.install else [])
      (m.bringUp image k b).2.hw := by
  rw [hm.bringUp_eq k haligned hfits b]
  by_cases hcalled : b.cpu ∈ called
  · rw [if_pos hcalled, if_neg (fun h => h.2 hcalled)]
    exact shows_vectored (m.onCore b.csrs) image.vectors b.stackTop b.lines
  · rw [if_neg hcalled]
    have hwrites : (b.cpu.isBoot && !m.refillInstalled) = true ↔
        b.cpu = .boot ∧ b.cpu ∉ called := by
      rw [Bool.and_eq_true, hm.refill, CpuId.isBoot_iff, Bool.not_eq_true',
        decide_eq_false_iff_not]
      exact and_congr_right (fun h => h ▸ Iff.rfl)
    have hshows := shows_broughtUp m image b
    simp only [hwrites] at hshows
    exact hshows

/-! ## Runs -/

theorem BroughtUp.bringUps (hm : BroughtUp g m called) (k : Kernel)
    (haligned : image.vectors % VectorTable.align = 0)
    (hfits : image.refill.length ≤ refillBlockSize) (calls : List BringUp) :
    BroughtUp g (m.bringUps image k calls) (called ++ calls.map (·.cpu)) := by
  induction calls generalizing m called with
  | nil => rwa [List.map_nil, List.append_nil]
  | cons b rest ih =>
    have hrest := ih (hm.bringUp k haligned hfits b)
    rw [List.append_assoc] at hrest
    exact hrest

/-- A run writes the handler once if the boot core makes its first call in it, and never
otherwise. -/
theorem BroughtUp.shows_bringUps (hm : BroughtUp g m called) (k : Kernel)
    (haligned : image.vectors % VectorTable.align = 0)
    (hfits : image.refill.length ≤ refillBlockSize) (calls : List BringUp) :
    m.hw.Shows Effect.isCode
      (if .boot ∉ called ∧ .boot ∈ calls.map (·.cpu) then image.install else [])
      (m.bringUps image k calls).hw := by
  induction calls generalizing m called with
  | nil => simpa only [List.map_nil, List.not_mem_nil, and_false, if_false] using .refl m.hw
  | cons b rest ih =>
    have hfirst := hm.shows_bringUp k haligned hfits b
    have hrest := ih (hm.bringUp k haligned hfits b)
    have hall := hfirst.trans hrest
    have hsplit : (if b.cpu = .boot ∧ b.cpu ∉ called then image.install else []) ++
        (if .boot ∉ called ++ [b.cpu] ∧ .boot ∈ rest.map (·.cpu) then image.install else []) =
        if .boot ∉ called ∧ .boot ∈ (b :: rest).map (·.cpu) then image.install else [] := by
      by_cases hboot : b.cpu = .boot
      · simp [hboot]
      · simp [hboot, Ne.symm hboot]
    rw [hsplit] at hall
    exact hall

/-! ## Every call of a run -/

/-- From fresh slots, whichever cores call the bring-up and in whatever order, the first call of a
core succeeds and programs its registers, and every later one is refused. Code is written by the
first call of the boot core and by no other. -/
theorem bring_up_once_per_core (m : Machine) (image : TrapImage) (k : Kernel)
    (hfresh : m.cpus = .fresh) (hinst : m.refillInstalled = false)
    (haligned : image.vectors % 0x1000 = 0) (hfits : image.refill.length ≤ 0x80)
    (calls : List BringUp) :
    (∀ b : BringUp,
      let before := m.bringUps image k calls
      let done := before.bringUp image k b
      let code := (done.2.hw.since before.hw.mark).filter Effect.isCode
      (b.cpu ∉ calls.map (·.cpu) →
        done.1 = .ready b.cpu ∧ b.Programmed image m.hw.geometry done.2.hw.csrs ∧
          code = if b.cpu = .boot then image.install else []) ∧
      (b.cpu ∈ calls.map (·.cpu) →
        done.1 = .failed (.walker (.alreadyConfigured b.cpu)) ∧ code = [])) ∧
    ((m.bringUps image k calls).hw.since m.hw.mark).filter Effect.isCode =
      if .boot ∈ calls.map (·.cpu) then image.install else [] := by
  have hstart := BroughtUp.of_fresh hfresh hinst
  have hrun := hstart.bringUps k haligned hfits calls
  rw [List.nil_append] at hrun
  refine ⟨fun b => ?_, ?_⟩
  · have hcall := hrun.bringUp_eq k haligned hfits b
    have hcode := (hrun.shows_bringUp k haligned hfits b).since
    refine ⟨fun hnew => ?_, fun hcalled => ?_⟩
    · simp only [hnew, not_false_eq_true, and_true] at hcode
      rw [hcode, hcall, if_neg hnew]
      refine ⟨rfl, ?_, rfl⟩
      rw [← hrun.geometry]
      exact programmed_broughtUp _ image b
    · rw [hcode, hcall, if_pos hcalled]
      exact ⟨rfl, if_neg (fun h => h.2 hcalled)⟩
  · rw [(hstart.shows_bringUps k haligned hfits calls).since]
    simp

end Machine

/-- A machine on which no core was brought up. -/
def Machine.poweredOn : Machine :=
  .ofHardware ⟨.active, ⟨true, true, true, true⟩, .zero, ⟨fun _ _ => 0⟩, .zero, .cleared, .off, []⟩

/-- The call of a core whose registers were not written. -/
def BringUp.ofCore (cpu : CpuId) : BringUp where
  cpu := cpu
  csrs := CsrFile.zero.write .cpuId (UInt64.ofNat cpu.index.val)
  running := by
    have hlt : cpu.index.val < 0x200 := Nat.lt_of_lt_of_le cpu.index.isLt (by decide)
    have hfield : CpuId.csrField (UInt64.ofNat cpu.index.val) = cpu.index.val := by
      rw [CpuId.csrField, UInt64.toNat_ofNat_of_lt' (Nat.lt_trans hlt (by decide)),
        Nat.mod_eq_of_lt hlt]
    rw [CsrFile.read_write, if_pos rfl, CpuId.ofCsr?, hfield]
    exact CpuId.ofNat?_index cpu
  roots := ⟨0x6000, 0x5000⟩
  stackTop := 0x9000000000010000
  lines := 0x1fff

/-- Once the boot core and the next were brought up, the boot core is refused and a third is not,
and enters the handler at its physical address; the handler was written by the first call. -/
theorem bring_up_once_per_core_two :
    let k : Kernel := ⟨.empty, .empty, 0⟩
    let before := Machine.poweredOn.bringUps .linked k [.ofCore .boot, .ofCore ⟨1⟩]
    let third := before.bringUp .linked k (.ofCore ⟨2⟩)
    (before.bringUp .linked k (.ofCore .boot)).1 =
        .failed (.walker (.alreadyConfigured .boot)) ∧
      third.1 = .ready ⟨2⟩ ∧ third.2.hw.csrs.read .tlbrEntry = 0x20a000 ∧
      (before.hw.since 0).filter Effect.isCode = TrapImage.linked.install := by
  intro k before third
  obtain ⟨hcall, hcode⟩ := Machine.bring_up_once_per_core .poweredOn .linked k
    rfl rfl (by decide) (by decide) [.ofCore .boot, .ofCore ⟨1⟩]
  have hnew : (BringUp.ofCore ⟨2⟩).cpu ∉ [BringUp.ofCore .boot, .ofCore ⟨1⟩].map (·.cpu) := by
    simp only [List.map_cons, List.map_nil, BringUp.ofCore]
    decide
  obtain ⟨hready, hprogrammed, -⟩ := (hcall (.ofCore ⟨2⟩)).1 hnew
  refine ⟨((hcall (.ofCore .boot)).2 List.mem_cons_self).1, hready, ?_, ?_⟩
  · exact hprogrammed.tlbrEntry.trans (by decide)
  · exact hcode.trans (if_pos List.mem_cons_self)

end TrapLayer
