import TrapLayer.Proofs.Boot.BringUp

/-!
# What a bring-up that fails leaves behind

The vectors and the walker each check everything before their first write. The bring-up as a whole
does not: the kernel stack is written before the vectors are checked, and the vectors before the
walker is. So a call that fails leaves the slots, the refill handler and the translation buffer
alone, and yet up to three registers of the core have new values.

* `Machine.writeCsrs_eq`: a list of register writes changes registers and the trace.
* `refused_bring_up`: exactly what a call that fails has written, and when that is no change.
* `second_bring_up_takes_over`: a configured core is refused with another kernel stack.
-/
namespace TrapLayer

/-! ## Lists of register writes -/

/-- The value a list of register writes leaves in a register that held `old`. -/
def lastWritten (ws : List (Csr × UInt64)) (c : Csr) (old : UInt64) : UInt64 :=
  ws.foldl (fun v w => if c = w.1 then w.2 else v) old

namespace Machine

/-- Writes registers, one after the other. -/
def writeCsrs (m : Machine) (ws : List (Csr × UInt64)) : Machine :=
  ws.foldl (fun m w => m.writeCsr w.1 w.2) m

theorem writeCsrs_eq (m : Machine) (ws : List (Csr × UInt64)) :
    ∃ csrs : CsrFile, (∀ c, csrs.read c = lastWritten ws c (m.hw.csrs.read c)) ∧
      m.writeCsrs ws = { m with hw := { m.hw with
        csrs := csrs
        history := (ws.map fun w => .csrWrite w.1 w.2).reverse ++ m.hw.history } } := by
  induction ws generalizing m with
  | nil => exact ⟨m.hw.csrs, fun _ => rfl, rfl⟩
  | cons w ws ih =>
    obtain ⟨csrs, hread, heq⟩ := ih (m.writeCsr w.1 w.2)
    refine ⟨csrs, hread, heq.trans ?_⟩
    rw [List.map_cons, List.reverse_cons, List.append_assoc]
    rfl

end Machine

/-! ## Calls that fail -/

/-- The registers that a call has written by the time it fails with an error, in order: the kernel
stack before the vectors are checked, and the vectors before the walker is. -/
def BootError.writes (stackTop config eentry : UInt64) : BootError → List (Csr × UInt64)
  | notRegistered => []
  | vector _ => [(.ks0, stackTop)]
  | walker _ => [(.ks0, stackTop), (.ecfg, config), (.eentry, eentry)]

theorem BootError.lastWritten_eq_iff {e : BootError} {stackTop config eentry : UInt64}
    (csrs : CsrFile) :
    (∀ c, lastWritten (e.writes stackTop config eentry) c (csrs.read c) = csrs.read c) ↔
      ∀ w ∈ e.writes stackTop config eentry, csrs.read w.1 = w.2 := by
  constructor
  · intro h w hw
    rw [← h w.1]
    cases e with
    | notRegistered => cases hw
    | vector _ => rw [List.mem_singleton.1 hw]; rfl
    | walker _ =>
      simp only [writes, List.mem_cons, List.not_mem_nil, or_false] at hw
      rcases hw with rfl | rfl | rfl <;> rfl
  · intro h c
    -- every write that hits the register puts back what it holds
    have hall : ∀ ws : List (Csr × UInt64), (∀ w ∈ ws, csrs.read w.1 = w.2) →
        lastWritten ws c (csrs.read c) = csrs.read c := by
      intro ws hws
      induction ws with
      | nil => rfl
      | cons w ws ih =>
        have hsame : (if c = w.1 then w.2 else csrs.read c) = csrs.read c := by
          split
          case isTrue hc => rw [hc, hws w List.mem_cons_self]
          case isFalse => rfl
        unfold lastWritten
        rw [List.foldl_cons, hsame]
        exact ih (fun w hw => hws w (List.mem_cons_of_mem _ hw))
    exact hall _ h

namespace Machine

variable {m : Machine} {image : TrapImage} {stackTop lines : UInt64}

theorem BringUpEnds.of_failed {kernel : Option Kernel} {roots : Roots} {e : BootError}
    {m' : Machine} (h : m.BringUpEnds image roots stackTop lines kernel (.failed e, m')) :
    m' = m.writeCsrs
      (e.writes stackTop (VectorTable.config (m.hw.readCsr .ecfg) lines) image.vectors) := by
  cases h <;> rfl

/-- A call that fails has written the registers that come before what failed, and nothing else is
different: the tasks, the slots with their walkers, the mark that the refill handler is installed,
the translation buffer and all code are as they were. It has changed nothing exactly if these
registers held those values already. A core that is configured is refused, and keeps neither its
kernel stack nor its lines. -/
theorem refused_bring_up (m : Machine) (image : TrapImage) (kernel : Option Kernel) (roots : Roots)
    (stackTop lines : UInt64) :
    let config := VectorTable.config (m.hw.readCsr .ecfg) lines
    (∀ (e : BootError) (m' : Machine),
      m.initCore image kernel roots stackTop lines = (.failed e, m') →
      (∃ csrs : CsrFile,
        (∀ c, csrs.read c =
          lastWritten (e.writes stackTop config image.vectors) c (m.hw.csrs.read c)) ∧
        m' = { m with hw := { m.hw with
          csrs := csrs
          history := m'.hw.history } }) ∧
      m'.hw.since m.hw.mark =
        (e.writes stackTop config image.vectors).map (fun w => .csrWrite w.1 w.2) ∧
      ((∀ c, m'.hw.readCsr c = m.hw.readCsr c) ↔
        ∀ w ∈ e.writes stackTop config image.vectors, m.hw.readCsr w.1 = w.2)) ∧
    ∀ cpu, kernel.isSome = true → m.runningCpu? = some cpu →
      (m.slot cpu).walker = .configured → image.vectors % VectorTable.align = 0 →
      let again := m.initCore image kernel roots stackTop lines
      again.1 = .failed (.walker (.alreadyConfigured cpu)) ∧
        again.2.hw.readCsr .ks0 = stackTop ∧ again.2.hw.readCsr .ecfg = config ∧
        again.2.hw.readCsr .eentry = image.vectors := by
  intro config
  have hends := initCore_ends m image kernel roots stackTop lines
  constructor
  · intro e m' heq
    rw [heq] at hends
    have hwritten := hends.of_failed
    obtain ⟨csrs, hread, hm'⟩ := writeCsrs_eq m (e.writes stackTop config image.vectors)
    rw [hm'] at hwritten
    subst hwritten
    refine ⟨⟨csrs, hread, rfl⟩, ?_, ?_⟩
    · rw [Hardware.since_of_history rfl, List.reverse_reverse]
    · have hsame : ∀ c, csrs.read c = m.hw.csrs.read c ↔
          lastWritten (e.writes stackTop config image.vectors) c (m.hw.csrs.read c) =
            m.hw.csrs.read c := fun c => by rw [hread c]
      exact (forall_congr' hsame).trans (BootError.lastWritten_eq_iff m.hw.csrs)
  · intro cpu hkernel hcpu hslot hbase
    dsimp only
    generalize m.initCore image kernel roots stackTop lines = again at hends
    cases hends with
    | notRegistered => cases hkernel
    | noSlot hnone => rw [hcpu] at hnone; cases hnone
    | misaligned _ hoff => exact absurd hbase hoff
    | configured hcpu' =>
      obtain rfl := Option.some.inj (hcpu.symm.trans hcpu')
      exact ⟨rfl, rfl, rfl, rfl⟩
    | tooLarge hcpu' _ hfresh | ready hcpu' _ hfresh =>
      obtain rfl := Option.some.inj (hcpu.symm.trans hcpu')
      exact absurd hslot hfresh

end Machine

/-- The boot core calls twice: the second call is refused, and yet user traps of the core use the
second stack from then on, with other lines enabled. -/
theorem refused_bring_up_twice :
    let k : Kernel := ⟨.empty, .empty, 0⟩
    let first := Machine.poweredOn.initCore .linked (some k) ⟨0x6000, 0x5000⟩ 0xa000 0x1fff
    let again := first.2.initCore .linked (some k) ⟨0x6000, 0x5000⟩ 0xb000 0x4
    again.1 = .failed (.walker (.alreadyConfigured .boot)) ∧
      again.2.hw.readCsr .ks0 = 0xb000 ∧
      again.2.hw.readCsr .ecfg = VectorTable.config (first.2.hw.readCsr .ecfg) 0x4 ∧
      again.2.cpus = first.2.cpus := by
  intro k first again
  obtain ⟨hfailed, hagain⟩ := Machine.refused_bring_up first.2 .linked (some k) ⟨0x6000, 0x5000⟩
    0xb000 0x4
  obtain ⟨houtcome, hstack, hlines, -⟩ := hagain .boot rfl (by decide +kernel) (by decide +kernel)
    (by decide)
  obtain ⟨⟨_, -, hrest⟩, -⟩ := hfailed _ _ (Prod.ext houtcome rfl)
  have hcpus := congrArg Machine.cpus hrest
  exact ⟨houtcome, hstack, hlines, hcpus⟩

/-- The registers are not what they were before the call that was refused. -/
theorem second_bring_up_takes_over :
    let k : Kernel := ⟨.empty, .empty, 0⟩
    let first := Machine.poweredOn.initCore .linked (some k) ⟨0x6000, 0x5000⟩ 0xa000 0x1fff
    let again := first.2.initCore .linked (some k) ⟨0x6000, 0x5000⟩ 0xb000 0x4
    first.1 = .ready .boot ∧ again.1 = .failed (.walker (.alreadyConfigured .boot)) ∧
      first.2.hw.readCsr .ks0 = 0xa000 ∧ again.2.hw.readCsr .ks0 ≠ 0xa000 ∧
      first.2.hw.readCsr .ecfg = 0x71fff ∧ again.2.hw.readCsr .ecfg ≠ 0x71fff := by
  decide +kernel

end TrapLayer
