import TrapLayer.Frame.Debug
import TrapLayer.Frame.Switch
import TrapLayer.Proofs.Image.Extent
import TrapLayer.Proofs.Signal.Codec

/-!
# Register images word for word

The frames that are shared with the entry stub and the switch routine are images of words. Each word
is one slot of the frame, and the stub finds it by its byte offset. Images lose nothing in either
direction, and they have every slot at the offset that the stub uses.

* `ExactImage.of_slots`: it is enough to list the slots in the order of their words.
* `ExceptionFrame.toList_toWords`, `FpState.toList_toWords`, `SwitchContext.toList_toWords`,
  `DebugFrame.toList_toWords`: the words of an image, slot by slot.
* `register_images_exact`: all of it, for the three frames and the floating-point save area.
-/
namespace TrapLayer

/-! ## Images of slots -/

section

variable {α S : Type} {n : Nat}

/-- An image that is exact in both directions, with the word of each slot at the offset of the
slot. -/
structure ExactImage (toWords : α → Vector UInt64 n) (ofWords : Vector UInt64 n → α)
    (offset : S → Nat) (word : α → S → UInt64) : Prop where
  toWords_ofWords : ∀ w, toWords (ofWords w) = w
  ofWords_toWords : ∀ x, ofWords (toWords x) = x
  word_at : ∀ x s, 8 ∣ offset s ∧ (toWords x)[offset s / 8]? = some (word x s)
  /-- Code that stores every slot at its offset, in any order, leaves the image in memory. -/
  stored : ∀ x (order : List S), (∀ s, s ∈ order) → ∀ before : Bytes, before.length = 8 * n →
    order.foldl (fun b s => Extent.overwrite ⟨offset s, 8⟩ (le64 (word x s)) b) before =
      wordsLe (toWords x).toList

theorem slice_wordsLe {ws : List UInt64} {k : Nat} {w : UInt64} (h : ws[k]? = some w) :
    Extent.slice ⟨8 * k, 8⟩ (wordsLe ws) = le64 w := by
  obtain ⟨hk, rfl⟩ := List.getElem?_eq_some_iff.1 h
  have hword := word64_wordsLe [] ws k hk
  rw [List.append_nil, Nat.mul_comm] at hword
  rw [← hword, le64_word64 (by rw [length_wordsLe]; omega)]
  rfl

variable {toWords : α → Vector UInt64 n} {ofWords : Vector UInt64 n → α} {offset : S → Nat}
  {word : α → S → UInt64}

/-- An image is exact when its words are those of the slots in some order, in which their offsets
count the words. -/
theorem ExactImage.of_slots (hto : ∀ w, toWords (ofWords w) = w)
    (hof : ∀ x, ofWords (toWords x) = x) {slots : List S} (hall : ∀ s, s ∈ slots)
    (htiles : slots.map offset = (List.range n).map (8 * ·))
    (hwords : ∀ x, (toWords x).toList = slots.map (word x)) :
    ExactImage toWords ofWords offset word := by
  have hlen : slots.length = n := by simpa using congrArg List.length htiles
  have hoffset : ∀ k (_ : k < slots.length), offset slots[k] = 8 * k := by
    intro k hk
    have h : (slots.map offset)[k]? = ((List.range n).map (8 * ·))[k]? := by rw [htiles]
    simpa [hk, hlen ▸ hk] using h
  have hslot : ∀ s, ∃ k, k < n ∧ offset s = 8 * k ∧
      ∀ x, (toWords x).toList[k]? = some (word x s) := by
    intro s
    obtain ⟨k, hk, rfl⟩ := List.getElem_of_mem (hall s)
    refine ⟨k, hlen ▸ hk, hoffset k hk, fun x => ?_⟩
    rw [hwords, List.getElem?_map, List.getElem?_eq_getElem hk]
    rfl
  refine ⟨hto, hof, fun x s => ?_, fun x order horder before hbefore => ?_⟩
  · obtain ⟨k, -, hs, hword⟩ := hslot s
    rw [hs, Nat.mul_div_cancel_left k (by decide), ← Vector.getElem?_toList]
    exact ⟨Nat.dvd_mul_right 8 k, hword x⟩
  · have hbytes : (wordsLe (toWords x).toList).length = 8 * n := by simp
    refine foldl_overwrite (fun s => ?_) (fun s => ?_) order before
      (hbefore.trans hbytes.symm) fun i => ?_
    · obtain ⟨k, hk, hs, -⟩ := hslot s
      rw [hbytes]
      show offset s + 8 ≤ 8 * n
      omega
    · obtain ⟨k, -, hs, hword⟩ := hslot s
      rw [hs]
      exact slice_wordsLe (hword x)
    · -- no word is without a slot, so nothing is left of what was there before
      by_cases hi : i < 8 * n
      · have hk : i / 8 < slots.length := by omega
        refine .inl ⟨slots[i / 8], horder _, ?_⟩
        have hs := hoffset (i / 8) hk
        constructor
        · show offset _ ≤ i
          omega
        · show i < offset _ + 8
          omega
      · refine .inr ?_
        rw [List.getElem?_eq_none (by omega), List.getElem?_eq_none (by omega)]

end

/-! ## The exception frame -/

namespace ExceptionFrame

inductive Slot
  | reg (i : Fin 32)
  | origA0 | frameType
  | status (field : StatusField)
  deriving DecidableEq, Repr

namespace Slot

def all : List Slot :=
  (List.finRange 32).map reg ++ ([origA0, frameType] ++ StatusField.all.map status)

/-- Where the entry stub has the slot, in bytes from the start of the frame. -/
def offset : Slot → Nat
  | reg i => i.val * 8
  | origA0 => offOrigA0
  | frameType => offType
  | status .era => offEra
  | status .badv => offBadv
  | status .crmd => offCrmd
  | status .prmd => offPrmd
  | status .euen => offEuen
  | status .ecfg => offEcfg
  | status .estat => offEstat

theorem mem_all (s : Slot) : s ∈ all := by
  cases s with
  | reg i => simp [all]
  | status field => cases field <;> simp [all, StatusField.all]
  | _ => simp [all]

end Slot

def word (f : ExceptionFrame) : Slot → UInt64
  | .reg i => f.regs.read i
  | .origA0 => f.origA0
  | .frameType => f.frameType
  | .status field => f.status field

theorem toList_toWords (f : ExceptionFrame) : f.toWords.toList = Slot.all.map f.word := by
  rw [toWords, Vector.toList_append, Words.toList_eq_map_get f.regs, Slot.all, List.map_append,
    List.map_map]
  rfl

theorem exactImage : ExactImage toWords ofWords Slot.offset word :=
  .of_slots toWords_ofWords ofWords_toWords Slot.mem_all (by decide +kernel) toList_toWords

end ExceptionFrame

/-! ## The debugger's view -/

namespace DebugFrame

inductive Slot
  | reg (i : Fin 32)
  | status (field : StatusField)
  deriving DecidableEq, Repr

namespace Slot

def all : List Slot := (List.finRange 32).map reg ++ StatusField.all.map status

def offset : Slot → Nat
  | reg i => i.val * 8
  | status .era => 32 * 8
  | status .badv => 33 * 8
  | status .crmd => 34 * 8
  | status .prmd => 35 * 8
  | status .euen => 36 * 8
  | status .ecfg => 37 * 8
  | status .estat => 38 * 8

theorem mem_all (s : Slot) : s ∈ all := by
  cases s with
  | reg i => simp [all]
  | status field => cases field <;> simp [all, StatusField.all]

end Slot

def word (d : DebugFrame) : Slot → UInt64
  | .reg i => d.regs.read i
  | .status field => d.status field

theorem toList_toWords (d : DebugFrame) : d.toWords.toList = Slot.all.map d.word := by
  rw [toWords, Vector.toList_append, Words.toList_eq_map_get d.regs, Slot.all, List.map_append,
    List.map_map]
  rfl

theorem exactImage : ExactImage toWords ofWords Slot.offset word :=
  .of_slots toWords_ofWords ofWords_toWords Slot.mem_all (by decide +kernel) toList_toWords

end DebugFrame

/-! ## The floating-point save area -/

namespace FpState

inductive Slot
  | lane (i : Fin 32) (l : Fin 4)
  | fcc | fcsr
  | scr (l : Fin 4)
  | eflags | ftop | used
  | reserved (i : Fin 3)
  deriving DecidableEq, Repr

namespace Slot

def all : List Slot :=
  ((List.finRange 32).flatMap fun i => (List.finRange 4).map (lane i)) ++
    ([fcc, fcsr] ++ ((List.finRange 4).map scr ++
      ([eflags, ftop, used] ++ (List.finRange 3).map reserved)))

def offset : Slot → Nat
  | lane i l => (i.val * 4 + l.val) * 8
  | fcc => 128 * 8
  | fcsr => 129 * 8
  | scr l => (130 + l.val) * 8
  | eflags => 134 * 8
  | ftop => 135 * 8
  | used => 136 * 8
  | reserved i => (137 + i.val) * 8

theorem mem_all (s : Slot) : s ∈ all := by
  cases s <;> simp [all]

end Slot

def word (s : FpState) : Slot → UInt64
  | .lane i l => (s.fpr.get i).get l
  | .fcc => s.fcc
  | .fcsr => s.fcsr
  | .scr l => s.scr.get l
  | .eflags => s.eflags
  | .ftop => s.ftop
  | .used => s.used
  | .reserved i => s.reserved.get i

theorem toList_fpr (s : FpState) : s.fpr.flatten.toList =
    ((List.finRange 32).flatMap fun i => (List.finRange 4).map (Slot.lane i)).map s.word := by
  rw [Words.toList_flatten, Words.toList_eq_map_get, List.flatMap_map, List.map_flatMap]
  congr 1
  funext i
  rw [Words.toList_eq_map_get, List.map_map]
  rfl

theorem toList_toWords (s : FpState) : s.toWords.toList = Slot.all.map s.word := by
  rw [toWords, Vector.toList_append, toList_fpr, Slot.all, List.map_append]
  rfl

theorem exactImage : ExactImage toWords ofWords Slot.offset word :=
  .of_slots toWords_ofWords ofWords_toWords Slot.mem_all (by decide +kernel) toList_toWords

end FpState

/-! ## The switch context -/

namespace SwitchContext

inductive Slot
  | badv | crmd | prmd | euen | ecfg | estat
  | pc | sp | tls | pgdl | asid | vintflag
  | reg (i : Fin 32)
  | fpu (s : FpState.Slot)
  deriving DecidableEq, Repr

namespace Slot

def all : List Slot :=
  [badv, crmd, prmd, euen, ecfg, estat, pc, sp, tls, pgdl, asid, vintflag] ++
    ((List.finRange 32).map reg ++ FpState.Slot.all.map fpu)

/-- Where the switch routine has the slot, in bytes from the start of the context. -/
def offset : Slot → Nat
  | badv => 0 * 8
  | crmd => 1 * 8
  | prmd => 2 * 8
  | euen => 3 * 8
  | ecfg => 4 * 8
  | estat => 5 * 8
  | pc => offPc
  | sp => offSp
  | tls => 8 * 8
  | pgdl => 9 * 8
  | asid => 10 * 8
  | vintflag => 11 * 8
  | reg i => offRegs + i.val * 8
  | fpu s => offFpu + s.offset

theorem mem_all (s : Slot) : s ∈ all := by
  cases s with
  | reg i => simp [all]
  | fpu s => simp [all, s.mem_all]
  | _ => simp [all]

end Slot

def word (c : SwitchContext) : Slot → UInt64
  | .badv => c.badv
  | .crmd => c.crmd
  | .prmd => c.prmd
  | .euen => c.euen
  | .ecfg => c.ecfg
  | .estat => c.estat
  | .pc => c.pc
  | .sp => c.sp
  | .tls => c.tls
  | .pgdl => c.pgdl
  | .asid => c.asid
  | .vintflag => c.vintflag
  | .reg i => c.regs.read i
  | .fpu s => c.fpu.word s

theorem toList_toWords (c : SwitchContext) : c.toWords.toList = Slot.all.map c.word := by
  rw [toWords, Vector.toList_append, Vector.toList_append, Words.toList_eq_map_get c.regs,
    FpState.toList_toWords, List.append_assoc, Slot.all, List.map_append, List.map_append,
    List.map_map, List.map_map]
  rfl

theorem exactImage : ExactImage toWords ofWords Slot.offset word :=
  .of_slots toWords_ofWords ofWords_toWords Slot.mem_all (by decide +kernel) toList_toWords

end SwitchContext

/-! ## All of them -/

/-- The images of an exception frame, of a switch context with its save area, of the save area by
itself and of a debugger's view are exact in both directions, for all words and all values. The word
at the offset of a slot is that slot: the status words of an exception frame, the program counter,
the stack pointer and the save area of a switch context, and each register at its number behind the
first one. So code that stores the slots at their offsets, in any order and over anything, leaves
the image. -/
theorem register_images_exact :
    ExactImage ExceptionFrame.toWords ExceptionFrame.ofWords ExceptionFrame.Slot.offset
      ExceptionFrame.word ∧
    ExactImage SwitchContext.toWords SwitchContext.ofWords SwitchContext.Slot.offset
      SwitchContext.word ∧
    ExactImage FpState.toWords FpState.ofWords FpState.Slot.offset FpState.word ∧
    ExactImage DebugFrame.toWords DebugFrame.ofWords DebugFrame.Slot.offset DebugFrame.word :=
  ⟨ExceptionFrame.exactImage, SwitchContext.exactImage, FpState.exactImage, DebugFrame.exactImage⟩

/-- The order in which the entry stub stores the slots: the two registers that it works with, the
stack pointer and the first temporary, come before the others. -/
def ExceptionFrame.Slot.entryOrder : List Slot :=
  let registers := List.finRange 32
  (registers.filter (·.val == 3) ++ registers.filter (·.val == 12) ++
      registers.filter (fun i => i.val != 3 && i.val != 12)).map reg ++
    ([origA0, frameType] ++ StatusField.all.map status)

/-- What the entry stub stores on a stack that was used before is the image of the frame. -/
theorem register_images_exact_entry :
    let f := ExceptionFrame.ofWords (Vector.ofFn fun i => UInt64.ofNat (0x1000 + i.val))
    let stored := ExceptionFrame.Slot.entryOrder.foldl
      (fun b s => Extent.overwrite ⟨s.offset, 8⟩ (le64 (f.word s)) b) (List.replicate 328 0xcc)
    stored = wordsLe f.toWords.toList ∧ f.toWords[ExceptionFrame.offEra / 8]? = some f.era ∧
      f.era = 0x1022 ∧ word64 stored ExceptionFrame.offEra = 0x1022 ∧
      word64 stored (3 * 8) = 0x1003 := by
  intro f stored
  obtain ⟨hframe, -⟩ := register_images_exact
  have hall : ∀ s, s ∈ ExceptionFrame.Slot.entryOrder := by
    intro s
    cases s with
    | reg i => revert i; decide
    | status field => cases field <;> decide
    | _ => decide
  have hstored : stored = wordsLe f.toWords.toList := hframe.stored f _ hall _ List.length_replicate
  refine ⟨hstored, (hframe.word_at f (.status .era)).2, by decide +kernel, ?_, ?_⟩
  · rw [hstored]; decide +kernel
  · rw [hstored]; decide +kernel

end TrapLayer
