import TrapLayer.Proofs.Image.Extent
import TrapLayer.Proofs.Signal.Codec
import TrapLayer.Signal.Image

/-!
# The fields of a signal frame

The image of a signal frame has 53 fields of four and eight bytes, in four areas: the trampoline,
the signal information, the user context and the machine context. The writer and the reader each
count offsets of their own; here both are held against one table of extents.

* `SigFrame.layout`: the fields lie one behind the other, and with them the areas.
* `toBytes_eq_image`: the image has each field on its extent and zeros elsewhere.
* `bytesOf_ofBytes`: what the reader takes is what stands on the extents of the fields it reads.
* `image_roundtrips`: an image gives its frame back, and what was read is written where it was.
-/
namespace TrapLayer

namespace SigFrame

/-! ## The areas -/

inductive Area
  | trampoline | info | userContext | machineContext
  deriving DecidableEq, Repr

namespace Area

def all : List Area := [trampoline, info, userContext, machineContext]

def extent : Area → Extent
  | trampoline => ⟨trampOff, 16⟩
  | info => ⟨infoOff, SigInfo.wireSize⟩
  | userContext => ⟨ucOff, 176⟩
  | machineContext => ⟨mcOff, size - mcOff⟩

end Area

def areas : ImageLayout Area where
  fields := Area.all
  extent := Area.extent
  size := size
  complete := fun a => by cases a <;> decide
  ascending := by decide

/-! ## The fields -/

inductive Field
  | instruction (i : Fin 4)
  | signo | errno | code | addr | value
  | ucFlags | ucLink | stackSp | stackFlags | stackSize | mask
  | pc
  | reg (i : Fin 32)
  | flags
  deriving DecidableEq, Repr

namespace Field

/-- The fields between the trampoline and the registers. -/
def single : List Field :=
  [signo, errno, code, addr, value, ucFlags, ucLink, stackSp, stackFlags, stackSize, mask, pc]

def all : List Field :=
  (List.finRange 4).map instruction ++ (single ++ ((List.finRange 32).map reg ++ [flags]))

def area : Field → Area
  | instruction _ => .trampoline
  | signo | errno | code | addr | value => .info
  | ucFlags | ucLink | stackSp | stackFlags | stackSize | mask => .userContext
  | pc | reg _ | flags => .machineContext

def extent : Field → Extent
  | instruction i => ⟨trampOff + i.val * 4, 4⟩
  | signo => ⟨infoOff, 4⟩
  | errno => ⟨infoOff + 4, 4⟩
  | code => ⟨infoOff + 8, 4⟩
  | addr => ⟨infoOff + 16, 8⟩
  | value => ⟨infoOff + 24, 8⟩
  | ucFlags => ⟨ucFlagsOff, 8⟩
  | ucLink => ⟨ucLinkOff, 8⟩
  | stackSp => ⟨ucStackOff, 8⟩
  | stackFlags => ⟨ucStackOff + 8, 4⟩
  | stackSize => ⟨ucStackOff + 16, 8⟩
  | mask => ⟨ucSigmaskOff, 8⟩
  | pc => ⟨scPcOff, 8⟩
  | reg i => ⟨scRegsOff + i.val * 8, 8⟩
  | flags => ⟨scFlagsOff, 4⟩

/-- The fields that are read back: those of the two contexts. -/
def readBack (x : Field) : Bool := x.area == .userContext || x.area == .machineContext

theorem mem_all (x : Field) : x ∈ all := by
  cases x with
  | instruction i => simp [all]
  | reg i => simp [all]
  | _ => decide

theorem extent_inside (x : Field) : x.extent.Inside x.area.extent := by
  cases x with
  | instruction i => revert i; decide
  | reg i => revert i; decide
  | _ => decide

end Field

/-- The table of the fields. -/
def layout : ImageLayout Field where
  fields := Field.all
  extent := Field.extent
  size := size
  complete := Field.mem_all
  ascending := by decide +kernel

/-- The bytes of a field. -/
def bytesOf (f : SigFrame) : Field → Bytes
  | .instruction i => le32 (trampoline.get i)
  | .signo => le32 f.info.signo.toUInt32
  | .errno => le32 f.info.errno.toUInt32
  | .code => le32 f.info.code.toUInt32
  | .addr => le64 f.info.addr
  | .value => le64 f.info.value
  | .ucFlags => le64 f.ucFlags
  | .ucLink => le64 f.ucLink
  | .stackSp => le64 f.stack.sp
  | .stackFlags => le32 f.stack.flags
  | .stackSize => le64 f.stack.size
  | .mask => le64 f.mask.bits
  | .pc => le64 f.context.pc
  | .reg i => le64 (f.context.regs.read i)
  | .flags => le32 f.context.flags

theorem length_bytesOf (f : SigFrame) (x : Field) : (f.bytesOf x).length = x.extent.width := by
  cases x <;> simp [bytesOf, Field.extent]

/-! ## The writer -/

theorem flatMap_instructions (f : SigFrame) :
    ((List.finRange 4).map Field.instruction).flatMap f.bytesOf = trampoline.flatMap le32 := rfl

theorem flatMap_regs (f : SigFrame) :
    ((List.finRange 32).map Field.reg).flatMap f.bytesOf = wordsLe f.context.regs.toList := by
  rw [wordsLe, Words.toList_eq_map_get, List.flatMap_map, List.flatMap_map]
  rfl

/-- The fields between the trampoline and the registers, with the padding among them. -/
theorem fill_single (f : SigFrame) (xs : List Field) :
    fill Field.extent size 0 f.bytesOf infoOff (Field.single ++ xs) =
      f.info.toBytes ++ le64 f.ucFlags ++ le64 f.ucLink ++
        le64 f.stack.sp ++ le32 f.stack.flags ++ List.replicate 4 0 ++ le64 f.stack.size ++
        le64 f.mask.bits ++ List.replicate 128 0 ++ le64 f.context.pc ++
        fill Field.extent size 0 f.bytesOf scRegsOff xs := by
  simp only [Field.single, List.cons_append, List.nil_append, fill, Field.extent, Extent.stop,
    bytesOf, SigInfo.toBytes, List.append_assoc]
  -- what is left is the arithmetic of the offsets
  simp only [ucFlagsOff, ucLinkOff, ucStackOff, ucSigmaskOff, scRegsOff, scPcOff, mcOff, ucOff,
    infoOff, SigInfo.wireSize, Nat.reduceAdd, Nat.reduceSub, List.replicate_zero, List.nil_append]

/-- The image has each field on its extent, and zeros everywhere else. -/
theorem toBytes_eq_image (f : SigFrame) : f.toBytes = layout.image 0 f.bytesOf := by
  have htramp : Packed Field.extent 0 ((List.finRange 4).map Field.instruction) infoOff := by
    decide
  have hregs : Packed Field.extent scRegsOff ((List.finRange 32).map Field.reg) scFlagsOff := by
    decide +kernel
  have hflags : fill Field.extent size 0 f.bytesOf scFlagsOff [.flags] =
      le32 f.context.flags ++ List.replicate 4 0 := rfl
  show _ = fill Field.extent size 0 f.bytesOf 0 Field.all
  rw [Field.all, fill_append_of_packed htramp, flatMap_instructions, fill_single,
    fill_append_of_packed hregs, flatMap_regs, hflags]
  simp only [toBytes, List.append_assoc]

theorem slice_toBytes (f : SigFrame) (x : Field) : x.extent.slice f.toBytes = f.bytesOf x := by
  rw [toBytes_eq_image]
  exact ImageLayout.slice_image (l := layout) f.length_bytesOf x

/-! ## The reader -/

theorem bytesOf_ofBytes {b : Bytes} (hb : size ≤ b.length) {x : Field} (hx : x.readBack = true) :
    (ofBytes b).bytesOf x = x.extent.slice b := by
  have hx' : x.extent.stop ≤ b.length := Nat.le_trans (layout.within x) hb
  cases x with
  | instruction | signo | errno | code | addr | value => cases hx
  | stackFlags | flags => exact le32_word32 hx'
  | reg i =>
    have hread : (ofBytes b).context.regs.read i = word64 b (scRegsOff + i.val * 8) := by
      simp [ofBytes, RegFile.read]
    rw [bytesOf, hread]
    exact le64_word64 hx'
  | _ => exact le64_word64 hx'

/-- The fields that are read back make up a frame but for its information. -/
theorem eq_of_bytesOf {f g : SigFrame}
    (h : ∀ x : Field, x.readBack = true → f.bytesOf x = g.bytesOf x) :
    { f with info := .blank } = { g with info := .blank } := by
  have hregs : f.context.regs = g.context.regs :=
    Vector.ext fun i hi => le64_inj (h (.reg ⟨i, hi⟩) rfl)
  show SigFrame.mk .blank f.ucFlags f.ucLink ⟨f.stack.sp, f.stack.flags, f.stack.size⟩
      ⟨f.mask.bits⟩ ⟨f.context.pc, f.context.regs, f.context.flags⟩ =
    SigFrame.mk .blank g.ucFlags g.ucLink ⟨g.stack.sp, g.stack.flags, g.stack.size⟩
      ⟨g.mask.bits⟩ ⟨g.context.pc, g.context.regs, g.context.flags⟩
  rw [le64_inj (h .ucFlags rfl), le64_inj (h .ucLink rfl), le64_inj (h .stackSp rfl),
    le32_inj (h .stackFlags rfl), le64_inj (h .stackSize rfl), le64_inj (h .mask rfl),
    le64_inj (h .pc rfl), hregs, le32_inj (h .flags rfl)]

/-! ## Writing and reading -/

theorem ofBytes_toBytes (f : SigFrame) : ofBytes f.toBytes = { f with info := .blank } := by
  have hsame : ∀ x : Field, x.readBack = true → (ofBytes f.toBytes).bytesOf x = f.bytesOf x := by
    intro x hx
    rw [bytesOf_ofBytes (Nat.le_of_eq f.length_toBytes.symm) hx, slice_toBytes]
  have hblank : { ofBytes f.toBytes with info := .blank } = ofBytes f.toBytes := rfl
  rw [← hblank]
  exact eq_of_bytesOf hsame

theorem exists_toBytes_eq (f : SigFrame) : ∃ rest : Bytes,
    f.toBytes = trampoline.flatMap le32 ++ (f.info.toBytes ++ rest) := by
  unfold toBytes
  simp only [List.append_assoc]
  exact ⟨_, rfl⟩

/-- Every frame has an image of 592 bytes, with the trampoline in front and the signal information
behind it. Each field stands in it as its bytes: written into zeros, in any order and any number of
times, the fields give the image. The frame comes back from its image, but for the information.
What is read from any bytes is written where it was read, so that it is read again as it was. And
every field lies in the image, none on another one or in an area other than its own. -/
theorem image_roundtrips :
    (∀ f : SigFrame,
      f.toBytes.length = size ∧
      f.toBytes.take 16 = trampoline.flatMap le32 ∧
      (f.toBytes.drop infoOff).take SigInfo.wireSize = f.info.toBytes ∧
      (∀ x : Field, x.extent.slice f.toBytes = f.bytesOf x) ∧
      (∀ order : List Field, (∀ x, x ∈ order) →
        order.foldl (fun b x => x.extent.overwrite (f.bytesOf x) b) (List.replicate size 0) =
          f.toBytes) ∧
      ofBytes f.toBytes = { f with info := .blank }) ∧
    (∀ b : Bytes, size ≤ b.length →
      (∀ x : Field, x.readBack = true →
        x.extent.slice (ofBytes b).toBytes = x.extent.slice b) ∧
      ofBytes (ofBytes b).toBytes = ofBytes b) ∧
    (∀ x : Field, x.extent.stop ≤ size) ∧
    (∀ x y : Field, x ≠ y → x.extent.Apart y.extent) ∧
    ∀ (x : Field) (a : Area), x.area ≠ a → x.extent.Apart a.extent := by
  refine ⟨fun f => ⟨f.length_toBytes, ?_, ?_, f.slice_toBytes, ?_, f.ofBytes_toBytes⟩,
    fun b hb => ⟨?_, ?_⟩, layout.within, fun x y => layout.apart,
    fun x a hne => (areas.apart hne).of_inside x.extent_inside⟩
  · obtain ⟨rest, himage⟩ := f.exists_toBytes_eq
    rw [himage]
    exact List.take_left' (by decide)
  · obtain ⟨rest, himage⟩ := f.exists_toBytes_eq
    rw [himage]
    exact Extent.slice_append (e := ⟨infoOff, SigInfo.wireSize⟩) (by decide)
      (SigInfo.length_toBytes _)
  · intro order horder
    rw [toBytes_eq_image]
    exact ImageLayout.foldl_overwrite_blank (l := layout) f.length_bytesOf horder
  · intro x hx
    rw [slice_toBytes, bytesOf_ofBytes hb hx]
  · exact (ofBytes b).ofBytes_toBytes

/-- Bytes that no writer left: the two contexts are read and written back as they stand, the
information and the padding are not. The fields may as well be written from the last one to the
first. -/
theorem image_roundtrips_forged :
    let b : Bytes := (List.range 600).map fun i => UInt8.ofNat (7 * i + 3)
    let f := ofBytes b
    size ≤ b.length ∧ f.toBytes ≠ b.take size ∧
      Field.mask.extent.slice f.toBytes = [0x0b, 0x12, 0x19, 0x20, 0x27, 0x2e, 0x35, 0x3c] ∧
      Field.all.reverse.foldl (fun b x => x.extent.overwrite (f.bytesOf x) b)
        (List.replicate size 0) = f.toBytes ∧
      ofBytes f.toBytes = f ∧
      Field.mask.extent.Apart Field.pc.extent ∧
      Field.mask.extent.Apart Area.machineContext.extent := by
  intro b f
  have hlen : size ≤ b.length := by decide +kernel
  obtain ⟨hwrites, hreads, -, hfields, hareas⟩ := image_roundtrips
  obtain ⟨-, -, -, -, horder, -⟩ := hwrites f
  obtain ⟨hslice, hagain⟩ := hreads b hlen
  refine ⟨hlen, by decide +kernel, ?_, horder _ fun x => List.mem_reverse.2 x.mem_all, hagain,
    hfields _ _ (by decide), hareas _ _ (by decide)⟩
  rw [hslice .mask rfl]
  decide +kernel

end SigFrame

end TrapLayer
