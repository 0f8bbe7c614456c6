/-!
# Control and status registers

The registers the trap layer touches, their architectural numbers, and the register file of a
core. A register never written reads as zero.

* `CsrFile.read_write`: a write is read back and no other register changes.
-/
namespace TrapLayer

inductive Csr
  | crmd | prmd | euen | ecfg | estat | era | badv | eentry
  | tlbIdx | tlbEhi | tlbElo0 | tlbElo1
  | asid | pgdl | pgdh | pwctl0 | pwctl1 | stlbps
  | cpuId | ks0 | ks1 | ks2 | tmid | tlbrEntry | tlbrEhi
  deriving DecidableEq, Repr

namespace Csr

/-- Every register, by number. -/
def all : List Csr :=
  [crmd, prmd, euen, ecfg, estat, era, badv, eentry, tlbIdx, tlbEhi, tlbElo0, tlbElo1, asid,
    pgdl, pgdh, pwctl0, pwctl1, stlbps, cpuId, ks0, ks1, ks2, tmid, tlbrEntry, tlbrEhi]

/-- The number an access instruction names the register by. -/
def number : Csr → Nat
  | crmd => 0x0 | prmd => 0x1 | euen => 0x2 | ecfg => 0x4 | estat => 0x5 | era => 0x6
  | badv => 0x7 | eentry => 0xc | tlbIdx => 0x10 | tlbEhi => 0x11 | tlbElo0 => 0x12
  | tlbElo1 => 0x13 | asid => 0x18 | pgdl => 0x19 | pgdh => 0x1a | pwctl0 => 0x1c
  | pwctl1 => 0x1d | stlbps => 0x1e | cpuId => 0x20 | ks0 => 0x30 | ks1 => 0x31 | ks2 => 0x32
  | tmid => 0x40 | tlbrEntry => 0x88 | tlbrEhi => 0x8e

def text : Csr → String
  | crmd => "Crmd" | prmd => "Prmd" | euen => "Euen" | ecfg => "Ecfg" | estat => "Estat"
  | era => "Era" | badv => "Badv" | eentry => "Eentry" | tlbIdx => "TlbIdx"
  | tlbEhi => "TlbEhi" | tlbElo0 => "TlbElo0" | tlbElo1 => "TlbElo1" | asid => "Asid"
  | pgdl => "Pgdl" | pgdh => "Pgdh" | pwctl0 => "Pwctl0" | pwctl1 => "Pwctl1"
  | stlbps => "Stlbps" | cpuId => "CpuId" | ks0 => "Ks0" | ks1 => "Ks1" | ks2 => "Ks2"
  | tmid => "Tmid" | tlbrEntry => "TlbrEntry" | tlbrEhi => "TlbrEhi"

/-- The register of that name. -/
def ofText? (s : String) : Option Csr := all.find? (·.text == s)

end Csr

/-! ## Fields of the mode registers -/

/-- Privilege level field of the current and the previous mode. -/
def plvMask : UInt64 := 0x3

def plvKernel : UInt64 := 0

def plvUser : UInt64 := 3

/-- Interrupt enable of the current mode. -/
def crmdIe : UInt64 := 0x4

/-- Mapped address translation of the current mode. -/
def crmdPg : UInt64 := 0x10

/-- Interrupt enable of the previous mode. -/
def prmdPie : UInt64 := 0x4

/-- Watchpoint enable of the previous mode. -/
def prmdPwe : UInt64 := 0x8

/-- The previous mode that a first entry to user mode installs. -/
def prmdUserEntry : UInt64 := plvUser ||| prmdPie ||| prmdPwe

/-- Unit enables: scalar FPU, 128-bit vectors, 256-bit vectors, binary translation. -/
def euenFpe : UInt64 := 0x1

def euenSxe : UInt64 := 0x2

def euenAsxe : UInt64 := 0x4

def euenBte : UInt64 := 0x8

/-! ## The register file -/

structure CsrFile where
  read : Csr → UInt64

namespace CsrFile

/-- The register file of a core on which nothing was written. -/
def zero : CsrFile := ⟨fun _ => 0⟩

def write (f : CsrFile) (c : Csr) (v : UInt64) : CsrFile :=
  ⟨fun d => if d = c then v else f.read d⟩

theorem read_write (f : CsrFile) (c d : Csr) (v : UInt64) :
    (f.write c v).read d = if d = c then v else f.read d := rfl

end CsrFile

end TrapLayer
