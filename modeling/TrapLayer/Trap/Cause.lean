import TrapLayer.Paging.Entry

/-!
# Trap causes

The cause word of a trap holds an exception code, a subcode and the pending interrupt lines.
`classify` alone decides what a trap is: a syscall, an interrupt, a page miss to resolve, or a fault
that stops the system whatever privilege it came from.
-/
namespace TrapLayer

/-- Exception code of a cause word: bits 21 to 16. -/
def exceptionCode (estat : UInt64) : Nat := estat.toNat / 2 ^ 16 % 2 ^ 6

/-- Exception subcode of a cause word: bits 30 to 22. -/
def exceptionSubcode (estat : UInt64) : Nat := estat.toNat / 2 ^ 22 % 2 ^ 9

/-- Pending interrupt lines of a cause word: bits 12 to 0. -/
def pendingLines (estat : UInt64) : Nat := estat.toNat % 2 ^ 13

/-- Exceptions that have a code. -/
inductive Ecode
  | int | pil | pis | pif | pme | pnr | pnx | ppi | ade | ale | bce | sys | brk | ine | ipe
  | fpd | sxd | asxd | fpe | wpe | btd | bte | gspr | hvc | gcm
  deriving DecidableEq, Repr

namespace Ecode

/-- Every exception, in the order of the codes `0, 1, 2, …`. -/
def all : List Ecode :=
  [int, pil, pis, pif, pme, pnr, pnx, ppi, ade, ale, bce, sys, brk, ine, ipe, fpd, sxd, asxd,
    fpe, wpe, btd, bte, gspr, hvc, gcm]

def ofCode? (code : Nat) : Option Ecode := all[code]?

/-- The mnemonic. -/
def name : Ecode → String
  | int => "INT" | pil => "PIL" | pis => "PIS" | pif => "PIF" | pme => "PME" | pnr => "PNR"
  | pnx => "PNX" | ppi => "PPI" | ade => "ADE" | ale => "ALE" | bce => "BCE" | sys => "SYS"
  | brk => "BRK" | ine => "INE" | ipe => "IPE" | fpd => "FPD" | sxd => "SXD" | asxd => "ASXD"
  | fpe => "FPE" | wpe => "WPE" | btd => "BTD" | bte => "BTE" | gspr => "GSPR" | hvc => "HVC"
  | gcm => "GCM"

/-- The mnemonic of a code; codes without an exception are reserved. -/
def nameOf (code : Nat) : String := ((ofCode? code).map name).getD "RSV"

end Ecode

/-- What kind of fault stops the system. -/
inductive FaultClass
  /-- The page is present but the access is not permitted. -/
  | pageProtection
  /-- A page-invalid exception that the walk could not resolve. -/
  | unresolvedMiss
  | addressError (fetch : Bool)
  | alignment
  | boundCheck
  | breakpoint
  | reservedInstruction
  | privilegedInstruction
  | fpDisabled
  | lsxDisabled
  | lasxDisabled
  | fpException (vector : Bool)
  | watchpoint
  | lbtDisabled
  | lbtException
  | virtualization
  /-- A syscall instruction executed in kernel mode. -/
  | kernelSyscall
  | reserved (code : Nat)
  deriving DecidableEq, Repr

def FaultClass.text : FaultClass → String
  | pageProtection => "PageProtection"
  | unresolvedMiss => "UnresolvedMiss"
  | addressError fetch => "AddressError \x7b fetch: " ++ toString fetch ++ " \x7d"
  | alignment => "Alignment"
  | boundCheck => "BoundCheck"
  | breakpoint => "Breakpoint"
  | reservedInstruction => "ReservedInstruction"
  | privilegedInstruction => "PrivilegedInstruction"
  | fpDisabled => "FpDisabled"
  | lsxDisabled => "LsxDisabled"
  | lasxDisabled => "LasxDisabled"
  | fpException vector => "FpException \x7b vector: " ++ toString vector ++ " \x7d"
  | watchpoint => "Watchpoint"
  | lbtDisabled => "LbtDisabled"
  | lbtException => "LbtException"
  | virtualization => "Virtualization"
  | kernelSyscall => "KernelSyscall"
  | reserved code => "Reserved(" ++ toString code ++ ")"

/-- What a trap is. -/
inductive TrapCause
  | syscall
  | interrupt
  | miss (kind : MissKind)
  | fatal (fault : FaultClass)
  deriving DecidableEq, Repr

def TrapCause.text : TrapCause → String
  | syscall => "Syscall"
  | interrupt => "Interrupt"
  | miss kind => "TlbMiss(" ++ kind.text ++ ")"
  | fatal fault => "Fatal(" ++ fault.text ++ ")"

/-- What a trap with that exception is, taken from user mode or not. -/
def Ecode.cause (subcode : Nat) (fromUser : Bool) : Ecode → TrapCause
  | int => .interrupt
  | sys => if fromUser then .syscall else .fatal .kernelSyscall
  | pil => .miss .load
  | pis => .miss .store
  | pif => .miss .fetch
  | pme => .miss .modify
  | pnr | pnx | ppi => .fatal .pageProtection
  | ade => .fatal (.addressError (subcode == 0))
  | ale => .fatal .alignment
  | bce => .fatal .boundCheck
  | brk => .fatal .breakpoint
  | ine => .fatal .reservedInstruction
  | ipe => .fatal .privilegedInstruction
  | fpd => .fatal .fpDisabled
  | sxd => .fatal .lsxDisabled
  | asxd => .fatal .lasxDisabled
  | fpe => .fatal (.fpException (subcode == 1))
  | wpe => .fatal .watchpoint
  | btd => .fatal .lbtDisabled
  | bte => .fatal .lbtException
  | gspr | hvc | gcm => .fatal .virtualization

/-- What a trap with that cause word is, taken from user mode or not. -/
def classify (estat : UInt64) (fromUser : Bool) : TrapCause :=
  match Ecode.ofCode? (exceptionCode estat) with
  | some e => e.cause (exceptionSubcode estat) fromUser
  | none => .fatal (.reserved (exceptionCode estat))

end TrapLayer
