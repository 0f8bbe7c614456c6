import TrapLayer.Frame.Exception
import TrapLayer.Ident

/-!
# Syscall numbers, arguments and tables

A number goes to the standard table, to the extended table, to the signal return, or nowhere. A
table slot holds at most one handler, and the first to be registered keeps it. Tables are
parametric in what a handler is.

* `lookup_register_same`, `lookup_register_of_ne`: what registering one slot changes.
-/
namespace TrapLayer

/-- Arguments of a syscall: six words. -/
structure SyscallArgs where
  words : Vector UInt64 6
  deriving DecidableEq, Repr

/-- Why a handler was stopped over its arguments. -/
inductive ArgError
  | outOfBounds (index : Nat)
  deriving DecidableEq, Repr

def ArgError.message : ArgError → String
  | outOfBounds i => "index out of bounds: the len is 6 but the index is " ++ toString i

namespace SyscallArgs

/-- Arguments of a standard syscall: `a0` to `a5`. -/
def ofFrame (f : ExceptionFrame) : SyscallArgs :=
  ⟨Vector.ofFn fun i => f.regs[4 + i.val]⟩

/-- The extended slot whose handler works on the frame itself. -/
def frameSlot : Nat := 0

/-- Arguments of an extended syscall. The frame slot is given the address of the frame in place of
`a0`; every other slot sees the registers of the caller. -/
def extended (f : ExceptionFrame) (slot : Nat) (frameAddr : UInt64) : SyscallArgs :=
  if slot = frameSlot then ⟨(ofFrame f).words.set 0 frameAddr⟩ else ofFrame f

/-- Argument `i`; a handler that asks for one past the sixth is stopped. -/
def get (a : SyscallArgs) (i : Nat) : Except ArgError UInt64 :=
  if h : i < 6 then .ok a.words[i] else .error (.outOfBounds i)

def text (a : SyscallArgs) : String :=
  "Args \x7b regs: [" ++ ", ".intercalate (a.words.toList.map toString) ++ "] \x7d"

end SyscallArgs

/-- Why a table refused a number or a slot. -/
inductive SyscallError
  /-- The number has no handler. -/
  | invalidSyscall (nr : UInt64)
  /-- The slot is outside the table. -/
  | outOfRange (slot : Nat)
  | alreadyRegistered (slot : Nat)
  deriving DecidableEq, Repr

def SyscallError.message : SyscallError → String
  | invalidSyscall nr => "InvalidSyscall(" ++ toString nr ++ ")"
  | outOfRange slot => "OutOfRange(" ++ toString slot ++ ")"
  | alreadyRegistered slot => "AlreadyRegistered(" ++ toString slot ++ ")"

/-- Handlers of type `α` in `n` slots. -/
structure SyscallTable (α : Type) (n : Nat) where
  slots : Vector (Option α) n

namespace SyscallTable

variable {α β : Type} {n : Nat}

def empty : SyscallTable α n := ⟨Vector.replicate n none⟩

/-- The handler in a slot, if the slot exists and is taken. -/
def lookup (t : SyscallTable α n) (slot : Nat) : Option α := t.slots[slot]?.join

/-- Puts a handler into an empty slot. -/
def register (t : SyscallTable α n) (slot : Nat) (h : α) : Except SyscallError (SyscallTable α n) :=
  if hs : slot < n then
    if (t.lookup slot).isSome then .error (.alreadyRegistered slot)
    else .ok ⟨t.slots.set slot (some h)⟩
  else .error (.outOfRange slot)

/-- The handler that a call of `slot` runs. -/
def dispatch (t : SyscallTable α n) (slot : Nat) : Except SyscallError α :=
  match t.lookup slot with
  | some h => .ok h
  | none => .error (.invalidSyscall (UInt64.ofNat slot))

def map (f : α → β) (t : SyscallTable α n) : SyscallTable β n := ⟨t.slots.map (Option.map f)⟩

/-- The table of `f slot h` for each handler `h` and its slot. -/
def mapIdx (f : Nat → α → β) (t : SyscallTable α n) : SyscallTable β n :=
  ⟨t.slots.mapIdx fun slot h => h.map (f slot)⟩

theorem lookup_register_same {t t' : SyscallTable α n} {slot : Nat} {h : α}
    (e : t.register slot h = .ok t') : t'.lookup slot = some h := by
  unfold register at e
  split at e
  · split at e
    · cases e
    · cases e; simp [lookup, *]
  · cases e

theorem lookup_register_of_ne {t t' : SyscallTable α n} {slot other : Nat} {h : α}
    (e : t.register slot h = .ok t') (ne : other ≠ slot) : t'.lookup other = t.lookup other := by
  unfold register at e
  split at e
  · split at e
    · cases e
    · cases e; simp [lookup, Ne.symm ne]
  · cases e

end SyscallTable

/-- Number of the signal return. -/
def sigReturnNumber : UInt64 := 139

/-- Number of the call that continues an interrupted one. -/
def restartNumber : UInt64 := 128

/-- Where a syscall number goes. -/
inductive SyscallRoute
  | sigReturn
  | standard (slot : Nat)
  | extended (slot : Nat)
  | invalid (nr : UInt64)
  deriving DecidableEq, Repr

namespace SyscallRoute

def text : SyscallRoute → String
  | sigReturn => "SigReturn"
  | standard slot => "Standard(" ++ toString slot ++ ")"
  | extended slot => "Extended(" ++ toString slot ++ ")"
  | invalid nr => "Invalid(" ++ toString nr ++ ")"

/-- The signal return is routed before the tables, so it never reaches one. -/
def ofNumber (nr : UInt64) : SyscallRoute :=
  if nr = sigReturnNumber then sigReturn
  else if nr.toNat < standardSyscalls then standard nr.toNat
  else if extendedStart ≤ nr.toNat ∧ nr.toNat - extendedStart < extendedSyscalls then
    extended (nr.toNat - extendedStart)
  else invalid nr

end SyscallRoute

/-- The standard and the extended table. -/
structure SyscallTables (α : Type) where
  standard : SyscallTable α standardSyscalls
  extended : SyscallTable α extendedSyscalls

namespace SyscallTables

variable {α β : Type}

def empty : SyscallTables α := ⟨.empty, .empty⟩

/-- Registers a handler under a full syscall number. -/
def register (t : SyscallTables α) (nr : UInt64) (h : α) : Except SyscallError (SyscallTables α) :=
  match SyscallRoute.ofNumber nr with
  | .standard slot => (t.standard.register slot h).map fun s => { t with standard := s }
  | .extended slot => (t.extended.register slot h).map fun s => { t with extended := s }
  | .sigReturn | .invalid _ => .error (.invalidSyscall nr)

/-- The tables of `f framed h` for each handler `h`, where `framed` says that its first argument is
the address of the frame. -/
def map (f : Bool → α → β) (t : SyscallTables α) : SyscallTables β :=
  ⟨t.standard.map (f false), t.extended.mapIdx fun slot => f (slot == SyscallArgs.frameSlot)⟩

end SyscallTables

end TrapLayer
