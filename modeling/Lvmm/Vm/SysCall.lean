import Mathlib.Data.Int.Basic

/-!
# System calls and the ioctl wrapper

The environment answers every system call with a value or a positive `errno`.
`BaseClass::kvmIoctl` re-encodes a failing answer as `-errno`; the methods above
it either pass the value through or replace it by zero, and report `-errno`
when the wrapper's result is negative.
-/

namespace Lvmm.Vm.SysCall

/-- A value of `errno` as a failing call leaves it. -/
structure Errno where
  value : Nat
  positive : 0 < value
deriving DecidableEq

/-- The environment's answer to one system call. -/
inductive SysResult where
  | ok (value : Nat)
  | error (errno : Errno)
deriving DecidableEq

namespace SysResult

/-- The call did not fail. -/
def Succeeded : SysResult → Prop
  | .ok _ => True
  | .error _ => False

instance (result : SysResult) : Decidable result.Succeeded :=
  match result with
  | .ok _ => isTrue trivial
  | .error _ => isFalse id

/-- `errno` after the call, which the ioctl wrapper resets before it. -/
def errno : SysResult → Int
  | .ok _ => 0
  | .error errno => errno.value

@[simp]
theorem succeeded_ok (value : Nat) : (ok value).Succeeded :=
  trivial

@[simp]
theorem not_succeeded_error (errno : Errno) :
    ¬ (error errno).Succeeded :=
  id

end SysResult

/-- `BaseClass::kvmIoctl`. -/
def kvmIoctl : SysResult → Int
  | .ok value => value
  | .error errno => -(errno.value : Int)

theorem kvmIoctl_neg_iff (answer : SysResult) :
    kvmIoctl answer < 0 ↔ ¬ answer.Succeeded := by
  cases answer with
  | ok value =>
      simp [kvmIoctl]
  | error errno =>
      have positive := errno.positive
      simp only [kvmIoctl, SysResult.not_succeeded_error,
        not_false_eq_true, iff_true]
      omega

/-- The tail `if (r < 0) return -errno; return r;` of a method of `VM`. -/
def valueOrErrno (answer : SysResult) : Int :=
  if kvmIoctl answer < 0 then -answer.errno else kvmIoctl answer

/-- The tail `if (r < 0) return -errno; return 0;` of a method. -/
def zeroOrErrno (answer : SysResult) : Int :=
  if kvmIoctl answer < 0 then -answer.errno else 0

@[simp]
theorem valueOrErrno_ok (value : Nat) :
    valueOrErrno (.ok value) = value := by
  rw [valueOrErrno, if_neg (by simp [kvmIoctl_neg_iff]), kvmIoctl]

@[simp]
theorem valueOrErrno_error (errno : Errno) :
    valueOrErrno (.error errno) = -(errno.value : Int) := by
  rw [valueOrErrno, if_pos (by simp [kvmIoctl_neg_iff]),
    SysResult.errno]

@[simp]
theorem zeroOrErrno_ok (value : Nat) :
    zeroOrErrno (.ok value) = 0 := by
  rw [zeroOrErrno, if_neg (by simp [kvmIoctl_neg_iff])]

@[simp]
theorem zeroOrErrno_error (errno : Errno) :
    zeroOrErrno (.error errno) = -(errno.value : Int) := by
  rw [zeroOrErrno, if_pos (by simp [kvmIoctl_neg_iff]), SysResult.errno]

theorem valueOrErrno_neg_iff (answer : SysResult) :
    valueOrErrno answer < 0 ↔ ¬ answer.Succeeded := by
  cases answer with
  | ok value => simp
  | error errno =>
      have positive := errno.positive
      simp only [valueOrErrno_error, SysResult.not_succeeded_error,
        not_false_eq_true, iff_true]
      omega

@[simp]
theorem zeroOrErrno_eq_zero_iff (answer : SysResult) :
    zeroOrErrno answer = 0 ↔ answer.Succeeded := by
  cases answer with
  | ok value => simp
  | error errno =>
      have positive := errno.positive
      simp only [zeroOrErrno_error, SysResult.not_succeeded_error,
        iff_false]
      omega

theorem zeroOrErrno_error_ne (errno : Errno) :
    zeroOrErrno (.error errno) ≠ 0 := by
  rw [Ne, zeroOrErrno_eq_zero_iff]
  exact id

/-! ## The interrupt line -/

/-- `VM::irqLine`, given the answer to its `KVM_IRQ_LINE` ioctl. -/
def irqLine (answer : SysResult) : Int :=
  zeroOrErrno answer

/--
`VM::flapIRQLine`: its return value and the levels the line was driven to, in
order.  A failing ioctl leaves the line alone and ends the flap.
-/
def flapIrqLine (low high : SysResult) : Int × List Bool :=
  if irqLine low ≠ 0 then (irqLine low, [])
  else if irqLine high ≠ 0 then (irqLine high, [false])
  else (0, [false, true])

theorem flapIrqLine_of_succeeded
    {low high : SysResult}
    (lowSucceeded : low.Succeeded) (highSucceeded : high.Succeeded) :
    flapIrqLine low high = (0, [false, true]) := by
  simp [flapIrqLine, irqLine, lowSucceeded, highSucceeded]

end Lvmm.Vm.SysCall
