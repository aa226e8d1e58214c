import Mathlib.Data.List.Enum
import Mathlib.Logic.Function.Basic
import Lvmm.Device.IoDev
import Lvmm.Library.OverrideTable

/-!
# The port I/O handler table

`VM::pio_handler` has `PIO_PORT_NUM` rows of two handlers, and `PIO_PORT_NUM` is
`UINT16_MAX`: the array has no row for port 0xFFFF.  `VM::registerPIOHandler`
counts with a 16-bit variable up to a 16-bit bound, and `VM::initPIOHandler`
narrows `port + size` of a device to that width, so a device which ends at the
top of the I/O space is registered over the empty range.
-/

namespace Lvmm.Vm.PortIo

open Lvmm.Device.IoDev
open Lvmm.Device.Com1Device
open Lvmm.Library.OverrideTable

/-! ## The table -/

/-- `PIO_PORT_NUM`, which is `UINT16_MAX`. -/
def pioPortNum : UInt16 := 0xFFFF

/-- `KVM_EXIT_IO_IN` and `KVM_EXIT_IO_OUT`. -/
inductive Direction where
  | input
  | output
deriving DecidableEq, Repr

/--
The functions which are ever stored in the table.  A lambda captures the pointer
of a device, here its index in `VM::iodev`.
-/
inductive PioHandler where
  | defaultPioHandler
  | doNothingPioHandler
  | resetGeneratorHandlerOut
  | readFunc (device : Nat)
  | writeFunc (device : Nat)
deriving DecidableEq, Repr

/-- `VM::pio_handler`; `none` is a `std::function` without a target. -/
abbrev PioTable :=
  Fin pioPortNum.toNat × Direction → Option PioHandler

/-- `VM::pio_handler` before any registration. -/
def emptyTable : PioTable := fun _ => none

theorem index_lt {port portEnd : UInt16} (below : port < portEnd) :
    port.toNat < pioPortNum.toNat := by
  have small : portEnd.toNat < 2 ^ 16 := portEnd.toNat_lt
  have ordered : port.toNat < portEnd.toNat := below
  change port.toNat < 65535
  omega

theorem toNat_succ {port portEnd : UInt16} (below : port < portEnd) :
    (port + 1).toNat = port.toNat + 1 := by
  have small : portEnd.toNat < 2 ^ 16 := portEnd.toNat_lt
  have ordered : port.toNat < portEnd.toNat := below
  rw [UInt16.toNat_add]
  change (port.toNat + 1) % 65536 = port.toNat + 1
  omega

/-- One iteration of the loop in `VM::registerPIOHandler`. -/
def storeRow
    (inFunc outFunc : PioHandler) (index : Fin pioPortNum.toNat)
    (table : PioTable) : PioTable :=
  Function.update
    (Function.update table (index, .input) (some inFunc))
    (index, .output) (some outFunc)

/--
The loop of `VM::registerPIOHandler`.  The comparison with a 16-bit bound keeps
the counter from wrapping and the index inside the array.
-/
def registerLoop
    (inFunc outFunc : PioHandler) (port portEnd : UInt16)
    (table : PioTable) : PioTable :=
  if below : port < portEnd then
    registerLoop inFunc outFunc (port + 1) portEnd
      (storeRow inFunc outFunc ⟨port.toNat, index_lt below⟩ table)
  else table
termination_by portEnd.toNat - port.toNat
decreasing_by
  have ordered : port.toNat < portEnd.toNat := below
  rw [toNat_succ below]
  omega

/-- `VM::registerPIOHandler`. -/
def registerPioHandler
    (portStart portEnd : UInt16) (inFunc outFunc : PioHandler)
    (table : PioTable) : PioTable :=
  registerLoop inFunc outFunc portStart portEnd table

/-- One call of `VM::registerPIOHandler`. -/
structure Registration where
  portStart : UInt16
  portEnd : UInt16
  inFunc : PioHandler
  outFunc : PioHandler

/-- The handler a registration stores for a direction. -/
def Registration.handler (call : Registration) : Direction → PioHandler
  | .input => call.inFunc
  | .output => call.outFunc

/-- The port lies in the half-open range of the registration. -/
def Registration.covers (call : Registration) (port : Nat) : Bool :=
  decide (call.portStart.toNat ≤ port ∧ port < call.portEnd.toNat)

def Registration.perform (table : PioTable) (call : Registration) :
    PioTable :=
  registerPioHandler call.portStart call.portEnd call.inFunc call.outFunc
    table

/-- A registration with the do-nothing handler in both directions. -/
def doNothing (portStart portEnd : UInt16) : Registration :=
  { portStart, portEnd
    inFunc := .doNothingPioHandler, outFunc := .doNothingPioHandler }

/-- The calls of `VM::initPIOHandler` before the loop over the devices. -/
def fixedRegistrations : List Registration :=
  [ { portStart := 0, portEnd := pioPortNum
      inFunc := .defaultPioHandler, outFunc := .defaultPioHandler },
    -- alternate port 0xed based delay
    doNothing 0xED 0xEE,
    -- COM4 and COM2
    doNothing 0x2E8 0x2F0,
    doNothing 0x2F8 0x300,
    -- VGA
    doNothing 0x3B0 0x3BC,
    doNothing 0x3C0 0x3E0,
    -- COM3
    doNothing 0x3E8 0x3F0,
    doNothing 0xCFA 0xCFC,
    -- reset generator
    { portStart := 0xCF9, portEnd := 0xCFA
      inFunc := .defaultPioHandler
      outFunc := .resetGeneratorHandlerOut },
    -- PCI configuration mechanism 1, its address and its data port
    doNothing 0xCF8 0xCF9,
    doNothing 0xCFE 0xCFF,
    doNothing 0xCFC 0xCFD,
    -- PCI configuration mechanism 2
    doNothing 0xC000 0xD000,
    -- PS2 controller
    doNothing 0x60 0x70 ]

/-- The call for one device: `port + size` is narrowed to 16 bits. -/
def deviceRegistration (entry : IODev × Nat) : Registration :=
  { portStart := entry.1.port
    portEnd := entry.1.port + entry.1.size.toUInt16
    inFunc := .readFunc entry.2
    outFunc := .writeFunc entry.2 }

/-- All calls of `VM::initPIOHandler`, in order. -/
def registrations (iodev : List IODev) : List Registration :=
  fixedRegistrations ++ iodev.zipIdx.map deviceRegistration

/-- `VM::initPIOHandler`. -/
def initPioHandler (iodev : List IODev) (table : PioTable) : PioTable :=
  (registrations iodev).foldl Registration.perform table

/-! ## The table after registrations -/

/-- A registration as an update of the table. -/
def Registration.update (call : Registration) :
    Update (Fin pioPortNum.toNat × Direction) (Option PioHandler) where
  covers slot := call.covers slot.1
  value slot := some (call.handler slot.2)

/-- A store to both directions of a row changes that row only. -/
theorem update_row_apply
    {Handler : Type*} (handler : Direction → Handler)
    (index : Fin pioPortNum.toNat)
    (table : Fin pioPortNum.toNat × Direction → Handler)
    (slot : Fin pioPortNum.toNat × Direction) :
    Function.update
        (Function.update table (index, .input) (handler .input))
        (index, .output) (handler .output) slot =
      if slot.1.val = index.val then handler slot.2 else table slot := by
  rcases slot with ⟨port, direction⟩
  by_cases same : port = index
  · subst same
    cases direction <;> simp [Function.update]
  · simp [Function.update, same, Fin.val_inj]

/-- The first row of a range and the rows after it make up the range. -/
theorem first_then_rest
    {Value : Type*} {first stop row : Nat} (ordered : first < stop)
    (stored kept : Value) :
    (if first + 1 ≤ row ∧ row < stop then stored
      else if row = first then stored else kept) =
      if first ≤ row ∧ row < stop then stored else kept := by
  by_cases same : row = first
  · rw [if_neg (by omega), if_pos same, if_pos (by omega)]
  · rw [if_neg same]
    by_cases covered : first ≤ row ∧ row < stop
    · rw [if_pos covered, if_pos (by omega)]
    · rw [if_neg covered, if_neg (by omega)]

theorem storeRow_apply
    (inFunc outFunc : PioHandler) (index : Fin pioPortNum.toNat)
    (table : PioTable) (slot : Fin pioPortNum.toNat × Direction) :
    storeRow inFunc outFunc index table slot =
      if slot.1.val = index.val then
        some (match slot.2 with
          | .input => inFunc
          | .output => outFunc)
      else table slot := by
  have row := update_row_apply
    (fun direction : Direction =>
      some (match direction with
        | .input => inFunc
        | .output => outFunc))
    index table slot
  exact row

theorem registerLoop_apply
    (inFunc outFunc : PioHandler) (port portEnd : UInt16)
    (table : PioTable) (slot : Fin pioPortNum.toNat × Direction) :
    registerLoop inFunc outFunc port portEnd table slot =
      if port.toNat ≤ slot.1 ∧ slot.1 < portEnd.toNat then
        some (match slot.2 with
          | .input => inFunc
          | .output => outFunc)
      else table slot := by
  induction port, table using registerLoop.induct inFunc outFunc portEnd with
  | case1 port table below induction =>
      have ordered : port.toNat < portEnd.toNat := below
      rw [registerLoop, dif_pos below, induction, toNat_succ below,
        storeRow_apply]
      exact first_then_rest ordered _ _
  | case2 port table done =>
      have ordered : ¬ port.toNat < portEnd.toNat := done
      rw [registerLoop, dif_neg done, if_neg (by omega)]

/-- A registration overwrites exactly its half-open range. -/
theorem perform_eq_apply (table : PioTable) (call : Registration) :
    call.perform table = call.update.apply table := by
  funext slot
  simp only [Registration.perform, registerPioHandler, registerLoop_apply,
    Update.apply, Registration.update, Registration.covers,
    Registration.handler, decide_eq_true_eq]

theorem foldl_perform_eq_applyAll
    (table : PioTable) (calls : List Registration) :
    calls.foldl Registration.perform table =
      applyAll table (calls.map Registration.update) := by
  rw [applyAll, List.foldl_map]
  congr
  funext current call
  exact perform_eq_apply current call

/-- After any registrations, the last one covering a port decides its row. -/
theorem registrations_apply
    (table : PioTable) (calls : List Registration)
    (slot : Fin pioPortNum.toNat × Direction) :
    calls.foldl Registration.perform table slot =
      match lastWhere (fun call => call.covers slot.1) calls with
      | some call => some (call.handler slot.2)
      | none => table slot := by
  rw [foldl_perform_eq_applyAll, applyAll_eq, lastWhere_map]
  simp only [Registration.update]
  cases lastWhere (fun call => call.covers slot.1) calls <;> rfl

/-- An input slot of the table never holds an output function. -/
theorem inFunc_of_registration
    {iodev : List IODev} {call : Registration}
    (member : call ∈ registrations iodev) :
    call.inFunc = .defaultPioHandler ∨ call.inFunc = .doNothingPioHandler ∨
      ∃ device, call.inFunc = .readFunc device := by
  rcases List.mem_append.mp member with fixed | ofDevice
  · have known :
        ∀ call ∈ fixedRegistrations,
          call.inFunc = .defaultPioHandler ∨
            call.inFunc = .doNothingPioHandler := by
      decide
    rcases known call fixed with default | nothing
    · exact Or.inl default
    · exact Or.inr (Or.inl nothing)
  · rcases List.mem_map.mp ofDevice with ⟨entry, _, rfl⟩
    exact Or.inr (Or.inr ⟨entry.2, rfl⟩)

theorem initPioHandler_input
    {iodev : List IODev} {port : Fin pioPortNum.toNat}
    {handler : PioHandler}
    (entry :
      initPioHandler iodev emptyTable (port, .input) = some handler) :
    handler = .defaultPioHandler ∨ handler = .doNothingPioHandler ∨
      ∃ device, handler = .readFunc device := by
  rw [initPioHandler, registrations_apply] at entry
  cases last :
      lastWhere (fun call => call.covers port) (registrations iodev) with
  | none =>
      rw [last] at entry
      cases entry
  | some call =>
      rw [last] at entry
      cases entry
      exact inFunc_of_registration (lastWhere_some last).1

/-! ## The intended table -/

/-- The last device of the list whose ports contain a port, with its index. -/
def containing (iodev : List IODev) (port : Nat) : Option (IODev × Nat) :=
  lastWhere (fun entry => decide (entry.1.Contains port)) iodev.zipIdx

/-- `Read` or `Write` of a device. -/
def accessFunc (device : Nat) : Direction → PioHandler
  | .input => .readFunc device
  | .output => .writeFunc device

/--
The handler which should serve a port: an access function of the last device
containing it, else the handler of the last fixed registration covering it.
-/
def intendedHandler
    (iodev : List IODev) (port : Nat) (direction : Direction) :
    PioHandler :=
  match containing iodev port with
  | some entry => accessFunc entry.2 direction
  | none =>
      match lastWhere (fun call => call.covers port) fixedRegistrations with
      | some call => call.handler direction
      | none => .defaultPioHandler

/-- The row of the port is inside the array and holds the intended handler. -/
def Served
    (iodev : List IODev) (table : PioTable)
    (port : UInt16) (direction : Direction) : Prop :=
  ∃ inside : port.toNat < pioPortNum.toNat,
    initPioHandler iodev table (⟨port.toNat, inside⟩, direction) =
      some (intendedHandler iodev port.toNat direction)

theorem inside_iff (port : UInt16) :
    port.toNat < pioPortNum.toNat ↔ port ≠ 0xFFFF := by
  have small : port.toNat < 2 ^ 16 := port.toNat_lt
  rw [Ne, ← UInt16.toNat_inj]
  change port.toNat < 65535 ↔ port.toNat ≠ 65535
  omega

/-- A device is registered over its range unless that ends at 0x10000. -/
theorem deviceRegistration_covers
    {entry : IODev × Nat} (fits : entry.1.Fits) (port : Nat) :
    (deviceRegistration entry).covers port = true ↔
      entry.1.Contains port ∧
        entry.1.port.toNat + entry.1.size.toNat ≠ 0x10000 := by
  have stop :
      (deviceRegistration entry).portEnd.toNat =
        (entry.1.port.toNat + entry.1.size.toNat) % 65536 := by
    simp [deviceRegistration, UInt16.toNat_add]
  have bound : entry.1.port.toNat + entry.1.size.toNat ≤ 0x10000 := fits
  rw [Registration.covers, decide_eq_true_iff, stop]
  change
    entry.1.port.toNat ≤ port ∧
        port < (entry.1.port.toNat + entry.1.size.toNat) % 65536 ↔
      (entry.1.port.toNat ≤ port ∧
          port < entry.1.port.toNat + entry.1.size.toNat) ∧
        entry.1.port.toNat + entry.1.size.toNat ≠ 0x10000
  omega

theorem fixed_handler_ne
    {call : Registration} (member : call ∈ fixedRegistrations)
    (device : Nat) (direction : Direction) :
    call.handler direction ≠ accessFunc device direction := by
  simp only [fixedRegistrations, List.mem_cons, List.not_mem_nil,
    or_false] at member
  rcases member with
    rfl | rfl | rfl | rfl | rfl | rfl | rfl | rfl | rfl | rfl | rfl | rfl |
      rfl | rfl <;>
    cases direction <;>
    simp [Registration.handler, accessFunc, doNothing]

/-- Every port of the array is covered by the first registration. -/
theorem fixed_covers
    {port : Nat} (inside : port < pioPortNum.toNat) :
    ∃ call,
      lastWhere (fun call => call.covers port) fixedRegistrations =
        some call := by
  cases last :
      lastWhere (fun call => call.covers port) fixedRegistrations with
  | some call => exact ⟨call, rfl⟩
  | none =>
      rw [lastWhere_eq_none_iff] at last
      have uncovered := last _ List.mem_cons_self
      have covered : port < pioPortNum.toNat := inside
      simp [Registration.covers] at uncovered
      omega

theorem lastWhere_registrations (iodev : List IODev) (port : Nat) :
    lastWhere (fun call => call.covers port) (registrations iodev) =
      ((lastWhere
          (fun entry => (deviceRegistration entry).covers port)
          iodev.zipIdx).map deviceRegistration).or
        (lastWhere (fun call => call.covers port) fixedRegistrations) := by
  rw [registrations, lastWhere_append, lastWhere_map]

theorem zipIdx_index_inj
    {iodev : List IODev} {left right : IODev × Nat}
    (leftMember : left ∈ iodev.zipIdx)
    (rightMember : right ∈ iodev.zipIdx)
    (same : left.2 = right.2) : left = right := by
  have leftAt := List.mem_zipIdx_iff_getElem?.mp leftMember
  have rightAt := List.mem_zipIdx_iff_getElem?.mp rightMember
  rw [same, rightAt] at leftAt
  exact Prod.ext (Option.some.inj leftAt).symm same

section Served

variable {iodev : List IODev}

/-- The array has no row for the last port. -/
theorem not_served_top
    (iodev : List IODev) (table : PioTable) (direction : Direction) :
    ¬ Served iodev table 0xFFFF direction := by
  rintro ⟨inside, _⟩
  exact (inside_iff _).mp inside rfl

/-- Where no device contains the port, the fixed registrations decide. -/
theorem served_of_not_contained
    (fits : ∀ dev ∈ iodev, dev.Fits) (table : PioTable)
    {port : UInt16} (direction : Direction)
    (inside : port.toNat < pioPortNum.toNat)
    (missed : containing iodev port.toNat = none) :
    Served iodev table port direction := by
  have unregistered :
      lastWhere
          (fun entry => (deviceRegistration entry).covers port.toNat)
          iodev.zipIdx = none := by
    rw [containing, lastWhere_eq_none_iff] at missed
    rw [lastWhere_eq_none_iff]
    intro entry member
    have outside := missed entry member
    rw [decide_eq_false_iff_not] at outside
    rw [Bool.eq_false_iff]
    intro covered
    exact outside
      ((deviceRegistration_covers
        (fits entry.1 (List.fst_mem_of_mem_zipIdx member)) _).mp covered).1
  rcases fixed_covers inside with ⟨call, last⟩
  refine ⟨inside, ?_⟩
  rw [initPioHandler, registrations_apply, lastWhere_registrations,
    unregistered, intendedHandler, missed]
  simp [last]

/-- A device whose range ends below 0x10000 serves the ports it contains. -/
theorem served_of_contained
    (fits : ∀ dev ∈ iodev, dev.Fits) (table : PioTable)
    {port : UInt16} (direction : Direction) {entry : IODev × Nat}
    (inside : port.toNat < pioPortNum.toNat)
    (found : containing iodev port.toNat = some entry)
    (below : entry.1.port.toNat + entry.1.size.toNat ≠ 0x10000) :
    Served iodev table port direction := by
  rcases lastWhere_some found with ⟨member, contains⟩
  have entryFits := fits entry.1 (List.fst_mem_of_mem_zipIdx member)
  have registered :
      lastWhere
          (fun entry => (deviceRegistration entry).covers port.toNat)
          iodev.zipIdx = some entry := by
    refine lastWhere_of_stronger ?_ found ?_
    · intro other otherMember covered
      have otherFits :=
        fits other.1 (List.fst_mem_of_mem_zipIdx otherMember)
      simpa using
        ((deviceRegistration_covers otherFits _).mp covered).1
    · exact (deviceRegistration_covers entryFits _).mpr
        ⟨by simpa using contains, below⟩
  refine ⟨inside, ?_⟩
  rw [initPioHandler, registrations_apply, lastWhere_registrations,
    registered, intendedHandler, found]
  cases direction <;> rfl

/-- A device whose range ends at 0x10000 serves no port. -/
theorem not_served_of_full
    (fits : ∀ dev ∈ iodev, dev.Fits) (table : PioTable)
    {port : UInt16} (direction : Direction) {entry : IODev × Nat}
    (found : containing iodev port.toNat = some entry)
    (full : entry.1.port.toNat + entry.1.size.toNat = 0x10000) :
    ¬ Served iodev table port direction := by
  rintro ⟨inside, served⟩
  rcases lastWhere_some found with ⟨member, _⟩
  have entryFits := fits entry.1 (List.fst_mem_of_mem_zipIdx member)
  rw [initPioHandler, registrations_apply, lastWhere_registrations,
    intendedHandler, found] at served
  cases registered :
      lastWhere
        (fun entry => (deviceRegistration entry).covers port.toNat)
        iodev.zipIdx with
  | some other =>
      rcases lastWhere_some registered with ⟨otherMember, covered⟩
      rw [registered] at served
      have sameIndex : other.2 = entry.2 := by
        cases direction <;>
          simpa [deviceRegistration, Registration.handler, accessFunc]
            using served
      have same := zipIdx_index_inj otherMember member sameIndex
      subst same
      exact ((deviceRegistration_covers entryFits _).mp covered).2 full
  | none =>
      rcases fixed_covers inside with ⟨call, last⟩
      rw [registered, last] at served
      exact fixed_handler_ne (lastWhere_some last).1 entry.2 direction
        (Option.some.inj served)

/--
Every access to a port reaches the intended handler exactly when the port is not
0xFFFF and the device which should serve it does not end at 0x10000.
-/
theorem served_iff
    (fits : ∀ dev ∈ iodev, dev.Fits) (table : PioTable)
    (port : UInt16) (direction : Direction) :
    Served iodev table port direction ↔
      port ≠ 0xFFFF ∧
        ∀ entry, containing iodev port.toNat = some entry →
          entry.1.port.toNat + entry.1.size.toNat ≠ 0x10000 := by
  constructor
  · intro served
    refine ⟨?_, ?_⟩
    · rintro rfl
      exact not_served_top iodev table direction served
    · intro entry found full
      exact not_served_of_full fits table direction found full served
  · rintro ⟨notTop, below⟩
    have inside := (inside_iff port).mpr notTop
    cases found : containing iodev port.toNat with
    | none => exact served_of_not_contained fits table direction inside found
    | some entry =>
        exact served_of_contained fits table direction inside found
          (below entry found)

end Served

theorem machine_fits (cmosIndex : UInt8) :
    ∀ dev ∈ machineIodev cmosIndex, dev.Fits := by
  intro dev member
  simp only [machineIodev, List.mem_cons, List.not_mem_nil,
    or_false] at member
  rcases member with rfl | rfl | rfl <;> exact of_decide_eq_true rfl

/-- In the machine's own table the ports of COM1 reach COM1. -/
theorem machine_com1
    (cmosIndex : UInt8) (table : PioTable) (port : Com1Port)
    (direction : Direction)
    (inside : port.number.toNat < pioPortNum.toNat) :
    initPioHandler (machineIodev cmosIndex) table
        (⟨port.number.toNat, inside⟩, direction) =
      some (accessFunc 2 direction) := by
  have found :
      containing (machineIodev cmosIndex) port.number.toNat =
        some (newCom1, 2) := by
    cases port <;> rfl
  rcases served_of_contained (machine_fits cmosIndex) table direction
      inside found (by decide) with ⟨_, served⟩
  rw [served, intendedHandler, found]

/-- In the machine's own table port 0x60 has the do-nothing handler. -/
theorem machine_port60
    (cmosIndex : UInt8) (table : PioTable) (direction : Direction)
    (inside : (0x60 : UInt16).toNat < pioPortNum.toNat) :
    initPioHandler (machineIodev cmosIndex) table
        (⟨(0x60 : UInt16).toNat, inside⟩, direction) =
      some .doNothingPioHandler := by
  have missed :
      containing (machineIodev cmosIndex) (0x60 : UInt16).toNat = none :=
    rfl
  rcases served_of_not_contained (machine_fits cmosIndex) table direction
      inside missed with ⟨_, served⟩
  rw [served, intendedHandler, missed]
  cases direction <;> rfl

/-- The machine's own devices serve the line status register of COM1. -/
theorem served_iff_com1_lsr :
    Served [newPost, newCmos 0, newCom1] emptyTable 0x3FD .input ↔
      (0x3FD : UInt16) ≠ 0xFFFF ∧
        ∀ entry,
          containing [newPost, newCmos 0, newCom1]
              (0x3FD : UInt16).toNat = some entry →
            entry.1.port.toNat + entry.1.size.toNat ≠ 0x10000 :=
  served_iff (by decide) emptyTable 0x3FD .input

/--
Neither the last port of the machine nor a port of a device which ends at the top
of the I/O space is served.
-/
theorem not_served_at_the_top :
    ¬ Served [newPost, newCmos 0, newCom1] emptyTable 0xFFFF .input ∧
      ¬ Served [{ port := 0xFFF0, size := 0x10, device := .post }]
        emptyTable 0xFFF5 .input :=
  ⟨not_served_top _ _ _,
    not_served_of_full (by decide) emptyTable .input rfl rfl⟩

end Lvmm.Vm.PortIo
