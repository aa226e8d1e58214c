import Lvmm.Vcpu.RunLoop
import Lvmm.Vm.PortBus

/-!
# The machine a guest sees

What the run loop of a virtual CPU is for, without its table of handlers: an exit
is resumed, stops the machine, or makes accesses to a port of the bus.  The loop
over the machine's own table and this machine go through the same exits in the
same states, so what holds of the devices on the bus holds of `VM::iodev`.
-/

namespace Lvmm.Vcpu.GuestMachine

open Lvmm.Device.CmosAccess
open Lvmm.Device.CmosDevice
open Lvmm.Device.CmosMemory
open Lvmm.Device.IoDev
open Lvmm.Library.CellMemory
open Lvmm.Library.LabelledRun
open Lvmm.Library.StoppingLoop
open Lvmm.Vcpu.RunLoop
open Lvmm.Vcpu.RunOnce
open Lvmm.Vm.PortBus
open Lvmm.Vm.PortIo

/-! ## Accesses of an exit -/

/-- What an exit asks of the machine. -/
inductive ExitKind where
  | resume
  | stop
  | io (io : KvmIo)

/-- The exit which a page describes. -/
def exitKind (run : KvmRun) : ExitKind :=
  if run.exitReason = kvmExitUnknown ∨ run.exitReason = kvmExitIntr then
    .resume
  else if run.exitReason = kvmExitIo then .io run.io
  else .stop

/-- An element of an I/O exit as an access. -/
def accessOf (io : KvmIo) (host : HostAnswers) (cell : UInt8) : PortAccess :=
  { host, direction := io.direction, port := io.port, size := io.size, cell }

/-- The handler call of an access at a place of the data area. -/
def callOf (pointer : Nat) (access : PortAccess) : HandlerCall :=
  { port := access.port, pointer, size := access.size }

/-- The byte the elements share, the platform and the accesses made so far. -/
structure Transfer where
  cell : UInt8
  platform : Platform
  log : List PortAccess

/-- The transfer after an access to it, and how it ends the exit. -/
def Transfer.store (transfer : Transfer) (access : PortAccess) :
    AccessRun → Transfer × Option Outcome
  | .returned result cell platform =>
      ({ cell, platform, log := transfer.log ++ [access] },
        if result ≠ 0 then some (.returned 1) else none)
  | .outOfBounds => (transfer, some .outOfBounds)

/-- One element of an I/O exit; the last port has no row in the table. -/
def busCycle
    (host : Nat → HostAnswers) (io : KvmIo) (index : Nat)
    (transfer : Transfer) : Transfer × Option Outcome :=
  if io.port = 0xFFFF then (transfer, some .outOfBounds)
  else
    let access := accessOf io (host index) transfer.cell
    transfer.store access (transfer.platform.access access)

/-- All elements of an I/O exit. -/
def busCycles
    (host : Nat → HostAnswers) (io : KvmIo) (transfer : Transfer) :
    Transfer × Option Outcome :=
  runUntil (busCycle host io) (List.range io.count.toNat) transfer

/-! ## The machine -/

/-- The shared page, the platform and the accesses completed so far. -/
structure Machine where
  status : Status
  run : KvmRun
  data : Memory UInt8
  platform : Platform
  log : List PortAccess

/-- The machine which enters its run loop. -/
def Machine.enter (run : KvmRun) (data : Memory UInt8) (platform : Platform) :
    Machine :=
  { status := .running, run, data, platform, log := [] }

/-- The machine after the page's exit. -/
def Machine.exit
    (machine : Machine) (iteration : Iteration) (page : KvmPage) : Machine :=
  match exitKind page.run with
  | .resume =>
      { machine with
        status := .running, run := page.run, data := page.data }
  | .stop =>
      { machine with
        status := .ended (.returned (giveUp iteration))
        run := page.run, data := page.data }
  | .io io =>
      let (transfer, stopped) :=
        busCycles iteration.host io
          { cell := page.data io.dataOffset.toNat
            platform := machine.platform, log := [] }
      { status := afterOnce iteration (stopped.getD (.returned 0))
        run := page.run
        data :=
          Function.update page.data io.dataOffset.toNat transfer.cell
        platform := transfer.platform
        log := machine.log ++ transfer.log }

/-- One iteration: the ioctl leaves a page, and the machine takes its exit. -/
def Machine.iterate (machine : Machine) (iteration : Iteration) : Machine :=
  machine.exit iteration
    (iteration.kvmRun.written.getD { run := machine.run, data := machine.data })

/-- The machine iterates while it is running. -/
def Machine.step (machine : Machine) (iteration : Iteration) :
    Option Machine :=
  match machine.status with
  | .running => some (machine.iterate iteration)
  | .ended _ => none

/-! ## The handlers serve the bus -/

/-- `VM::iodev` with the members of a platform. -/
def iodevOf (platform : Platform) : List IODev :=
  [ newPost,
    { newCmos 0 with device := .cmos platform.cmos },
    { newCom1 with device := .com1 platform.serial.com1 } ]

/-- The state of the handlers which a platform and a data area make up. -/
def ioState (platform : Platform) (data : Memory UInt8) : IoState :=
  { data, iodev := iodevOf platform
    stdout := platform.serial.stdout, irqLevels := platform.serial.irqLevels }

theorem iodevOf_start (cmosIndex : UInt8) :
    iodevOf (.start cmosIndex) = machineIodev cmosIndex :=
  rfl

/-- A handler's run as an access's run. -/
def handlerRun (data : Memory UInt8) (pointer : Nat) :
    AccessRun → HandlerRun
  | .returned result cell platform =>
      .returned result
        (ioState platform (Function.update data pointer cell))
  | .outOfBounds => .outOfBounds

/-- The CMOS is the second device of the machine. -/
theorem invoke_cmos
    (platform : Platform) (data : Memory UInt8) (pointer : Nat)
    (access : PortAccess) (offered : access.cell = data pointer) :
    invoke (accessFunc 1 access.direction) access.host
        (callOf pointer access) (ioState platform data) =
      handlerRun data pointer
        (platform.storeCmos (access.toCmos.run platform.cmos)) := by
  rcases access with ⟨host, direction, port, size, cell⟩
  cases offered
  cases direction with
  | input =>
      change
        (ioState platform data).store 1 pointer
            { newCmos 0 with device := .cmos platform.cmos }
            (.ofCmos (platform.cmos.read host.now port (data pointer) size)) =
          handlerRun data pointer
            (platform.storeCmos
              (platform.cmos.read host.now port (data pointer) size))
      cases platform.cmos.read host.now port (data pointer) size with
      | outOfBounds => rfl
      | returned result cell cmos =>
          simp [DeviceRun.ofCmos, IoState.store, Platform.storeCmos,
            handlerRun, ioState, iodevOf]
  | output =>
      change
        (ioState platform data).store 1 pointer
            { newCmos 0 with device := .cmos platform.cmos }
            (.ofCmos (platform.cmos.write port (data pointer) size)) =
          handlerRun data pointer
            (platform.storeCmos
              (platform.cmos.write port (data pointer) size))
      cases platform.cmos.write port (data pointer) size with
      | outOfBounds => rfl
      | returned result cell cmos =>
          simp [DeviceRun.ofCmos, IoState.store, Platform.storeCmos,
            handlerRun, ioState, iodevOf]

/-- The UART is the third device of the machine. -/
theorem invoke_com1
    (platform : Platform) (data : Memory UInt8) (pointer : Nat)
    (access : PortAccess) (offered : access.cell = data pointer) :
    invoke (accessFunc 2 access.direction) access.host
        (callOf pointer access) (ioState platform data) =
      handlerRun data pointer
        (.returned (platform.serial.access access).1
          (platform.serial.access access).2.1
          { platform with serial := (platform.serial.access access).2.2 }) := by
  rcases access with ⟨host, direction, port, size, cell⟩
  cases offered
  cases direction with
  | input =>
      simp [invoke, accessFunc, IoState.access, IoState.store, callOf,
        DeviceClass.read, SerialLine.access, handlerRun, ioState, iodevOf]
  | output =>
      simp [invoke, accessFunc, IoState.access, IoState.store, callOf,
        DeviceClass.write, SerialLine.access, handlerRun, ioState, iodevOf]

/-- The POST device ignores every access. -/
theorem invoke_post
    (platform : Platform) (data : Memory UInt8) (pointer : Nat)
    (access : PortAccess) (offered : access.cell = data pointer) :
    invoke (accessFunc 0 access.direction) access.host
        (callOf pointer access) (ioState platform data) =
      handlerRun data pointer (.returned 0 access.cell platform) := by
  rcases access with ⟨host, direction, port, size, cell⟩
  cases offered
  cases direction with
  | input =>
      simp [invoke, accessFunc, IoState.access, IoState.store, callOf,
        DeviceClass.read, handlerRun, ioState, iodevOf, newPost]
  | output =>
      simp [invoke, accessFunc, IoState.access, IoState.store, callOf,
        DeviceClass.write, handlerRun, ioState, iodevOf, newPost]

/-- The function of a port's owner does what the access does. -/
theorem invoke_handler
    (platform : Platform) (data : Memory UInt8) (pointer : Nat)
    (access : PortAccess) (offered : access.cell = data pointer) :
    invoke (access.wire.handler access.direction) access.host
        (callOf pointer access) (ioState platform data) =
      handlerRun data pointer (platform.access access) := by
  have kept : Function.update data pointer access.cell = data := by
    rw [offered, Function.update_eq_self]
  rw [Platform.access]
  cases access.wire with
  | post => exact invoke_post platform data pointer access offered
  | cmos => exact invoke_cmos platform data pointer access offered
  | com1 => exact invoke_com1 platform data pointer access offered
  | tolerated | resetGenerator | unclaimed =>
      simp only [Wire.handler, invoke, handlerRun, kept]

/-! ## An exit -/

/-- The handler calls are those of the accesses, in order. -/
def Named (calls : List HandlerCall) (log : List PortAccess) : Prop :=
  calls.map (fun call => (call.port, call.size)) =
    log.map fun access => (access.port, access.size)

theorem Named.append
    {calls later : List HandlerCall} {log next : List PortAccess}
    (first : Named calls log) (rest : Named later next) :
    Named (calls ++ later) (log ++ next) := by
  rw [Named, List.map_append, List.map_append, first, rest]

/-- The loop of an exit and the transfer hold the same. -/
structure Transferring
    (io : KvmIo) (data : Memory UInt8) (loop : IoLoop)
    (transfer : Transfer) : Prop where
  state :
    loop.state =
      ioState transfer.platform
        (Function.update data io.dataOffset.toNat transfer.cell)
  named : Named loop.calls transfer.log

/-- Stopped as well; only an access outside an array is not completed. -/
structure TransferStopped
    (io : KvmIo) (data : Memory UInt8) (outcome : Outcome)
    (loop : IoLoop) (transfer : Transfer) : Prop where
  state :
    loop.state =
      ioState transfer.platform
        (Function.update data io.dataOffset.toNat transfer.cell)
  named : outcome ≠ .outOfBounds → Named loop.calls transfer.log

/-- An element of an exit is an access to the bus. -/
theorem ioCall_agree
    (host : Nat → HostAnswers) (io : KvmIo) (data : Memory UInt8)
    (index : Nat) {loop : IoLoop} {transfer : Transfer}
    (related : Transferring io data loop transfer) :
    Agree (Transferring io data) (TransferStopped io data)
      (ioCall machineTable host io index loop)
      (busCycle host io index transfer) := by
  rcases related with ⟨state, named⟩
  by_cases top : io.port = 0xFFFF
  · have outside : ¬ io.port.toNat < pioPortNum.toNat := by
      rw [inside_iff]
      exact not_not_intro top
    rw [ioCall, dif_neg outside, busCycle, if_pos top]
    exact ⟨rfl, state, fun lost => absurd rfl lost⟩
  · have inside := (inside_iff io.port).mpr top
    generalize access_eq : accessOf io (host index) transfer.cell = access
    have row :
        machineTable (⟨io.port.toNat, inside⟩, io.direction) =
          some (access.wire.handler access.direction) := by
      subst access_eq
      exact machine_row 0 emptyTable inside io.direction
    have ran :
        invoke (access.wire.handler access.direction) (host index) io.call
            loop.state =
          handlerRun
            (Function.update data io.dataOffset.toNat transfer.cell)
            io.dataOffset.toNat (transfer.platform.access access) := by
      subst access_eq
      rw [state]
      refine invoke_handler transfer.platform _ _ _ ?_
      rw [Function.update_self]
      rfl
    have together :
        Named (loop.calls ++ [io.call]) (transfer.log ++ [access]) := by
      subst access_eq
      exact named.append rfl
    rw [ioCall, dif_pos inside, row, busCycle, if_neg top]
    simp only [ran, access_eq]
    cases transfer.platform.access access with
    | outOfBounds =>
        exact ⟨rfl, state, fun lost => absurd rfl lost⟩
    | returned result cell platform =>
        have left :
            ioState platform
                (Function.update
                  (Function.update data io.dataOffset.toNat transfer.cell)
                  io.dataOffset.toNat cell) =
              ioState platform
                (Function.update data io.dataOffset.toNat cell) := by
          rw [Function.update_idem]
        simp only [handlerRun, afterCall, Transfer.store]
        by_cases zero : result = 0
        · rw [if_neg (not_not_intro zero)]
          exact ⟨left, together⟩
        · rw [if_pos zero]
          exact ⟨rfl, left, fun _ => together⟩

/-- All elements of an exit are accesses to the bus. -/
theorem ioLoop_agree
    (host : Nat → HostAnswers) (io : KvmIo) (platform : Platform)
    (data : Memory UInt8) :
    Agree (Transferring io data) (TransferStopped io data)
      (ioLoop machineTable host io (ioState platform data))
      (busCycles host io
        { cell := data io.dataOffset.toNat, platform, log := [] }) := by
  refine runUntil_agree ⟨?_, rfl⟩ fun index _ _ _ => ioCall_agree host io data index
  rw [Function.update_eq_self]

/-! ## The loop and the machine -/

/-- `RunOnce` resumes, stops or dispatches. -/
theorem runOnce_exitKind
    (table : PioTable) (host : Nat → HostAnswers) (run : KvmRun)
    (state : IoState) :
    runOnce table host run state =
      match exitKind run with
      | .resume =>
          { outcome := .returned 0, dispatched := none, calls := [], state }
      | .stop =>
          { outcome := .returned 1, dispatched := none, calls := [], state }
      | .io io => dispatchIo table host io state := by
  by_cases resumed :
      run.exitReason = kvmExitUnknown ∨ run.exitReason = kvmExitIntr
  · rw [runOnce, exitKind, if_pos resumed, if_pos resumed]
  · by_cases io : run.exitReason = kvmExitIo
    · rw [runOnce_io table host io, exitKind, if_neg resumed, if_pos io]
    · rw [runOnce, exitKind, if_neg resumed, if_neg resumed, if_neg io,
        if_neg io, ite_self]

/-- The loop and the machine are at the same exit in the same state. -/
structure Matches (state : LoopState) (machine : Machine) : Prop where
  status : state.status = machine.status
  run : state.run = machine.run
  io : state.io = ioState machine.platform machine.data
  named : state.status ≠ .ended .outOfBounds →
    Named (state.handled.map Prod.snd) machine.log

theorem enter_matches
    (run : KvmRun) (data : Memory UInt8) (platform : Platform) :
    Matches (.enter run (ioState platform data))
      (.enter run data platform) :=
  ⟨rfl, rfl, rfl, fun _ => rfl⟩

/-- The handler calls of an iteration, without its number. -/
theorem handled_snd
    (earlier : List (Nat × HandlerCall)) (ioctls : Nat)
    (calls : List HandlerCall) :
    (earlier ++ calls.map fun call => (ioctls, call)).map Prod.snd =
      earlier.map Prod.snd ++ calls := by
  rw [List.map_append, List.map_map]
  congr
  exact List.map_id calls

/-- An iteration keeps the loop and the machine together. -/
theorem iterate_matches
    {state : LoopState} {machine : Machine} (iteration : Iteration)
    (running : state.status = .running) (together : Matches state machine) :
    Matches (RunLoop.iterate machineTable state iteration)
      (machine.iterate iteration) := by
  rcases together with ⟨status, run, io, named⟩
  have earlier : Named (state.handled.map Prod.snd) machine.log := by
    apply named
    rw [running]
    simp
  rw [Machine.iterate, ← run,
    show machine.data = state.io.data by rw [io]; rfl]
  simp only [RunLoop.iterate]
  generalize
    iteration.kvmRun.written.getD
      { run := state.run, data := state.io.data } = page
  have moved :
      { state.io with data := page.data } =
        ioState machine.platform page.data := by
    rw [io]
    rfl
  rw [moved, runOnce_exitKind, Machine.exit]
  cases exitKind page.run with
  | resume =>
      refine ⟨rfl, rfl, rfl, fun _ => ?_⟩
      simpa using earlier
  | stop =>
      refine ⟨rfl, rfl, rfl, fun _ => ?_⟩
      simpa using earlier
  | io io =>
      have alike :=
        ioLoop_agree iteration.host io machine.platform page.data
      simp only [dispatchIo]
      generalize
        ioLoop machineTable iteration.host io
          (ioState machine.platform page.data) = left at alike ⊢
      generalize
        busCycles iteration.host io
          { cell := page.data io.dataOffset.toNat
            platform := machine.platform, log := [] } = right at alike ⊢
      rcases left with ⟨loop, _ | outcome⟩ <;>
        rcases right with ⟨transfer, _ | other⟩
      · refine ⟨rfl, rfl, alike.state, fun _ => ?_⟩
        rw [handled_snd]
        exact earlier.append alike.named
      · cases alike
      · cases alike
      · rcases alike with ⟨rfl, stopped⟩
        refine ⟨rfl, rfl, stopped.state, fun completed => ?_⟩
        rw [handled_snd]
        refine earlier.append (stopped.named ?_)
        rintro rfl
        exact completed rfl

/-- A step of the loop, matched by the machine, and the other way round. -/
theorem step_matches
    {state : LoopState} {machine : Machine} (iteration : Iteration)
    (together : Matches state machine) :
    (∀ target, RunLoop.step machineTable state iteration = some target →
      ∃ next, machine.step iteration = some next ∧ Matches target next) ∧
    ∀ next, machine.step iteration = some next →
      ∃ target, RunLoop.step machineTable state iteration = some target ∧
        Matches target next := by
  rw [RunLoop.step, Machine.step, ← together.status]
  cases running : state.status with
  | ended outcome =>
      refine ⟨?_, ?_⟩
      · rintro target ⟨⟩
      · rintro next ⟨⟩
  | running =>
      have kept := iterate_matches iteration running together
      refine ⟨?_, ?_⟩
      · rintro target ⟨⟩
        exact ⟨_, rfl, kept⟩
      · rintro next ⟨⟩
        exact ⟨_, rfl, kept⟩

section Runs

variable {run : KvmRun} {data : Memory UInt8} {platform : Platform}
variable {iterations : List Iteration}

/-- The machine goes along with every run of the loop. -/
theorem run_matches
    {target : LoopState}
    (ran :
      Run (RunLoop.step machineTable)
        (.enter run (ioState platform data)) iterations target) :
    ∃ machine,
      Run Machine.step (.enter run data platform) iterations machine ∧
        Matches target machine := by
  induction ran with
  | refl => exact ⟨_, .refl, enter_matches run data platform⟩
  | @snoc labels middle target iteration before taken induction =>
      rcases induction with ⟨machine, reached, together⟩
      rcases (step_matches iteration together).1 target taken with
        ⟨next, moved, kept⟩
      exact ⟨next, reached.snoc moved, kept⟩

/-- The loop goes along with every run of the machine. -/
theorem machine_matches
    {machine : Machine}
    (ran :
      Run Machine.step (.enter run data platform) iterations machine) :
    ∃ target,
      Run (RunLoop.step machineTable)
          (.enter run (ioState platform data)) iterations target ∧
        Matches target machine := by
  induction ran with
  | refl => exact ⟨_, .refl, enter_matches run data platform⟩
  | @snoc labels middle machine iteration before taken induction =>
      rcases induction with ⟨state, reached, together⟩
      rcases (step_matches iteration together).2 machine taken with
        ⟨next, moved, kept⟩
      exact ⟨next, reached.snoc moved, kept⟩

end Runs

/-! ## The log is a run of the bus -/

theorem store_run
    {platform : Platform} {transfer : Transfer} (access : PortAccess)
    (before : Run Platform.after platform transfer.log transfer.platform) :
    Run Platform.after platform
      (transfer.store access (transfer.platform.access access)).1.log
      (transfer.store access
        (transfer.platform.access access)).1.platform := by
  cases ran : transfer.platform.access access with
  | outOfBounds => exact before
  | returned result cell next =>
      exact before.snoc (by simp only [Platform.after, ran, Transfer.store])

/-- The transfer made a run of the platform. -/
theorem busCycles_run
    (host : Nat → HostAnswers) (io : KvmIo) (cell : UInt8)
    (platform : Platform) :
    Run Platform.after platform
      (busCycles host io { cell, platform, log := [] }).1.log
      (busCycles host io { cell, platform, log := [] }).1.platform := by
  refine runUntil_invariant
    (fun transfer : Transfer =>
      Run Platform.after platform transfer.log transfer.platform)
    .refl ?_
  intro index _ transfer before
  rw [busCycle]
  split_ifs
  · exact before
  · exact store_run _ before

/-- The accesses the machine completed lead from its platform to the next. -/
theorem exit_run
    (machine : Machine) (iteration : Iteration) (page : KvmPage) :
    ∃ log, (machine.exit iteration page).log = machine.log ++ log ∧
      Run Platform.after machine.platform log
        (machine.exit iteration page).platform := by
  rw [Machine.exit]
  cases exitKind page.run with
  | resume | stop => exact ⟨[], by simp, .refl⟩
  | io io =>
      exact ⟨_, rfl,
        busCycles_run iteration.host io (page.data io.dataOffset.toNat)
          machine.platform⟩

/-- All accesses of a run of the machine make a run of the platform. -/
theorem machine_run
    {run : KvmRun} {data : Memory UInt8} {platform : Platform}
    {iterations : List Iteration} {machine : Machine}
    (ran :
      Run Machine.step (.enter run data platform) iterations machine) :
    Run Platform.after platform machine.log machine.platform := by
  refine ran.invariant
    (fun machine => Run Platform.after platform machine.log machine.platform)
    .refl ?_
  intro source iteration next before taken
  rw [Machine.step] at taken
  cases status : source.status with
  | ended outcome =>
      rw [status] at taken
      cases taken
  | running =>
      rw [status] at taken
      cases taken
      rcases exit_run source iteration
          (iteration.kvmRun.written.getD
            { run := source.run, data := source.data }) with
        ⟨log, appended, later⟩
      rw [Machine.iterate, appended]
      exact Run.append_iff.mpr ⟨_, before, later⟩

/-- A page whose data area holds one byte everywhere. -/
def filled (byte : UInt8) : Memory UInt8 := fun _ => byte

/-- An exit with an access of one byte to a port. -/
def accessExit (direction : Direction) (port : UInt16) : KvmRun :=
  { exitReason := kvmExitIo
    io := { direction, size := 1, port, count := 1, dataOffset := 0x1000 } }

/-- A successful `KVM_RUN` which exits with an access of one byte. -/
def accessIteration (direction : Direction) (port : UInt16) (byte : UInt8) :
    Iteration :=
  { kvmRun := .success { run := accessExit direction port, data := filled byte }
    host := willingHost, getRegs := .ok 0, getSregs := .ok 0 }

/-- A device which follows its history reads what the history remembers. -/
theorem read_of_represents
    {history : List Access} {cmos : Cmos} {register : UInt8}
    (represents : Represents history cmos)
    (current : selected history = some register)
    (plain : register ∉ clockAndStatus) (now : Tm) (cell : UInt8) :
    cmos.read now pioPortCmosData cell 1 =
      .returned 0 (remembered register history) cmos.resetIndex := by
  rcases represents with ⟨selection, inside, contents⟩
  rw [selection, Option.some.injEq] at current
  subst current
  refine (run_read_data cmos now cell).trans ?_
  rw [synthesised_of_not_mem plain, Cmos.dataAt, dif_pos inside,
    contents _ inside]
  rfl

/-- After accesses that begin with a selection the device follows them. -/
theorem represents_of_run
    {unset byte : UInt8} {accesses : List Access} {cmos : Cmos}
    (ran :
      Run afterAccess (.construct unset) (selecting byte :: accesses) cmos) :
    Represents (selecting byte :: accesses).reverse cmos := by
  rcases represents_selecting unset byte with ⟨start, taken, holds⟩
  rcases represents_run accesses holds with ⟨next, later, reached⟩
  have whole :
      Run afterAccess (.construct unset) (selecting byte :: accesses) next :=
    Run.cons_iff.mpr ⟨start, taken, later⟩
  rw [Run.iff_foldlM] at ran whole
  rw [ran, Option.some.injEq] at whole
  rw [whole, List.reverse_cons]
  exact reached

/--
In every run of the loop from the devices as constructed, a one-byte input from
the CMOS data port reads the byte the guest's earlier accesses to the CMOS left in
the selected register, whatever it did at other ports in between.
-/
theorem guest_reads_cmos
    {unset : UInt8} {run : KvmRun} {data : Memory UInt8}
    {iterations : List Iteration} {target : LoopState}
    (ran :
      Run (RunLoop.step machineTable)
        (.enter run (ioState (.start unset) data)) iterations target) :
    ∃ machine,
      Run Machine.step (.enter run data (.start unset)) iterations machine ∧
        Matches target machine ∧
        ∀ before access later byte accesses register,
          machine.log = before ++ access :: later →
          before.filterMap PortAccess.cmos? = selecting byte :: accesses →
          access.direction = .input → access.port = pioPortCmosData →
          access.size = 1 →
          selected (selecting byte :: accesses).reverse = some register →
          register ∉ clockAndStatus →
            ∃ platform next,
              Run Platform.after (.start unset) before platform ∧
                platform.access access =
                  .returned 0
                    (remembered register (selecting byte :: accesses).reverse)
                    next := by
  rcases run_matches ran with ⟨machine, reached, together⟩
  refine ⟨machine, reached, together, ?_⟩
  intro before access later byte accesses register split history
    input atData oneByte current plain
  have bus := machine_run reached
  rw [split] at bus
  rcases Run.append_iff.mp bus with ⟨platform, earlier, _⟩
  have own := run_cmos earlier
  rw [history] at own
  have read :=
    read_of_represents (represents_of_run own) current plain
      access.host.now access.cell
  refine ⟨platform, { platform with cmos := platform.cmos.resetIndex },
    earlier, ?_⟩
  have wired : access.wire = .cmos := by
    rw [PortAccess.wire, input, atData]
    rfl
  have asRead :
      access.toCmos = .read access.host.now pioPortCmosData access.cell 1 := by
    rw [PortAccess.toCmos, input, atData, oneByte]
  rw [Platform.access, wired]
  simp only [asRead, Access.run, read, Platform.storeCmos]

/-- A byte stored in the diagnostic register, an output, and a read back. -/
def diagnosticIterations : List Iteration :=
  [ accessIteration .output 0x70 0x0E, accessIteration .output 0x71 0x2A,
    accessIteration .output 0x3F8 0x41, accessIteration .output 0x70 0x8E,
    accessIteration .input 0x71 0 ]

/-- The access of an exit with one element. -/
def singleAccess (direction : Direction) (port : UInt16) (byte : UInt8) :
    PortAccess :=
  accessOf (accessExit direction port).io (willingHost 0) byte

/-- The stored byte survives an output to the UART. -/
theorem guest_reads_cmos_diagnostic :
    ∃ machine platform next,
      Run Machine.step (.enter freshPage (filled 0) (.start 0xFF))
          diagnosticIterations machine ∧
        Run Platform.after (.start 0xFF) (machine.log.take 4) platform ∧
        platform.access (singleAccess .input 0x71 0) =
          .returned 0 0x2A next := by
  have steps :
      Run Machine.step (.enter freshPage (filled 0) (.start 0xFF))
        diagnosticIterations _ :=
    Run.iff_foldlM.mpr rfl
  rcases machine_matches steps with ⟨target, ran, _⟩
  rcases guest_reads_cmos ran with ⟨machine, reached, _, reads⟩
  have log :
      machine.log =
        [ singleAccess .output 0x70 0x0E, singleAccess .output 0x71 0x2A,
          singleAccess .output 0x3F8 0x41, singleAccess .output 0x70 0x8E ] ++
          singleAccess .input 0x71 0 :: [] := by
    have folded := Run.iff_foldlM.mp reached
    cases folded
    rfl
  rcases reads _ _ [] 0x0E
      [.write pioPortCmosData 0x2A 1, selecting 0x8E] 0x0E
      log rfl rfl rfl rfl (by decide) (by decide) with
    ⟨platform, next, earlier, read⟩
  refine ⟨machine, platform, next, reached, ?_, ?_⟩
  · rw [log]
    exact earlier
  · exact read

end Lvmm.Vcpu.GuestMachine
