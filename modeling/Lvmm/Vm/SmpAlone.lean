import Lvmm.Vm.SmpThreads

/-!
# One virtual CPU while the others wait

The threads interleave in every way, so in particular one of them may run while no
other one moves.  Then its steps do to the devices what the run loop does which is
modelled without any threads: every run of that loop is a run of the machine.
-/

namespace Lvmm.Vm.SmpAlone

open Lvmm.Device
open Lvmm.Device.CmosDevice
open Lvmm.Device.Com1Device
open Lvmm.Library.CellMemory
open Lvmm.Library.LabelledRun
open Lvmm.Library.StoppingLoop
open Lvmm.Vcpu.GuestMachine
  (ExitKind Transfer accessIteration accessOf busCycle busCycles exitKind filled
    ioState)
open Lvmm.Vcpu.RunLoop
open Lvmm.Vcpu.RunOnce
open Lvmm.Vm.PortBus
open Lvmm.Vm.PortIo
open Lvmm.Vm.SmpMachine
open Lvmm.Vm.SmpThreads

variable {Cpu : Type*} [DecidableEq Cpu]
variable {source middle target : Machine Cpu} {cpu : Cpu}

/-! ## Steps of one thread -/

/-- The threads of the other virtual CPUs and the reader have not moved. -/
structure Untouched (source target : Machine Cpu) (cpu : Cpu) : Prop where
  others : ∀ other, other ≠ cpu → thread target other = thread source other
  reader : target.devices.com1.reader = source.devices.com1.reader

omit [DecidableEq Cpu] in
theorem Untouched.trans
    (first : Untouched source middle cpu)
    (rest : Untouched middle target cpu) : Untouched source target cpu where
  others := fun other different =>
    (rest.others other different).trans (first.others other different)
  reader := rest.reader.trans first.reader

omit [DecidableEq Cpu] in
theorem Untouched.refl : Untouched source source cpu :=
  ⟨fun _ _ => rfl, rfl⟩

/-- Steps of one thread lead from one machine to another; the others wait. -/
structure Reaches (cpu : Cpu) (source target : Machine Cpu) : Prop where
  steps : ∃ count,
    Run SmpMachine.step source (List.replicate count (.advance cpu)) target
  untouched : Untouched source target cpu

theorem Reaches.refl : Reaches cpu source source :=
  ⟨⟨0, .refl⟩, .refl⟩

theorem Reaches.trans
    (first : Reaches cpu source middle) (rest : Reaches cpu middle target) :
    Reaches cpu source target := by
  rcases first.steps with ⟨count, ran⟩
  rcases rest.steps with ⟨more, later⟩
  refine ⟨⟨count + more, ?_⟩, first.untouched.trans rest.untouched⟩
  rw [List.replicate_add]
  exact Run.append_iff.mpr ⟨middle, ran, later⟩

/-- Where a thread is, and what the devices hold. -/
structure At
    (machine : Machine Cpu) (cpu : Cpu) (own : Thread) (cmos : Cmos)
    (shared : Com1Smp.Shared) : Prop where
  thread : thread machine cpu = own
  cmos : machine.devices.cmos.cmos = cmos
  com1 : machine.devices.com1.shared = shared

section Steps

variable {own : Thread} {cmos : Cmos} {shared : Com1Smp.Shared}
variable {iteration : Iteration} {index : Nat} {vcpu : Vcpu}

/-- A step which the thread can take, and what it leaves. -/
theorem At.taken
    {next : Thread} {act : Act Cpu} {devices : Devices Cpu}
    (here : At source cpu own cmos shared)
    (ran :
      own.vcpu.advance cpu own.clock own.uart = some (vcpu, act))
    (stepped : source.devices.step act = some devices)
    (left :
      Left source
        { vcpus := Function.update source.vcpus cpu vcpu, devices } cpu next)
    (reader : devices.com1.reader = source.devices.com1.reader) :
    ∃ target, Reaches cpu source target ∧
      At target cpu next devices.cmos.cmos devices.com1.shared := by
  rcases here with ⟨rfl, rfl, rfl⟩
  have taken := taken_of_advance ran stepped
  refine ⟨_, ⟨⟨1, .single taken⟩, ?_, reader⟩, ?_, rfl, rfl⟩
  · intro other different
    rw [left.thread_eq, Function.update_of_ne different]
  · rw [left.thread_eq, Function.update_self]

/-- A step which leaves the devices alone. -/
theorem At.idle
    (here : At source cpu own cmos shared)
    (ran :
      own.vcpu.advance cpu own.clock own.uart = some (vcpu, .idle)) :
    ∃ target, Reaches cpu source target ∧
      At target cpu { own with vcpu } cmos shared := by
  have moved := here.taken ran rfl (.idle rfl rfl) rfl
  rwa [here.thread, here.cmos, here.com1] at moved

/-- A step of the CMOS. -/
theorem At.cmosMoves
    {act : CmosSmp.Label Cpu} {clock : CmosSmp.Pc} {next : Cmos}
    (here : At source cpu own cmos shared)
    (ran :
      own.vcpu.advance cpu own.clock own.uart = some (vcpu, .cmos act))
    (stepped :
      CmosSmp.step source.devices.cmos act =
        some
          { cmos := next
            cpus :=
              Function.update source.devices.cmos.cpus cpu clock }) :
    ∃ target, Reaches cpu source target ∧
      At target cpu { own with vcpu, clock } next shared := by
  have acted :
      source.devices.step (.cmos act) =
        some
          { source.devices with
            cmos :=
              { cmos := next
                cpus :=
                  Function.update source.devices.cmos.cpus cpu clock } } := by
    simp only [Devices.step, stepped, Option.map_some]
  have moved := here.taken ran acted (.ofCmos rfl rfl rfl) rfl
  rwa [here.thread, here.com1] at moved

/-- A step of the UART. -/
theorem At.com1Moves
    {act : Com1Smp.Label Cpu} {uart : Com1Smp.Pc} {next : Com1Smp.Shared}
    (here : At source cpu own cmos shared)
    (ran :
      own.vcpu.advance cpu own.clock own.uart = some (vcpu, .com1 act))
    (stepped :
      Com1Smp.step source.devices.com1 act =
        some
          { shared := next
            cpus := Function.update source.devices.com1.cpus cpu uart
            reader := source.devices.com1.reader }) :
    ∃ target, Reaches cpu source target ∧
      At target cpu { own with vcpu, uart } cmos next := by
  have acted :
      source.devices.step (.com1 act) =
        some
          { source.devices with
            com1 :=
              { shared := next
                cpus := Function.update source.devices.com1.cpus cpu uart
                reader := source.devices.com1.reader } } := by
    simp only [Devices.step, stepped, Option.map_some]
  have moved := here.taken ran acted (.ofCom1 rfl rfl rfl) rfl
  rwa [here.thread, here.cmos] at moved

omit [DecidableEq Cpu] in
/-- A pending access to the CMOS goes on. -/
theorem advance_inCmos
    {clock : CmosSmp.Pc} {uart : Com1Smp.Pc}
    {moved : CmosSmp.Effect × CmosSmp.Pc}
    (place : vcpu.place = .inCmos iteration index)
    (pending : clock.step cmos = some moved) :
    vcpu.advance cpu clock uart = some (vcpu, .cmos (.advance cpu)) := by
  simp only [Vcpu.advance, place]
  cases clock with
  | returned | outOfBounds => cases pending
  | readIndex | readSwitch | readSubscript | readData | readReset
  | writeIndex | writeTest | writeSubscript | writeData | writeReset => rfl

omit [DecidableEq Cpu] in
/-- A pending access to the UART goes on. -/
theorem advance_inCom1
    {clock : CmosSmp.Pc} {uart : Com1Smp.Pc} {answers : Com1Smp.Answers}
    {moved : Com1Smp.Effect × Com1Smp.Pc}
    (place : vcpu.place = .inCom1 iteration index)
    (pending : uart.step shared answers = some moved) :
    vcpu.advance cpu clock uart =
      some (vcpu,
        .com1
          (.advance cpu (uart.answers (iteration.host index).serial))) := by
  simp only [Vcpu.advance, place]
  split
  · cases pending
  · rfl

/-- The steps of an access to the CMOS, one after the other. -/
theorem At.drainCmos
    (here : At source cpu own cmos shared)
    (place : own.vcpu.place = .inCmos iteration index) (steps : Nat) :
    ∃ target, Reaches cpu source target ∧
      At target cpu
        { own with clock := (CmosSmp.alone steps (cmos, own.clock)).2 }
        (CmosSmp.alone steps (cmos, own.clock)).1 shared := by
  induction steps generalizing source own cmos with
  | zero => exact ⟨source, .refl, here⟩
  | succ steps induction =>
      rw [CmosSmp.alone]
      cases pending : own.clock.step cmos with
      | none => exact ⟨source, .refl, here⟩
      | some moved =>
          have stepped :
              CmosSmp.step source.devices.cmos (.advance cpu) =
                some
                  { cmos := moved.1.apply cmos
                    cpus :=
                      Function.update source.devices.cmos.cpus cpu
                        moved.2 } := by
            have clock : source.devices.cmos.cpus cpu = own.clock :=
              congrArg Thread.clock here.thread
            simp only [CmosSmp.step, clock, here.cmos, pending,
              Option.map_some]
          rcases here.cmosMoves (advance_inCmos place pending) stepped with
            ⟨middle, reached, after⟩
          rcases induction after place with ⟨target, later, final⟩
          exact ⟨target, reached.trans later, final⟩

/-- The steps of an access to the UART, one after the other. -/
theorem At.drainCom1
    (here : At source cpu own cmos shared)
    (place : own.vcpu.place = .inCom1 iteration index) (steps : Nat) :
    ∃ target, Reaches cpu source target ∧
      At target cpu
        { own with
          uart :=
            (Com1Smp.alone (iteration.host index).serial steps
              (shared, own.uart)).2 }
        cmos
        (Com1Smp.alone (iteration.host index).serial steps
          (shared, own.uart)).1 := by
  induction steps generalizing source own shared with
  | zero => exact ⟨source, .refl, here⟩
  | succ steps induction =>
      rw [Com1Smp.alone]
      cases pending :
          own.uart.step shared
            (own.uart.answers (iteration.host index).serial) with
      | none => exact ⟨source, .refl, here⟩
      | some moved =>
          have stepped :
              Com1Smp.step source.devices.com1
                  (.advance cpu
                    (own.uart.answers (iteration.host index).serial)) =
                some
                  { shared := moved.1.apply shared
                    cpus :=
                      Function.update source.devices.com1.cpus cpu moved.2
                    reader := source.devices.com1.reader } := by
            have uart : source.devices.com1.cpus cpu = own.uart :=
              congrArg Thread.uart here.thread
            simp only [Com1Smp.step, Com1Smp.move, uart, here.com1, pending,
              Option.map_some]
          rcases here.com1Moves (advance_inCom1 place pending) stepped with
            ⟨middle, reached, after⟩
          rcases induction after place with ⟨target, later, final⟩
          exact ⟨target, reached.trans later, final⟩

/-- An access to the CMOS, from its call to its return. -/
theorem At.servesCmos
    {access : CmosAccess.Access}
    (here : At source cpu own cmos shared)
    (rested : ∃ result stored, own.clock = .returned result stored)
    (ran :
      own.vcpu.advance cpu own.clock own.uart =
        some ({ own.vcpu with place := .inCmos iteration index },
          .cmos (.begin cpu access))) :
    ∃ target, Reaches cpu source target ∧
      match access.run cmos with
      | .returned result cell next =>
          ∃ stored, stored.getD access.cell = cell ∧
            At target cpu
              { own with
                vcpu := own.vcpu.finish iteration index result stored
                clock := .returned result stored }
              next shared
      | .outOfBounds =>
          At target cpu
            { own with
              vcpu := { own.vcpu with place := .ended .outOfBounds }
              clock := .outOfBounds }
            cmos shared := by
  rcases rested with ⟨earlier, kept, returned⟩
  have begun :
      CmosSmp.step source.devices.cmos (.begin cpu access) =
        some
          { cmos
            cpus :=
              Function.update source.devices.cmos.cpus cpu
                (.entry access) } := by
    have clock : source.devices.cmos.cpus cpu = .returned earlier kept :=
      (congrArg Thread.clock here.thread).trans returned
    simp only [CmosSmp.step, clock, ← here.cmos]
  rcases here.cmosMoves ran begun with ⟨called, first, entered⟩
  rcases entered.drainCmos rfl 4 with ⟨drained, second, left⟩
  have ends := CmosSmp.alone_access cmos access
  generalize CmosSmp.alone 4 (cmos, .entry access) = final at ends left
  cases whole : access.run cmos with
  | returned result cell next =>
      rw [whole] at ends
      rcases ends with ⟨stored, rfl, offered⟩
      rcases left.idle rfl with ⟨target, third, done⟩
      exact ⟨target, first.trans (second.trans third), stored, offered, done⟩
  | outOfBounds =>
      rw [whole] at ends
      rcases ends with rfl
      rcases left.idle rfl with ⟨target, third, done⟩
      exact ⟨target, first.trans (second.trans third), done⟩

/-- An access to the UART, from its call to its return. -/
theorem At.servesCom1
    {access : Com1Smp.Access} {after : Com1Smp.Shared} {result : Int}
    {stored : Option UInt8}
    (here : At source cpu own cmos shared)
    (rested : ∃ result stored, own.uart = .returned result stored)
    (ran :
      own.vcpu.advance cpu own.clock own.uart =
        some ({ own.vcpu with place := .inCom1 iteration index },
          .com1 (.begin cpu access)))
    (outcome :
      access.outcome shared (iteration.host index).serial =
        (after, .returned result stored)) :
    ∃ target, Reaches cpu source target ∧
      At target cpu
        { own with
          vcpu := own.vcpu.finish iteration index result stored
          uart := .returned result stored }
        cmos after := by
  rcases rested with ⟨earlier, kept, returned⟩
  have begun :
      Com1Smp.step source.devices.com1 (.begin cpu access) =
        some
          { shared
            cpus :=
              Function.update source.devices.com1.cpus cpu access.entry
            reader := source.devices.com1.reader } := by
    have uart : source.devices.com1.cpus cpu = .returned earlier kept :=
      (congrArg Thread.uart here.thread).trans returned
    simp only [Com1Smp.step, Com1Smp.move, uart, Option.map_some,
      Com1Smp.Effect.apply, here.com1]
  rcases here.com1Moves ran begun with ⟨called, first, entered⟩
  rcases entered.drainCom1 rfl 7 with ⟨drained, second, left⟩
  rw [Com1Smp.alone_access, outcome] at left
  rcases left.idle rfl with ⟨target, third, done⟩
  exact ⟨target, first.trans (second.trans third), done⟩

end Steps

/-! ## An access -/

/-- The UART as its atomic steps see it: of all levels of its line, the last one. -/
def sharedOf (level : Bool) (line : SerialLine) : Com1Smp.Shared :=
  { com1 := line.com1
    stdout := line.stdout
    irqLevel := line.irqLevels.getLast?.getD level }

/-- An access to the UART, as a whole and by its atomic steps. -/
theorem outcome_eq
    (level : Bool) (line : SerialLine) {access : PortAccess}
    {own : Com1Smp.Access}
    (known : toCom1 access.direction access.port access.cell = some own) :
    ∃ stored,
      own.outcome (sharedOf level line) access.host.serial =
          (sharedOf level (line.access access).2.2,
            .returned (line.access access).1 stored) ∧
        stored.getD access.cell = (line.access access).2.1 := by
  rcases Option.map_eq_some_iff.mp known with ⟨port, decoded, rfl⟩
  rw [SerialLine.access]
  cases access.direction with
  | input =>
      refine ⟨some (line.com1.readPort port).1, ?_, ?_⟩
      · simp [Com1.read, decoded, Com1Smp.Access.outcome, Com1Smp.Pc.value,
          sharedOf]
      · simp [Com1.read, decoded]
  | output =>
      refine ⟨none, ?_, rfl⟩
      simp [Com1.write, decoded, Com1Smp.Access.outcome,
        Com1Smp.Shared.afterWrite, sharedOf, List.getLast?_append]

/-- The thread has no access in progress. -/
structure Rested (own : Thread) : Prop where
  clock : ∃ result stored, own.clock = .returned result stored
  uart : ∃ result stored, own.uart = .returned result stored

/-- A machine in which a virtual CPU and the devices hold what the loop holds. -/
structure Holds
    (level : Bool) (machine : Machine Cpu) (cpu : Cpu) (page : KvmPage)
    (place : Place) (platform : Platform) : Prop where
  vcpu : machine.vcpus cpu = { page, place }
  cmos : machine.devices.cmos.cmos = platform.cmos
  com1 : machine.devices.com1.shared = sharedOf level platform.serial
  rested : place ≠ .ended .outOfBounds → Rested (thread machine cpu)

/-- The page with a byte where the elements of its exit have theirs. -/
def pageWith (page : KvmPage) (cell : UInt8) : KvmPage :=
  { page with
    data := Function.update page.data page.run.io.dataOffset.toNat cell }

/-- Where a handler call leaves the thread. -/
def placeAfter (iteration : Iteration) (index : Nat) (result : Int) : Place :=
  if result ≠ 0 then .ended (.returned (giveUp iteration))
  else .calling iteration (index + 1)

section Access

variable {level : Bool} {page : KvmPage} {place : Place}
variable {platform : Platform} {iteration : Iteration} {index : Nat}
variable {cell : UInt8}

omit [DecidableEq Cpu] in
theorem Holds.here (holds : Holds level source cpu page place platform) :
    At source cpu (thread source cpu) platform.cmos
      (sharedOf level platform.serial) :=
  ⟨rfl, holds.cmos, holds.com1⟩

omit [DecidableEq Cpu] in
theorem Holds.own (holds : Holds level source cpu page place platform) :
    (thread source cpu).vcpu = { page, place } :=
  holds.vcpu

omit [DecidableEq Cpu] in
theorem At.holds
    {own : Thread}
    (here :
      At source cpu own platform.cmos (sharedOf level platform.serial))
    (vcpu : own.vcpu = { page, place })
    (rested : place ≠ .ended .outOfBounds → Rested own) :
    Holds level source cpu page place platform := by
  rcases here with ⟨rfl, cmos, com1⟩
  exact ⟨vcpu, cmos, com1, rested⟩

/-- A handler returned. -/
theorem finish_eq
    (place : Place) (result : Int) (stored : Option UInt8) :
    ({ page := pageWith page cell, place } : Vcpu).finish iteration index
        result stored =
      { page := pageWith page (stored.getD cell)
        place := placeAfter iteration index result } := by
  cases stored with
  | none => rfl
  | some byte => simp [Vcpu.finish, pageWith, placeAfter, Function.update_idem]

/-- The access which an element makes. -/
theorem access_eq (place : Place) :
    ({ page := pageWith page cell, place } : Vcpu).access iteration index =
      accessOf page.run.io (iteration.host index) cell := by
  simp only [Vcpu.access, pageWith, Function.update_self]

omit [DecidableEq Cpu] in
/-- A thread within an exit calls the handler of its next element. -/
theorem Holds.calls
    (holds :
      Holds level source cpu (pageWith page cell) (.calling iteration index)
        platform)
    (below : index < page.run.io.count.toNat)
    (notTop : page.run.io.port ≠ 0xFFFF) :
    (thread source cpu).vcpu.advance cpu (thread source cpu).clock
        (thread source cpu).uart =
      some ((thread source cpu).vcpu.call cpu iteration index) := by
  simp only [Vcpu.advance, holds.own, pageWith, below, notTop, if_true,
    if_false]

omit [DecidableEq Cpu] in
/-- The handler which a thread within an exit called returned. -/
theorem Holds.finished
    (holds :
      Holds level source cpu (pageWith page cell) (.calling iteration index)
        platform)
    (result : Int) (stored : Option UInt8) :
    (thread source cpu).vcpu.finish iteration index result stored =
      { page := pageWith page (stored.getD cell)
        place := placeAfter iteration index result } := by
  rw [holds.own]
  exact finish_eq _ result stored

/-- An element of a handler without a state. -/
theorem Holds.servesIdle
    {result : Int}
    (holds :
      Holds level source cpu (pageWith page cell) (.calling iteration index)
        platform)
    (ran :
      (thread source cpu).vcpu.advance cpu (thread source cpu).clock
          (thread source cpu).uart =
        some ((thread source cpu).vcpu.finish iteration index result none,
          .idle)) :
    ∃ target, Reaches cpu source target ∧
      Holds level target cpu (pageWith page cell)
        (placeAfter iteration index result) platform := by
  have rested := holds.rested (by simp)
  rcases holds.here.idle ran with ⟨target, reached, after⟩
  refine ⟨target, reached, after.holds ?_ fun _ => ?_⟩
  · exact holds.finished result none
  · exact ⟨rested.clock, rested.uart⟩

/-- An element of the CMOS. -/
theorem Holds.servesCmos
    {access : CmosAccess.Access}
    (holds :
      Holds level source cpu (pageWith page cell) (.calling iteration index)
        platform)
    (offered : access.cell = cell)
    (ran :
      (thread source cpu).vcpu.advance cpu (thread source cpu).clock
          (thread source cpu).uart =
        some
          ({ (thread source cpu).vcpu with place := .inCmos iteration index },
            .cmos (.begin cpu access))) :
    ∃ target, Reaches cpu source target ∧
      match platform.storeCmos (access.run platform.cmos) with
      | .returned result left next =>
          Holds level target cpu (pageWith page left)
            (placeAfter iteration index result) next
      | .outOfBounds =>
          Holds level target cpu (pageWith page cell) (.ended .outOfBounds)
            platform := by
  have rested := holds.rested (by simp)
  rcases holds.here.servesCmos rested.clock ran with ⟨target, reached, after⟩
  refine ⟨target, reached, ?_⟩
  rw [offered] at after
  cases ends : access.run platform.cmos with
  | returned result left next =>
      rw [ends] at after
      rcases after with ⟨stored, rfl, left⟩
      have restedAfter :
          Rested
            { thread source cpu with
              vcpu :=
                (thread source cpu).vcpu.finish iteration index result stored
              clock := .returned result stored } :=
        ⟨⟨result, stored, rfl⟩, rested.uart⟩
      exact left.holds (holds.finished result stored) fun _ => restedAfter
  | outOfBounds =>
      rw [ends] at after
      refine after.holds ?_ fun inside => absurd rfl inside
      rw [holds.own]

/-- An element of the UART. -/
theorem Holds.servesCom1
    {access : PortAccess} {asked : Com1Smp.Access}
    (holds :
      Holds level source cpu (pageWith page cell) (.calling iteration index)
        platform)
    (offered : access.cell = cell)
    (host : access.host = iteration.host index)
    (known :
      toCom1 access.direction access.port access.cell = some asked)
    (ran :
      (thread source cpu).vcpu.advance cpu (thread source cpu).clock
          (thread source cpu).uart =
        some
          ({ (thread source cpu).vcpu with place := .inCom1 iteration index },
            .com1 (.begin cpu asked))) :
    ∃ target, Reaches cpu source target ∧
      Holds level target cpu
        (pageWith page (platform.serial.access access).2.1)
        (placeAfter iteration index (platform.serial.access access).1)
        { platform with serial := (platform.serial.access access).2.2 } := by
  have rested := holds.rested (by simp)
  rcases outcome_eq level platform.serial known with ⟨stored, outcome, left⟩
  rw [host] at outcome
  rcases holds.here.servesCom1 rested.uart ran outcome with
    ⟨target, reached, after⟩
  have restedAfter :
      Rested
        { thread source cpu with
          vcpu :=
            (thread source cpu).vcpu.finish iteration index
              (platform.serial.access access).1 stored
          uart := .returned (platform.serial.access access).1 stored } :=
    ⟨rested.clock, ⟨_, stored, rfl⟩⟩
  refine ⟨target, reached, after.holds ?_ fun _ => restedAfter⟩
  rw [holds.finished, ← left, offered]

/-- An element of an exit does what the loop's access to the platform does. -/
theorem Holds.access
    (holds :
      Holds level source cpu (pageWith page cell) (.calling iteration index)
        platform)
    (below : index < page.run.io.count.toNat)
    (notTop : page.run.io.port ≠ 0xFFFF) :
    ∃ target, Reaches cpu source target ∧
      match
        platform.access
          (accessOf page.run.io (iteration.host index) cell)
      with
      | .returned result left next =>
          Holds level target cpu (pageWith page left)
            (placeAfter iteration index result) next
      | .outOfBounds =>
          Holds level target cpu (pageWith page cell) (.ended .outOfBounds)
            platform := by
  have ran := holds.calls below notTop
  generalize access_made :
    accessOf page.run.io (iteration.host index) cell = access
  have made : (thread source cpu).vcpu.access iteration index = access := by
    rw [holds.own, access_eq, access_made]
  have offered : access.cell = cell := by rw [← access_made]; rfl
  rw [Vcpu.call, made] at ran
  rw [Platform.access]
  cases wire : access.wire with
  | post | tolerated | resetGenerator | unclaimed =>
      simp only [wire] at ran
      rw [offered]
      exact holds.servesIdle ran
  | cmos =>
      simp only [wire] at ran
      have asked : access.toCmos.cell = cell := by
        rw [← offered, PortAccess.toCmos]
        cases access.direction <;> rfl
      exact holds.servesCmos asked ran
  | com1 =>
      have owner :
          wiring access.direction access.port.toNat = .com1 := wire
      rcases toCom1_isSome access.cell owner with ⟨asked, known⟩
      simp only [wire, known] at ran
      have host : access.host = iteration.host index := by
        rw [← access_made]
        rfl
      exact holds.servesCom1 offered host known ran

/-! ## An exit -/

/-- Where a loop that goes on, or ended as stated, has its thread. -/
def placeOf : Status → Place
  | .running => .guest
  | .ended outcome => .ended outcome

/-- An element of an exit, as the loop's machine takes it. -/
theorem Holds.cycle
    {transfer : Transfer}
    (holds :
      Holds level source cpu (pageWith page transfer.cell)
        (.calling iteration index) transfer.platform)
    (below : index < page.run.io.count.toNat) :
    ∃ target, Reaches cpu source target ∧
      match busCycle iteration.host page.run.io index transfer with
      | (next, none) =>
          Holds level target cpu (pageWith page next.cell)
            (.calling iteration (index + 1)) next.platform
      | (next, some outcome) =>
          Holds level target cpu (pageWith page next.cell)
            (placeOf (afterOnce iteration outcome)) next.platform := by
  by_cases top : page.run.io.port = 0xFFFF
  · have ran :
        (thread source cpu).vcpu.advance cpu (thread source cpu).clock
            (thread source cpu).uart =
          some
            ({ page := pageWith page transfer.cell
               place := .ended .outOfBounds }, .idle) := by
      simp only [Vcpu.advance, holds.own, pageWith, below, top, if_true]
    rcases holds.here.idle ran with ⟨target, reached, after⟩
    refine ⟨target, reached, ?_⟩
    rw [busCycle, if_pos top]
    exact after.holds rfl fun inside => absurd rfl inside
  · rcases holds.access below top with ⟨target, reached, after⟩
    refine ⟨target, reached, ?_⟩
    rw [busCycle, if_neg top]
    dsimp only
    generalize
      transfer.platform.access
        (accessOf page.run.io (iteration.host index) transfer.cell) =
      ends at after
    cases ends with
    | outOfBounds => exact after
    | returned result left next =>
        by_cases zero : result = 0
        · simpa [Transfer.store, zero, placeAfter] using after
        · simpa [Transfer.store, zero, placeAfter, afterOnce, placeOf]
            using after

/-- The elements that are left of an exit. -/
theorem Holds.cycles
    (transfer : Transfer) (left : Nat)
    (holds :
      Holds level source cpu (pageWith page transfer.cell)
        (.calling iteration index) transfer.platform)
    (total : index + left = page.run.io.count.toNat) :
    ∃ target, Reaches cpu source target ∧
      match
        runUntil (busCycle iteration.host page.run.io)
          (List.range' index left) transfer
      with
      | (final, stopped) =>
          Holds level target cpu (pageWith page final.cell)
            (placeOf (afterOnce iteration (stopped.getD (.returned 0))))
            final.platform := by
  induction left generalizing source index transfer with
  | zero =>
      have ran :
          (thread source cpu).vcpu.advance cpu (thread source cpu).clock
              (thread source cpu).uart =
            some
              ({ page := pageWith page transfer.cell, place := .guest },
                .idle) := by
        have all : ¬ index < page.run.io.count.toNat := by omega
        simp only [Vcpu.advance, holds.own, pageWith, all, if_false]
      rcases holds.here.idle ran with ⟨target, reached, after⟩
      refine ⟨target, reached, after.holds rfl fun _ => ?_⟩
      have rested := holds.rested (by simp)
      exact ⟨rested.clock, rested.uart⟩
  | succ left induction =>
      rcases holds.cycle (by omega) with ⟨middle, first, after⟩
      rw [List.range'_succ]
      rcases equal :
          busCycle iteration.host page.run.io index transfer with
        ⟨next, _ | outcome⟩
      · rw [equal] at after
        rw [runUntil_cons_of_none equal]
        rcases induction next after (by omega) with ⟨target, rest, final⟩
        exact ⟨target, first.trans rest, final⟩
      · rw [equal] at after
        rw [runUntil_cons_of_some equal]
        exact ⟨middle, first, after⟩

/-- The machine whose virtual CPU has left the guest. -/
def leftGuest
    (source : Machine Cpu) (cpu : Cpu) (iteration : Iteration) :
    Machine Cpu :=
  { source with
    vcpus :=
      Function.update source.vcpus cpu
        ((source.vcpus cpu).leaveGuest iteration) }

theorem kvmRun_taken
    (guest : (source.vcpus cpu).place = .guest) (iteration : Iteration) :
    SmpMachine.step source (.kvmRun cpu iteration) =
      some (leftGuest source cpu iteration) := by
  simp only [SmpMachine.step, move, guest, Option.bind_some, Devices.step,
    Option.map_some]
  rfl

theorem leftGuest_untouched (iteration : Iteration) :
    Untouched source (leftGuest source cpu iteration) cpu := by
  refine ⟨fun other different => ?_, rfl⟩
  simp [thread, leftGuest, different]

/-- Leaving the guest does nothing to the devices. -/
theorem Holds.leftGuest
    (holds : Holds level source cpu page .guest platform)
    (iteration : Iteration) {next : Vcpu}
    (left : ({ page, place := .guest } : Vcpu).leaveGuest iteration = next) :
    Holds level (leftGuest source cpu iteration) cpu next.page next.place
      platform where
  vcpu := by
    have own : source.vcpus cpu = { page, place := .guest } := holds.vcpu
    simp only [SmpAlone.leftGuest, own, left, Function.update_self]
  cmos := holds.cmos
  com1 := holds.com1
  rested := fun _ =>
    ⟨(holds.rested (by simp)).clock, (holds.rested (by simp)).uart⟩

/-- An iteration of the loop, as the loop's machine makes it. -/
theorem Holds.iterate
    {machine : Vcpu.GuestMachine.Machine}
    (holds :
      Holds level source cpu { run := machine.run, data := machine.data }
        .guest machine.platform)
    (iteration : Iteration) :
    ∃ target, Reaches cpu (SmpAlone.leftGuest source cpu iteration) target ∧
      Holds level target cpu
        { run := (machine.iterate iteration).run
          data := (machine.iterate iteration).data }
        (placeOf (machine.iterate iteration).status)
        (machine.iterate iteration).platform := by
  rw [Vcpu.GuestMachine.Machine.iterate]
  generalize written :
    iteration.kvmRun.written.getD
      { run := machine.run, data := machine.data } = page
  generalize left :
    ({ page := { run := machine.run, data := machine.data }
       place := .guest } : SmpMachine.Vcpu).leaveGuest iteration = next
  have after := holds.leftGuest iteration left
  have paged : next.page = page := by
    rw [← left]
    exact written
  rw [Vcpu.GuestMachine.Machine.exit]
  cases kind : exitKind page.run with
  | resume =>
      have placed : next.place = .guest := by
        rw [← left]
        simp only [Vcpu.leaveGuest, Vcpu.pageAfter, written, kind]
      rw [paged, placed] at after
      exact ⟨_, .refl, after⟩
  | stop =>
      have placed : next.place = .ended (.returned (giveUp iteration)) := by
        rw [← left]
        simp only [Vcpu.leaveGuest, Vcpu.pageAfter, written, kind]
      rw [paged, placed] at after
      exact ⟨_, .refl, after⟩
  | io io =>
      have own := io_of_exitKind kind
      subst own
      have placed : next.place = .calling iteration 0 := by
        rw [← left]
        simp only [Vcpu.leaveGuest, Vcpu.pageAfter, written, kind]
      rw [paged, placed] at after
      have entered :
          Holds level (SmpAlone.leftGuest source cpu iteration) cpu
            (pageWith page (page.data page.run.io.dataOffset.toNat))
            (.calling iteration 0) machine.platform := by
        rw [pageWith, Function.update_eq_self]
        exact after
      rcases Holds.cycles
          { cell := page.data page.run.io.dataOffset.toNat
            platform := machine.platform, log := [] }
          page.run.io.count.toNat entered (Nat.zero_add _) with
        ⟨target, reached, final⟩
      rw [← List.range_eq_range'] at final
      exact ⟨target, reached, final⟩

end Access

end Lvmm.Vm.SmpAlone
