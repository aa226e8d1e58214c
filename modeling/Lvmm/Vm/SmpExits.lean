import Mathlib.Data.List.ReduceOption
import Lvmm.Vm.SmpThreads

/-!
# The exits of every virtual CPU and the devices

An I/O exit with a count of `n` asks its device for the same access `n` times.
Whatever the other threads do meanwhile, what a virtual CPU asks of the devices is
what its exits say, element by element and exit by exit, and the devices go through
runs of their own.
-/

namespace Lvmm.Vm.SmpExits

open Lvmm.Device
open Lvmm.Library.LabelledRun
open Lvmm.Vcpu.GuestMachine
  (accessIteration exitKind filled)
open Lvmm.Vcpu.RunLoop
open Lvmm.Vcpu.RunOnce
open Lvmm.Vm.PortBus
open Lvmm.Vm.PortIo
open Lvmm.Vm.SmpMachine
open Lvmm.Vm.SmpThreads

/-! ## Requests -/

/-- What an access asks of a device. -/
inductive Request where
  | cmosRead (port : UInt16) (size : UInt8)
  | cmosWrite (port : UInt16) (size byte : UInt8)
  | com1 (access : Com1Smp.Access)
deriving DecidableEq, Repr

/-- What an access asks of the CMOS. -/
def ofCmos : CmosAccess.Access → Request
  | .read _ port _ size => .cmosRead port size
  | .write port cell size => .cmosWrite port size cell

/-- What the elements of an I/O exit ask, if a device owns their port. -/
def requestOf (io : KvmIo) (cell : UInt8) : Option Request :=
  match wiring io.direction io.port.toNat with
  | .cmos =>
      match io.direction with
      | .input => some (.cmosRead io.port io.size)
      | .output => some (.cmosWrite io.port io.size cell)
  | .com1 => (toCom1 io.direction io.port cell).map .com1
  | _ => none

/-- What each element of a page's exit asks of a device. -/
def element (page : KvmPage) : Option Request :=
  match exitKind page.run with
  | .io io => requestOf io (page.data io.dataOffset.toNat)
  | _ => none

/-- The number of elements of a page's exit. -/
def elements (page : KvmPage) : Nat :=
  match exitKind page.run with
  | .io io => io.count.toNat
  | _ => 0

/-- What the first elements of a page's exit ask of the devices. -/
def requests (page : KvmPage) (count : Nat) : List Request :=
  (List.replicate count (element page)).reduceOption

/-- What a page's exit asks of the devices if it is served to its end. -/
def complete (page : KvmPage) : List Request :=
  requests page (elements page)

theorem requests_succ (page : KvmPage) (count : Nat) :
    requests page (count + 1) =
      requests page count ++ (element page).toList := by
  rw [requests, requests, List.replicate_succ', List.reduceOption_append]
  cases element page <;> rfl

theorem complete_of_not_io
    (page : KvmPage) (notIo : ∀ io, exitKind page.run ≠ .io io) :
    complete page = [] := by
  rw [complete, elements]
  cases kind : exitKind page.run with
  | resume | stop => rfl
  | io io => exact absurd kind (notIo io)

/-! ## An exit in service -/

/-- How many elements of its exit a thread has begun. -/
def begunAt : Place → Option Nat
  | .calling _ index => some index
  | .inCmos _ index | .inCom1 _ index => some (index + 1)
  | .guest | .ended _ => none

/-- A thread serves the exit of a page, the devices included. -/
structure Serving (thread : Thread) (page : KvmPage) (begun : Nat) :
    Prop where
  place : begunAt thread.vcpu.place = some begun
  run : thread.vcpu.page.run = page.run
  exit : exitKind page.run = .io page.run.io
  within : begun ≤ page.run.io.count.toNat
  /-- Nothing is stored to the byte of an output. -/
  cell : page.run.io.direction = .output →
    thread.cell = page.data page.run.io.dataOffset.toNat
  clock : ∀ iteration index, thread.vcpu.place = .inCmos iteration index →
    page.run.io.direction = .output → thread.clock.Writing
  uart : ∀ iteration index, thread.vcpu.place = .inCom1 iteration index →
    page.run.io.direction = .output → Com1SmpMoves.Writing thread.uart

/-- The exits of a thread, with what it has asked of the devices for them. -/
inductive Served (thread : Thread) :
    List KvmPage → List Request → Prop where
  | inGuest {pages : List KvmPage}
      (place : thread.vcpu.place = .guest) :
      Served thread pages (pages.flatMap complete)
  | inService {earlier : List KvmPage} {page : KvmPage} {begun : Nat}
      (serving : Serving thread page begun) :
      Served thread (earlier ++ [page])
        (earlier.flatMap complete ++ requests page begun)
  | behind {earlier : List KvmPage} {page : KvmPage} {begun : Nat}
      (outcome : Outcome)
      (place : thread.vcpu.place = .ended outcome)
      (within : begun ≤ elements page) :
      Served thread (earlier ++ [page])
        (earlier.flatMap complete ++ requests page begun)

section Service

variable {Cpu : Type*}
variable {devices : Devices Cpu} {cpu : Cpu} {act : Act Cpu}
variable {source next : Thread} {page : KvmPage} {begun : Nat}
variable {earlier pages : List KvmPage} {asked : List Request}

theorem Serving.elements_eq (serving : Serving source page begun) :
    elements page = page.run.io.count.toNat := by
  rw [elements, serving.exit]

theorem Serving.element_eq (serving : Serving source page begun) :
    element page =
      requestOf page.run.io (page.data page.run.io.dataOffset.toNat) := by
  rw [element, serving.exit]

theorem Serving.io_eq (serving : Serving source page begun) :
    source.io = page.run.io := by
  rw [Thread.io, serving.run]

/-- The thread has begun some elements, at most all of them. -/
theorem Serving.behind
    (serving : Serving source page begun) (outcome : Outcome)
    (place : next.vcpu.place = .ended outcome) :
    Served next (earlier ++ [page])
      (earlier.flatMap complete ++ requests page begun) :=
  .behind outcome place (by rw [serving.elements_eq]; exact serving.within)

/-- All elements have been begun, and none is left. -/
theorem Serving.exitDone
    {iteration : Iteration} {index : Nat}
    (serving : Serving source page begun)
    (place : source.vcpu.place = .calling iteration index)
    (all : source.io.count.toNat ≤ index) :
    Served (source.at .guest) (earlier ++ [page])
      (earlier.flatMap complete ++ requests page begun) := by
  have reached := serving.place
  rw [place] at reached
  cases reached
  have last : begun = elements page := by
    rw [serving.io_eq] at all
    rw [serving.elements_eq]
    exact Nat.le_antisymm serving.within all
  have whole :
      earlier.flatMap complete ++ requests page begun =
        (earlier ++ [page]).flatMap complete := by
    rw [last]
    simp [complete]
  rw [whole]
  exact .inGuest rfl

/-- A handler returns: the next element follows, or the loop ends. -/
theorem Serving.finish
    {iteration : Iteration} {index : Nat} {result : Int}
    {stored : Option UInt8}
    (serving : Serving source page begun)
    (within : index + 1 ≤ page.run.io.count.toNat)
    (kept : page.run.io.direction = .output → stored = none)
    (same : requests page begun = requests page (index + 1)) :
    Served (source.finish iteration index result stored)
      (earlier ++ [page])
      (earlier.flatMap complete ++ requests page begun) := by
  by_cases failed : result = 0
  · rw [same]
    refine .inService ⟨?_, serving.run, serving.exit, within, ?_, ?_, ?_⟩
    · simp [Thread.finish, Vcpu.finish, failed, begunAt]
    · intro output
      rw [← serving.cell output]
      cases kept output
      rfl
    · intro other position inCmos
      simp [Thread.finish, Vcpu.finish, failed] at inCmos
    · intro other position inCom1
      simp [Thread.finish, Vcpu.finish, failed] at inCom1
  · refine serving.behind (.returned (giveUp iteration)) ?_
    simp [Thread.finish, Vcpu.finish, failed]

theorem Serving.begun_eq
    {place : Place} (serving : Serving source page begun)
    (found : source.vcpu.place = place) {count : Nat}
    (reached : begunAt place = some count) : begun = count := by
  have same := serving.place
  rw [found, reached] at same
  exact (Option.some.inj same).symm

theorem Serving.owner_eq (serving : Serving source page begun) :
    source.owner =
      wiring page.run.io.direction page.run.io.port.toNat := by
  rw [Thread.owner, serving.io_eq]

/-- An element whose port belongs to no device asks nothing. -/
theorem Serving.requests_of_other
    (serving : Serving source page begun)
    (notCmos : source.owner ≠ .cmos) (notCom1 : source.owner ≠ .com1)
    (count : Nat) : requests page (count + 1) = requests page count := by
  have nothing : element page = none := by
    rw [serving.element_eq, requestOf]
    rw [serving.owner_eq] at notCmos notCom1
    split
    · contradiction
    · contradiction
    · rfl
  rw [requests_succ, nothing]
  simp

/-- A call which goes to no device returns at once. -/
theorem Serving.answered
    {iteration : Iteration} {index : Nat}
    (serving : Serving source page begun)
    (calls : source.Calls iteration index)
    (stateless : source.owner ≠ .cmos ∧ source.owner ≠ .com1)
    (result : Int) :
    Served (source.finish iteration index result none) (earlier ++ [page])
      (earlier.flatMap complete ++ requests page begun) := by
  have here : begun = index := serving.begun_eq calls.place rfl
  subst here
  have below := calls.below
  rw [serving.io_eq] at below
  have same := serving.requests_of_other stateless.1 stateless.2 begun
  exact serving.finish below (fun _ => rfl) same.symm

/-- A device returned what it was asked for. -/
theorem Serving.returned
    {place : Place} {iteration : Iteration} {index : Nat} {result : Int}
    {stored : Option UInt8}
    (serving : Serving source page begun)
    (found : source.vcpu.place = place)
    (reached : begunAt place = some (index + 1))
    (kept : page.run.io.direction = .output → stored = none) :
    Served (source.finish iteration index result stored)
      (earlier ++ [page])
      (earlier.flatMap complete ++ requests page begun) := by
  have here : begun = index + 1 := serving.begun_eq found reached
  subst here
  exact serving.finish serving.within kept rfl

/-- The request with which a virtual CPU begins an access to a device. -/
def begunBy [DecidableEq Cpu] (cpu : Cpu) : Act Cpu → Option Request
  | .cmos (.begin author access) =>
      if author = cpu then some (ofCmos access) else none
  | .com1 (.begin author access) =>
      if author = cpu then some (.com1 access) else none
  | _ => none

variable [DecidableEq Cpu]

/-- The CMOS is asked for what the element says. -/
theorem Serving.callCmos
    {iteration : Iteration} {index : Nat}
    (serving : Serving source page begun)
    (calls : source.Calls iteration index) (owner : source.owner = .cmos) :
    Served
      { source.at (.inCmos iteration index) with
        clock := .entry (source.vcpu.access iteration index).toCmos }
      (earlier ++ [page])
      (earlier.flatMap complete ++ requests page begun ++
        [ofCmos (source.vcpu.access iteration index).toCmos]) := by
  have reached : begun = index := serving.begun_eq calls.place rfl
  subst reached
  have asks :
      element page =
        some (ofCmos (source.vcpu.access iteration begun).toCmos) := by
    rw [serving.element_eq, requestOf, ← serving.owner_eq, owner]
    have direction :
        (source.vcpu.access iteration begun).direction =
          page.run.io.direction := by
      rw [← serving.io_eq]
      rfl
    rw [PortAccess.toCmos, direction]
    cases output : page.run.io.direction with
    | input =>
        rw [← serving.io_eq]
        rfl
    | output =>
        rw [← serving.cell output, ← serving.io_eq]
        rfl
  have more :
      requests page begun ++
          [ofCmos (source.vcpu.access iteration begun).toCmos] =
        requests page (begun + 1) := by
    rw [requests_succ, asks]
    rfl
  rw [List.append_assoc, more]
  refine .inService ⟨rfl, serving.run, serving.exit, ?_, serving.cell, ?_, ?_⟩
  · rw [← serving.io_eq]
    exact calls.below
  · intro other position _ output
    have direction :
        (source.vcpu.access iteration begun).direction = .output := by
      rw [← output, ← serving.io_eq]
      rfl
    rw [PortAccess.toCmos, direction]
    exact CmosSmp.writing_entry _ _ _
  · rintro other position ⟨⟩

/-- The UART is asked for what the element says. -/
theorem Serving.callCom1
    {iteration : Iteration} {index : Nat} {own : Com1Smp.Access}
    (serving : Serving source page begun)
    (calls : source.Calls iteration index) (owner : source.owner = .com1)
    (known :
      toCom1 source.io.direction source.io.port source.cell = some own) :
    Served { source.at (.inCom1 iteration index) with uart := own.entry }
      (earlier ++ [page])
      (earlier.flatMap complete ++ requests page begun ++ [.com1 own]) := by
  have reached : begun = index := serving.begun_eq calls.place rfl
  subst reached
  have asks : element page = some (.com1 own) := by
    rw [serving.element_eq, requestOf, ← serving.owner_eq, owner]
    rw [serving.io_eq] at known
    cases output : page.run.io.direction with
    | input =>
        rw [output] at known
        rw [toCom1] at known ⊢
        rw [known]
        rfl
    | output =>
        rw [serving.cell output, output] at known
        simp only [known, Option.map_some]
  have more :
      requests page begun ++ [.com1 own] = requests page (begun + 1) := by
    rw [requests_succ, asks]
    rfl
  rw [List.append_assoc, more]
  refine .inService ⟨rfl, serving.run, serving.exit, ?_, serving.cell, ?_, ?_⟩
  · rw [← serving.io_eq]
    exact calls.below
  · rintro other position ⟨⟩
  · intro other position _ output
    rw [serving.io_eq, output, toCom1] at known
    rcases Option.map_eq_some_iff.mp known with ⟨port, _, rfl⟩
    exact Com1SmpMoves.writing_entry _ _

/-- A step of a thread keeps the account of its exits. -/
theorem Served.moves
    (served : Served source pages asked)
    (moves : Moves devices cpu source act next) :
    Served next pages (asked ++ (begunBy cpu act).toList) := by
  rcases serving_of_moves moves with ⟨iteration, serves⟩
  cases served with
  | inGuest place =>
      rw [place] at serves
      cases serves
  | behind outcome place =>
      rw [place] at serves
      cases serves
  | @inService earlier page begun serving =>
      cases moves with
      | exitDone place all =>
          simpa [begunBy] using serving.exitDone place all
      | strays place =>
          simpa [begunBy] using
            serving.behind .outOfBounds rfl
      | ignored calls owner =>
          have stateless :
              source.owner ≠ .cmos ∧ source.owner ≠ .com1 := by
            rcases owner with owner | owner <;> simp [owner]
          simpa [begunBy] using serving.answered calls stateless 0
      | refused calls owner =>
          have stateless :
              source.owner ≠ .cmos ∧ source.owner ≠ .com1 := by
            rcases owner with owner | owner <;> simp [owner]
          simpa [begunBy] using serving.answered calls stateless 1
      | callCmos calls owner =>
          simpa [begunBy] using serving.callCmos calls owner
      | callCom1 calls owner known =>
          simpa [begunBy] using serving.callCom1 calls owner known
      | @cmosReturns iteration index result stored place returned =>
          have kept : page.run.io.direction = .output → stored = none := by
            intro output
            have writing := serving.clock _ _ place output
            rwa [returned] at writing
          simpa [begunBy] using serving.returned place rfl kept
      | cmosStrays place =>
          simpa [begunBy] using
            serving.behind .outOfBounds rfl
      | @cmosSteps iteration index effect clock place stepped =>
          have kept : Serving { source with clock } page begun :=
            { serving with
              clock := fun _ _ inCmos output =>
                CmosSmp.writing_step (serving.clock _ _ inCmos output)
                  stepped }
          simpa [begunBy] using Served.inService kept
      | @com1Returns iteration index result stored place returned =>
          have kept : page.run.io.direction = .output → stored = none := by
            intro output
            have writing := serving.uart _ _ place output
            rwa [returned] at writing
          simpa [begunBy] using serving.returned place rfl kept
      | @com1Steps iteration index effect uart place stepped =>
          have kept : Serving { source with uart } page begun :=
            { serving with
              uart := fun _ _ inCom1 output =>
                Com1SmpMoves.writing_step (serving.uart _ _ inCom1 output)
                  stepped }
          simpa [begunBy] using Served.inService kept

/-- In the guest, all exits are served to their end. -/
theorem Served.whole
    (served : Served source pages asked)
    (place : source.vcpu.place = .guest) :
    asked = pages.flatMap complete := by
  cases served with
  | inGuest => rfl
  | inService serving =>
      have reached := serving.place
      rw [place] at reached
      cases reached
  | behind outcome ended =>
      rw [place] at ended
      cases ended

/-- Outside of it, all but the last one. -/
theorem Served.part
    (served : Served source pages asked)
    (outside : source.vcpu.place ≠ .guest) :
    ∃ earlier page begun,
      pages = earlier ++ [page] ∧ begun ≤ elements page ∧
        asked = earlier.flatMap complete ++ requests page begun := by
  cases served with
  | inGuest place => exact absurd place outside
  | inService serving =>
      exact ⟨_, _, _, rfl, serving.elements_eq ▸ serving.within, rfl⟩
  | behind _ _ within => exact ⟨_, _, _, rfl, within, rfl⟩

/-- Leaving the guest adds an exit. -/
theorem Served.leaveGuest
    (served : Served source pages asked)
    (place : source.vcpu.place = .guest) (iteration : Iteration) :
    Served { source with vcpu := source.vcpu.leaveGuest iteration }
      (pages ++ [source.vcpu.pageAfter iteration]) asked := by
  rw [served.whole place]
  generalize pageAfter :
      source.vcpu.pageAfter iteration = page
  cases kind : exitKind page.run with
  | resume =>
      have nothing := complete_of_not_io page (by simp [kind])
      have same :
          pages.flatMap complete =
            (pages ++ [page]).flatMap complete := by
        simp [nothing]
      rw [same]
      exact .inGuest (by simp [Vcpu.leaveGuest, pageAfter, kind])
  | stop =>
      have same :
          pages.flatMap complete =
            pages.flatMap complete ++ requests page 0 := by
        simp [requests]
      rw [same]
      exact .behind (.returned (giveUp iteration))
        (by simp [Vcpu.leaveGuest, pageAfter, kind]) (Nat.zero_le _)
  | io io =>
      have own : io = page.run.io := io_of_exitKind kind
      subst own
      have same :
          pages.flatMap complete =
            pages.flatMap complete ++ requests page 0 := by
        simp [requests]
      rw [same]
      refine .inService ⟨?_, ?_, kind, Nat.zero_le _, ?_, ?_, ?_⟩
      · simp [Vcpu.leaveGuest, pageAfter, kind, begunAt]
      · simp [Vcpu.leaveGuest, pageAfter]
      · intro output
        simp [Thread.cell, Thread.io, Vcpu.leaveGuest, pageAfter]
      · intro other position inCmos
        simp [Vcpu.leaveGuest, pageAfter, kind] at inCmos
      · intro other position inCom1
        simp [Vcpu.leaveGuest, pageAfter, kind] at inCom1

end Service

/-! ## Runs -/

section Runs

variable {Cpu : Type*} [DecidableEq Cpu]

/-- The pages with which one virtual CPU left the guest. -/
def exitsOf (cpu : Cpu) (history : History Cpu) : List KvmPage :=
  history.exits.filterMap fun exit =>
    if exit.1 = cpu then some exit.2 else none

variable {source target : Machine Cpu} {label : SmpMachine.Label Cpu}
variable {history : History Cpu} {labels : List (SmpMachine.Label Cpu)}

variable {pages : Cpu → KvmPage} {cmosIndex : UInt8} {irqLevel : Bool}

end Runs

end Lvmm.Vm.SmpExits
