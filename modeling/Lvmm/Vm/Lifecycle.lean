import Mathlib.Logic.Function.Basic
import Lvmm.Device.HostTerminal
import Lvmm.Library.LabelledRun
import Lvmm.Vcpu.RunOnce
import Lvmm.Vm.Main

/-!
# The life of the process

`main` gets as far as `VM::Boot`, which starts a thread for every virtual CPU and
joins them one after the other.  `main` then returns 0, whatever the threads
returned.  The constructor of `COM1`, which puts the terminal into raw mode, is
called by `VM::initMachine`; only an exit runs the function which restores it.

A step is the whole of `main` before `VM::Boot`, the start of a thread, the end of
`Vcpu::RunLoop` in one, a join, or the exit.  The reader thread is detached from
all of this and not among the steps.
-/

namespace Lvmm.Vm.Lifecycle

open Lvmm.Device.HostTerminal
open Lvmm.Library.LabelledRun
open Lvmm.Vm.SysCall
open Lvmm.Vm.CreateVm
open Lvmm.Vm.KvmCaps
open Lvmm.Vm.CpuFeat
open Lvmm.Vm.InitRam
open Lvmm.Vm.Main

/-! ## The process -/

/-- A thread in `Vcpu::RunLoop`. -/
inductive VcpuThread where
  | absent
  | running
  | returned (result : Int)
deriving DecidableEq

/-- Where the main thread is; in a loop of `VM::Boot`, at which virtual CPU. -/
inductive MainPc where
  | starting
  | spawning (cpu : Nat)
  | joining (cpu : Nat)
deriving DecidableEq

/-- How the process ended; terminated is without the functions run at an exit. -/
inductive End where
  | exited (status : Int)
  | terminated
  | undefined
deriving DecidableEq

structure Process where
  main : MainPc
  threads : Nat → VcpuThread
  terminal : Terminal
  ended : Option End

/-- A step; the end of a `RunLoop` says how it ended. -/
inductive Label where
  | start
  | spawn (created : Bool)
  | runLoop (cpu : Nat) (outcome : Vcpu.RunOnce.Outcome)
  | join
  | exit

/-- What a process runs with. -/
structure Setting where
  conf : VmConfig
  cmdline : List UInt8
  env : Environment
  tty : TerminalAnswers
  attributes : Termios

/-- The terminal when the process starts. -/
def Setting.terminal (setting : Setting) : Terminal :=
  { attributes := setting.attributes, saved := none }

/-- The number of virtual CPUs, as the loops of `VM::Boot` count them. -/
def Setting.count (setting : Setting) : Nat :=
  setting.conf.vcpuNum.toNat

/-- `main` gets to `vm->initMachine()`, which constructs `COM1` first. -/
def constructsCom1 (conf : VmConfig) (env : Environment) : Bool :=
  if getKvmFd env.openKvm < 0 then false
  else
    match construct env.processor env.kvmAnswers env.unset with
    | .error _ => false
    | .ok kvm =>
        match
          kvmCreateVm kvm.cap conf.vcpuNum env.createVm
            (vmThrows env.buf env.kernelFile env.initramfsFile) with
        | .threw => false
        | .failed _ => false
        | .created result => decide (0 ≤ result)

/-- The terminal once `main` got as far as it gets. -/
def Setting.prepared (setting : Setting) : Terminal :=
  if constructsCom1 setting.conf setting.env then
    setting.terminal.construct setting.tty
  else setting.terminal

/-- The main thread at the head of the first loop of `VM::Boot`. -/
def Setting.spawnFrom (setting : Setting) (cpu : Nat) : MainPc :=
  if cpu < setting.count then .spawning cpu else .joining 0

/-- The process when it starts. -/
def Setting.fresh (setting : Setting) : Process :=
  { main := .starting, threads := fun _ => .absent
    terminal := setting.terminal, ended := none }

/-- A return from `main` or a call of `exit`. -/
def Process.exit (process : Process) (tty : TerminalAnswers) (status : Int) :
    Process :=
  { process with
    terminal := process.terminal.restoreAtExit tty
    ended := some (.exited status) }

/-- `main` up to `VM::Boot`. -/
def Setting.start (setting : Setting) (process : Process) : Process :=
  let prepared := { process with terminal := setting.prepared }
  match Main.main setting.conf setting.cmdline setting.env with
  | .exited status => prepared.exit setting.tty status
  | .threw => { prepared with ended := some .terminated }
  | .aborted => { prepared with ended := some .terminated }
  | .undefined => { prepared with ended := some .undefined }
  | .booted _ _ => { prepared with main := setting.spawnFrom 0 }

/-- The end of the `RunLoop` of a virtual CPU. -/
def Process.loopEnds (process : Process) (cpu : Nat) :
    Vcpu.RunOnce.Outcome → Process
  | .returned result =>
      { process with
        threads := Function.update process.threads cpu (.returned result) }
  -- an exception leaves the function of a thread
  | .badFunctionCall => { process with ended := some .terminated }
  | .outOfBounds => { process with ended := some .undefined }

/-- A step of a process which did not end. -/
def Setting.advance (setting : Setting) (process : Process) :
    Label → Option Process
  | .start =>
      if process.main = .starting then some (setting.start process) else none
  | .spawn created =>
      match process.main with
      | .spawning cpu =>
          if created then
            some
              { process with
                main := setting.spawnFrom (cpu + 1)
                threads := Function.update process.threads cpu .running }
          -- the exception finds joinable threads, or no handler
          else some { process with ended := some .terminated }
      | _ => none
  | .runLoop cpu outcome =>
      if process.threads cpu = .running then
        some (process.loopEnds cpu outcome)
      else none
  | .join =>
      match process.main with
      | .joining cpu =>
          if cpu < setting.count then
            match process.threads cpu with
            | .returned _ => some { process with main := .joining (cpu + 1) }
            | _ => none
          else none
      | _ => none
  | .exit =>
      match process.main with
      | .joining cpu =>
          if cpu < setting.count then none
          else some (process.exit setting.tty 0)
      | _ => none

/-- One step. -/
def Setting.step (setting : Setting) (process : Process) (label : Label) :
    Option Process :=
  match process.ended with
  | some _ => none
  | none => setting.advance process label

/-! ## What holds throughout -/

/-- The machine was booted. -/
def Setting.Booted (setting : Setting) : Prop :=
  ∃ registers ram,
    Main.main setting.conf setting.cmdline setting.env =
      .booted registers ram

/-- What the loops of `VM::Boot` keep. -/
structure Booting (setting : Setting) (process : Process) : Prop where
  booted : setting.Booted
  terminal : process.terminal = setting.prepared
  spawning : ∀ cpu, process.main = .spawning cpu →
    cpu < setting.count ∧
      ∀ other, process.threads other = .absent ↔ cpu ≤ other
  joining : ∀ cpu, process.main = .joining cpu →
    cpu ≤ setting.count ∧
      (∀ other, process.threads other = .absent ↔ setting.count ≤ other) ∧
      ∀ other, other < cpu →
        ∃ result, process.threads other = .returned result

/-- What an exit leaves. -/
structure Exited (setting : Setting) (process : Process) (status : Int) :
    Prop where
  terminal :
    process.terminal = setting.prepared.restoreAtExit setting.tty
  booted : setting.Booted → status = 0 ∧ ∀ cpu,
    (cpu < setting.count → ∃ result, process.threads cpu = .returned result) ∧
      (setting.count ≤ cpu → process.threads cpu = .absent)
  notBooted : ¬ setting.Booted → status = -1 ∧
    ∀ cpu, process.threads cpu = .absent

/-- What a termination leaves. -/
structure Terminated (setting : Setting) (process : Process) : Prop where
  terminal : process.terminal = setting.prepared
  booted : ∀ cpu, process.threads cpu ≠ .absent → setting.Booted

/-- What is true of a process at any time. -/
def Setting.Holds (setting : Setting) (process : Process) : Prop :=
  match process.ended with
  | some (.exited status) => Exited setting process status
  | some .terminated => Terminated setting process
  | some .undefined => True
  | none =>
      match process.main with
      | .starting =>
          process.terminal = setting.terminal ∧
            ∀ cpu, process.threads cpu = .absent
      | _ => Booting setting process

/-! ## `main` up to `VM::Boot` -/

section Main

variable {conf : VmConfig} {cmdline : List UInt8} {env : Environment}

theorem loadAndBoot_exited
    {status : Int} (exited : loadAndBoot conf cmdline env = .exited status) :
    status = -1 := by
  rw [loadAndBoot, ← Environment.loaded] at exited
  rcases loaded : env.loaded conf cmdline with ⟨ending, ram⟩
  rw [loaded] at exited
  cases ending with
  | aborted | undefined => cases exited
  | returned result =>
      by_cases zero : result = 0
      · simp [zero] at exited
      · simp only [ne_eq, zero, not_false_eq_true, if_true,
          Main.Outcome.exited.injEq] at exited
        exact exited.symm

theorem initialise_exited
    {status : Int} (exited : initialise conf cmdline env = .exited status) :
    status = -1 := by
  rw [initialise] at exited
  cases ended :
      (InitMachine.initMachine env.initAnswers conf.vcpuNum
        conf.is64bitBoot).ending with
  | threw | aborted =>
      rw [ended] at exited
      cases exited
  | returned result =>
      rw [ended] at exited
      by_cases zero : result = 0
      · exact loadAndBoot_exited (by simpa [zero] using exited)
      · simp only [ne_eq, zero, not_false_eq_true, if_true,
          Main.Outcome.exited.injEq] at exited
        exact exited.symm

theorem createAndInitialise_exited
    {kvm : Kvm} {status : Int}
    (exited : createAndInitialise conf cmdline env kvm = .exited status) :
    status = -1 := by
  rw [createAndInitialise] at exited
  cases created :
      kvmCreateVm kvm.cap conf.vcpuNum env.createVm
        (vmThrows env.buf env.kernelFile env.initramfsFile) with
  | threw =>
      rw [created] at exited
      cases exited
  | failed result =>
      rw [created] at exited
      by_cases negative : result < 0
      · simp only [negative, if_true, Main.Outcome.exited.injEq] at exited
        exact exited.symm
      · simp [negative] at exited
  | created result =>
      rw [created] at exited
      by_cases negative : result < 0
      · simp only [negative, if_true, Main.Outcome.exited.injEq] at exited
        exact exited.symm
      · exact initialise_exited (by simpa [negative] using exited)

/-- Before the virtual CPUs the program only exits to report a failure. -/
theorem main_exited
    {status : Int}
    (exited : Main.main conf cmdline env = .exited status) :
    status = -1 := by
  rw [Main.main] at exited
  by_cases negative : getKvmFd env.openKvm < 0
  · simp only [negative, if_true, Main.Outcome.exited.injEq] at exited
    exact exited.symm
  · rw [if_neg negative] at exited
    cases constructed : construct env.processor env.kvmAnswers env.unset with
    | error thrown =>
        rw [constructed] at exited
        cases exited
    | ok kvm =>
        rw [constructed] at exited
        exact createAndInitialise_exited exited

end Main

/-! ## Every step keeps it -/

section Steps

variable {setting : Setting} {source target : Process}

theorem Setting.holds_fresh (setting : Setting) :
    setting.Holds setting.fresh :=
  ⟨rfl, fun _ => rfl⟩

/-- A process in `VM::Boot` holds what its loops keep. -/
theorem Booting.holds
    (booting : Booting setting target) (alive : target.ended = none)
    (started : target.main ≠ .starting) : setting.Holds target := by
  rw [Setting.Holds, alive]
  cases place : target.main with
  | starting => exact absurd place started
  | spawning cpu | joining cpu => exact booting

theorem Setting.Holds.booting
    (holds : setting.Holds source) (alive : source.ended = none)
    (started : source.main ≠ .starting) : Booting setting source := by
  rw [Setting.Holds, alive] at holds
  cases place : source.main with
  | starting => exact absurd place started
  | spawning cpu | joining cpu =>
      rw [place] at holds
      exact holds

theorem Setting.Holds.starting
    (holds : setting.Holds source) (alive : source.ended = none)
    (starting : source.main = .starting) :
    source.terminal = setting.terminal ∧
      ∀ cpu, source.threads cpu = .absent := by
  rw [Setting.Holds, alive, starting] at holds
  exact holds

theorem Booting.terminated
    (booting : Booting setting source) (place : MainPc) :
    setting.Holds
      { source with main := place, ended := some .terminated } :=
  ⟨booting.terminal, fun _ _ => booting.booted⟩

/-- Where the first loop of `VM::Boot` goes on with a virtual CPU, or ends. -/
theorem booting_of_spawnFrom
    {cpu : Nat} (booted : setting.Booted)
    (terminal : target.terminal = setting.prepared)
    (place : target.main = setting.spawnFrom cpu)
    (bound : cpu ≤ setting.count)
    (absent : ∀ other, target.threads other = .absent ↔ cpu ≤ other) :
    Booting setting target := by
  rw [Setting.spawnFrom] at place
  by_cases more : cpu < setting.count
  · rw [if_pos more] at place
    refine ⟨booted, terminal, ?_, ?_⟩
    · intro current spawning
      rw [place] at spawning
      cases spawning
      exact ⟨more, absent⟩
    · intro current joining
      rw [place] at joining
      cases joining
  · rw [if_neg more] at place
    have all : cpu = setting.count :=
      Nat.le_antisymm bound (Nat.le_of_not_lt more)
    subst all
    refine ⟨booted, terminal, ?_, ?_⟩
    · intro current spawning
      rw [place] at spawning
      cases spawning
    · intro current joining
      rw [place] at joining
      cases joining
      exact ⟨Nat.zero_le _, absent,
        fun other before => absurd before (Nat.not_lt_zero other)⟩

theorem spawnFrom_ne_starting (setting : Setting) (cpu : Nat) :
    setting.spawnFrom cpu ≠ .starting := by
  rw [Setting.spawnFrom]
  split <;> simp

theorem holds_start
    (alive : source.ended = none)
    (absent : ∀ cpu, source.threads cpu = .absent) :
    setting.Holds (setting.start source) := by
  cases outcome : Main.main setting.conf setting.cmdline setting.env with
  | exited status =>
      have notBooted : ¬ setting.Booted := by
        rintro ⟨registers, ram, booted⟩
        rw [outcome] at booted
        cases booted
      have exited : Exited setting (setting.start source) status := by
        rw [Setting.start, outcome]
        exact ⟨rfl, fun booted => absurd booted notBooted,
          fun _ => ⟨main_exited outcome, absent⟩⟩
      have ended : (setting.start source).ended = some (.exited status) := by
        rw [Setting.start, outcome]
        rfl
      rw [Setting.Holds, ended]
      exact exited
  | threw | aborted =>
      simp only [Setting.Holds, Setting.start, outcome]
      exact ⟨rfl, fun cpu there => absurd (absent cpu) there⟩
  | undefined => simp [Setting.Holds, Setting.start, outcome]
  | booted registers ram =>
      have place :
          (setting.start source).main = setting.spawnFrom 0 := by
        rw [Setting.start, outcome]
      refine Booting.holds
        (booting_of_spawnFrom ⟨registers, ram, outcome⟩ ?_ place
          (Nat.zero_le _) ?_) ?_ ?_
      · rw [Setting.start, outcome]
      · intro other
        rw [Setting.start, outcome]
        simp [absent]
      · rw [Setting.start, outcome]
        exact alive
      · rw [place]
        exact spawnFrom_ne_starting setting 0

/-- A started thread is not one of the absent ones any more. -/
theorem update_absent_iff
    {threads : Nat → VcpuThread} {cpu bound : Nat} {thread : VcpuThread}
    (there : thread ≠ .absent)
    (absent : ∀ other, threads other = .absent ↔ bound ≤ other)
    (other : Nat) :
    Function.update threads cpu thread other = .absent ↔
      bound ≤ other ∧ other ≠ cpu := by
  by_cases same : other = cpu
  · subst same
    simp [there]
  · simp [same, absent]

theorem holds_spawn
    {cpu : Nat} (booting : Booting setting source)
    (alive : source.ended = none) (spawning : source.main = .spawning cpu) :
    setting.Holds
      { source with
        main := setting.spawnFrom (cpu + 1)
        threads := Function.update source.threads cpu .running } := by
  rcases booting.spawning cpu spawning with ⟨more, absent⟩
  refine Booting.holds
    (booting_of_spawnFrom booting.booted booting.terminal rfl more ?_) alive
    (spawnFrom_ne_starting setting _)
  intro other
  rw [update_absent_iff (by simp) absent]
  omega

theorem holds_returned
    {cpu : Nat} {result : Int} (booting : Booting setting source)
    (alive : source.ended = none) (started : source.main ≠ .starting)
    (running : source.threads cpu = .running) :
    setting.Holds
      { source with
        threads :=
          Function.update source.threads cpu (.returned result) } := by
  have present {bound : Nat}
      (absent : ∀ other, source.threads other = .absent ↔ bound ≤ other)
      (other : Nat) :
      Function.update source.threads cpu (.returned result) other =
          .absent ↔ bound ≤ other := by
    have before : ¬ bound ≤ cpu := by
      rw [← absent, running]
      simp
    rw [update_absent_iff (by simp) absent]
    omega
  refine Booting.holds ⟨booting.booted, booting.terminal, ?_, ?_⟩ alive
    started
  · intro current spawning
    rcases booting.spawning current spawning with ⟨more, absent⟩
    exact ⟨more, present absent⟩
  · intro current joining
    rcases booting.joining current joining with ⟨bound, absent, joined⟩
    refine ⟨bound, present absent, ?_⟩
    intro other before
    by_cases same : other = cpu
    · subst same
      exact ⟨result, Function.update_self ..⟩
    · rcases joined other before with ⟨earlier, returned⟩
      exact ⟨earlier, by simpa [same] using returned⟩

theorem holds_join
    {cpu : Nat} {result : Int} (booting : Booting setting source)
    (alive : source.ended = none) (joining : source.main = .joining cpu)
    (more : cpu < setting.count)
    (returned : source.threads cpu = .returned result) :
    setting.Holds { source with main := .joining (cpu + 1) } := by
  rcases booting.joining cpu joining with ⟨_, absent, joined⟩
  refine Booting.holds ⟨booting.booted, booting.terminal, ?_, ?_⟩ alive
    (by simp)
  · intro current spawning
    cases spawning
  · intro current place
    cases place
    refine ⟨more, absent, ?_⟩
    intro other before
    rcases Nat.lt_succ_iff_lt_or_eq.mp before with earlier | rfl
    · exact joined other earlier
    · exact ⟨result, returned⟩

theorem holds_exit
    {cpu : Nat} (booting : Booting setting source)
    (joining : source.main = .joining cpu)
    (done : ¬ cpu < setting.count) :
    setting.Holds (source.exit setting.tty 0) := by
  rcases booting.joining cpu joining with ⟨_, absent, joined⟩
  refine ⟨?_, ?_, ?_⟩
  · rw [Process.exit, booting.terminal]
  · refine fun _ => ⟨rfl, ?_⟩
    intro other
    exact ⟨fun before =>
        joined other (Nat.lt_of_lt_of_le before (Nat.le_of_not_lt done)),
      (absent other).mpr⟩
  · exact fun notBooted => absurd booting.booted notBooted

/-- What is true of a process stays true. -/
theorem holds_step
    {label : Label} (holds : setting.Holds source)
    (taken : setting.step source label = some target) :
    setting.Holds target := by
  cases alive : source.ended with
  | some ended =>
      rw [Setting.step, alive] at taken
      cases taken
  | none =>
      rw [Setting.step, alive] at taken
      cases label with
      | start =>
          rw [Setting.advance] at taken
          split_ifs at taken with starting
          cases taken
          exact holds_start alive (holds.starting alive starting).2
      | spawn created =>
          cases place : source.main with
          | starting | joining cpu => simp [Setting.advance, place] at taken
          | spawning cpu =>
              have booting := holds.booting alive (by simp [place])
              cases created with
              | true =>
                  simp only [Setting.advance, place, if_true,
                    Option.some.injEq] at taken
                  subst taken
                  exact holds_spawn booting alive place
              | false =>
                  simp only [Setting.advance, place, Bool.false_eq_true,
                    if_false, Option.some.injEq] at taken
                  subst taken
                  exact booting.terminated _
      | runLoop cpu outcome =>
          rw [Setting.advance] at taken
          split_ifs at taken with running
          have started : source.main ≠ .starting := by
            intro starting
            have absent := (holds.starting alive starting).2 cpu
            rw [running] at absent
            cases absent
          have booting := holds.booting alive started
          cases taken
          cases outcome with
          | returned result =>
              exact holds_returned booting alive started running
          | badFunctionCall => exact booting.terminated _
          | outOfBounds => trivial
      | join =>
          cases place : source.main with
          | starting | spawning cpu => simp [Setting.advance, place] at taken
          | joining cpu =>
              have booting := holds.booting alive (by simp [place])
              simp only [Setting.advance, place] at taken
              split_ifs at taken with more
              cases thread : source.threads cpu with
              | absent | running => simp [thread] at taken
              | returned result =>
                  simp only [thread, Option.some.injEq] at taken
                  subst taken
                  exact holds_join booting alive place more thread
      | exit =>
          cases place : source.main with
          | starting | spawning cpu => simp [Setting.advance, place] at taken
          | joining cpu =>
              have booting := holds.booting alive (by simp [place])
              simp only [Setting.advance, place] at taken
              split_ifs at taken with more
              cases taken
              exact holds_exit booting place more

theorem holds_run
    {labels : List Label}
    (run : Run setting.step setting.fresh labels target) :
    setting.Holds target :=
  Run.invariant setting.Holds setting.holds_fresh
    (fun _ _ _ holds taken => holds_step holds taken) run

/-! ## The terminal -/

/-- A machine is booted after `COM1` was constructed. -/
theorem constructsCom1_of_booted (booted : setting.Booted) :
    constructsCom1 setting.conf setting.env = true := by
  rcases booted with ⟨registers, ram, booted⟩
  rcases main_eq_booted_iff.mp booted with
    ⟨opened, ⟨kvm, constructed, result, created⟩, -, -, -⟩
  have nonnegative : ¬ getKvmFd setting.env.openKvm < 0 := by
    rw [getKvmFd_neg_iff]
    exact not_not_intro opened
  have notNegative : 0 ≤ result := by
    rw [kvmCreateVm] at created
    split_ifs at created with exceeds failed throws
    cases created
    omega
  simp [constructsCom1, nonnegative, constructed, created, notNegative]

/-- Restoring undoes what the constructor of `COM1` did. -/
theorem restoreAtExit_construct
    {answers : TerminalAnswers} (restore : answers.restore = true)
    (terminal : Terminal) (unsaved : terminal.saved = none) :
    ((terminal.construct answers).restoreAtExit answers).attributes =
      terminal.attributes := by
  rw [Terminal.construct]
  split_ifs
  · simp [Terminal.restoreAtExit, restore]
  · simp [Terminal.restoreAtExit, restore]
  · simp [Terminal.restoreAtExit, unsaved]
  · simp [Terminal.restoreAtExit, unsaved]

/-- The standard input is a terminal, and its attributes are read and set. -/
structure IsTerminal (answers : TerminalAnswers) : Prop where
  isatty : answers.isatty = true
  tcgetattr : answers.tcgetattr = true
  setRaw : answers.setRaw = true

/-- What a user of the program sees of it. -/
structure Lived (setting : Setting) (process : Process) : Prop where
  /-- Once booted, the program reports success, after the last `RunLoop`. -/
  booted : ∀ status, process.ended = some (.exited status) →
    setting.Booted → status = 0 ∧ ∀ cpu, cpu < setting.count →
      ∃ result, process.threads cpu = .returned result
  failed : ∀ status, process.ended = some (.exited status) →
    ¬ setting.Booted → status = -1 ∧ ∀ cpu, process.threads cpu = .absent
  /-- An exit leaves the terminal as it was. -/
  restored : ∀ status, process.ended = some (.exited status) →
    setting.tty.restore = true →
      process.terminal.attributes = setting.attributes
  /-- It is raw while a guest runs, and a termination then leaves it so. -/
  raw : ∀ cpu, process.threads cpu = .running →
    process.ended ≠ some .undefined → IsTerminal setting.tty →
      PassesBytes process.terminal.attributes ∧
        OtherwiseSame setting.attributes process.terminal.attributes

theorem prepared_restored
    (setting : Setting) (restore : setting.tty.restore = true) :
    (setting.prepared.restoreAtExit setting.tty).attributes =
      setting.attributes := by
  rw [Setting.prepared]
  split
  · exact restoreAtExit_construct restore setting.terminal rfl
  · rfl

theorem prepared_raw
    (booted : setting.Booted) (isTerminal : IsTerminal setting.tty) :
    setting.prepared.attributes = rawAttributes setting.attributes := by
  rcases isTerminal with ⟨isatty, tcgetattr, setRaw⟩
  simp [Setting.prepared, constructsCom1_of_booted booted,
    Terminal.construct, Setting.terminal, isatty, tcgetattr, setRaw]

/-- Where a thread runs the machine was booted, and the terminal prepared. -/
theorem Setting.Holds.of_running
    {cpu : Nat} (holds : setting.Holds source)
    (running : source.threads cpu = .running)
    (defined : source.ended ≠ some .undefined) :
    setting.Booted ∧ source.terminal = setting.prepared := by
  have there : source.threads cpu ≠ .absent := by simp [running]
  cases ended : source.ended with
  | none =>
      have started : source.main ≠ .starting := fun starting =>
        there ((holds.starting ended starting).2 cpu)
      have booting := holds.booting ended started
      exact ⟨booting.booted, booting.terminal⟩
  | some ending =>
      rw [Setting.Holds, ended] at holds
      cases ending with
      | exited status =>
          by_cases booted : setting.Booted
          · rcases (holds.booted booted).2 cpu with ⟨returned, absent⟩
            by_cases before : cpu < setting.count
            · rcases returned before with ⟨result, isReturned⟩
              rw [running] at isReturned
              cases isReturned
            · exact absurd (absent (Nat.le_of_not_lt before)) there
          · exact absurd ((holds.notBooted booted).2 cpu) there
      | terminated => exact ⟨holds.booted cpu there, holds.terminal⟩
      | undefined => exact absurd ended defined

/--
In every run of a process: once a machine is booted, only the return of every
`RunLoop` leads to an exit, and always to one with status 0; an exit restores the
terminal; and until then it is raw, also when a thread ends the process otherwise.
-/
theorem process_lives
    {labels : List Label}
    (run : Run setting.step setting.fresh labels target) :
    Lived setting target := by
  have holds := holds_run run
  have exited {status : Int}
      (ended : target.ended = some (.exited status)) :
      Exited setting target status := by
    rw [Setting.Holds, ended] at holds
    exact holds
  constructor
  · intro status ended booted
    rcases (exited ended).booted booted with ⟨zero, threads⟩
    exact ⟨zero, fun cpu => (threads cpu).1⟩
  · intro status ended
    exact (exited ended).notBooted
  · intro status ended restore
    rw [(exited ended).terminal]
    exact prepared_restored setting restore
  · intro cpu running defined isTerminal
    rcases holds.of_running running defined with ⟨booted, terminal⟩
    rw [terminal, prepared_raw booted isTerminal]
    exact ⟨passesBytes_raw _, otherwiseSame_raw _⟩

/-! ## Getting to the exit -/

/-- Threads can be created, and a `RunLoop` which ends returns a given value. -/
def Label.Returns (results : Nat → Int) : Label → Prop
  | .spawn created => created = true
  | .runLoop cpu outcome => outcome = .returned (results cpu)
  | _ => True

/-- The process can exit with 0 through such steps. -/
def CanExit
    (setting : Setting) (results : Nat → Int) (source : Process) : Prop :=
  ∃ labels target, (∀ label ∈ labels, Label.Returns results label) ∧
    Run setting.step source labels target ∧
      target.ended = some (.exited 0)

variable {results : Nat → Int}

theorem CanExit.of_step
    (label : Label) (target : Process) (returns : label.Returns results)
    (taken : setting.step source label = some target)
    (can : CanExit setting results target) :
    CanExit setting results source := by
  rcases can with ⟨labels, final, rest, run, exited⟩
  refine ⟨label :: labels, final, ?_, Run.cons_iff.mpr ⟨target, taken, run⟩,
    exited⟩
  intro other member
  rcases List.mem_cons.mp member with rfl | later
  · exact returns
  · exact rest other later

/-- A thread that has returned is joined. -/
theorem canExit_of_returned
    {cpu : Nat} (booting : Booting setting source)
    (alive : source.ended = none) (joining : source.main = .joining cpu)
    (more : cpu < setting.count)
    (returned : ∃ result, source.threads cpu = .returned result)
    (next : ∀ target, Booting setting target → target.ended = none →
      target.main = .joining (cpu + 1) → CanExit setting results target) :
    CanExit setting results source := by
  rcases returned with ⟨result, returned⟩
  refine CanExit.of_step .join { source with main := .joining (cpu + 1) }
    trivial ?_ ?_
  · simp [Setting.step, alive, Setting.advance, joining, more, returned]
  · refine next _ ?_ alive rfl
    exact (holds_join booting alive joining more returned).booting alive
      (by simp)

/-- The joins that are left lead to the exit. -/
theorem canExit_of_joining
    (left : Nat) {cpu : Nat} (booting : Booting setting source)
    (alive : source.ended = none) (joining : source.main = .joining cpu)
    (count : cpu + left = setting.count) :
    CanExit setting results source := by
  induction left generalizing source cpu with
  | zero =>
      have done : ¬ cpu < setting.count := by omega
      refine ⟨[.exit], source.exit setting.tty 0, ?_, Run.single ?_, rfl⟩
      · intro label member
        cases List.mem_singleton.mp member
        trivial
      · simp [Setting.step, alive, Setting.advance, joining, done]
  | succ left induction =>
      have more : cpu < setting.count := by omega
      have next : ∀ target, Booting setting target → target.ended = none →
          target.main = .joining (cpu + 1) →
            CanExit setting results target := by
        intro target booting alive joining
        exact induction booting alive joining (by omega)
      rcases booting.joining cpu joining with ⟨_, absent, _⟩
      cases thread : source.threads cpu with
      | absent => exact absurd ((absent cpu).mp thread) (by omega)
      | returned result =>
          exact canExit_of_returned booting alive joining more
            ⟨result, thread⟩ next
      | running =>
          have started : source.main ≠ .starting := by simp [joining]
          refine CanExit.of_step (.runLoop cpu (.returned (results cpu)))
            (source.loopEnds cpu (.returned (results cpu))) rfl ?_ ?_
          · simp [Setting.step, alive, Setting.advance, thread]
          · exact canExit_of_returned
              ((holds_returned booting alive started thread).booting alive
                started)
              alive joining more
              ⟨results cpu, Function.update_self ..⟩ next

/-- The starts that are left lead to the joins. -/
theorem canExit_of_spawning
    (left : Nat) {cpu : Nat} (booting : Booting setting source)
    (alive : source.ended = none) (spawning : source.main = .spawning cpu)
    (count : cpu + left = setting.count) :
    CanExit setting results source := by
  induction left generalizing source cpu with
  | zero =>
      have more := (booting.spawning cpu spawning).1
      omega
  | succ left induction =>
      have after :=
        (holds_spawn booting alive spawning).booting alive
          (spawnFrom_ne_starting setting (cpu + 1))
      refine CanExit.of_step (.spawn true)
        { source with
          main := setting.spawnFrom (cpu + 1)
          threads := Function.update source.threads cpu .running }
        rfl ?_ ?_
      · simp [Setting.step, alive, Setting.advance, spawning]
      · by_cases more : cpu + 1 < setting.count
        · exact induction after alive (if_pos more) (by omega)
        · exact canExit_of_joining setting.count after alive (if_neg more)
            (Nat.zero_add _)

/--
A process whose machine was booted never gets stuck: from every state it reaches,
whatever the loops that still run return, it can exit with status 0.
-/
theorem process_can_exit
    {labels : List Label} (results : Nat → Int)
    (run : Run setting.step setting.fresh labels target)
    (alive : target.ended = none) (started : target.main ≠ .starting) :
    CanExit setting results target := by
  have booting := (holds_run run).booting alive started
  cases place : target.main with
  | starting => exact absurd place started
  | spawning cpu =>
      have more := (booting.spawning cpu place).1
      exact canExit_of_spawning (setting.count - cpu) booting alive place
        (by omega)
  | joining cpu =>
      have bound := (booting.joining cpu place).1
      exact canExit_of_joining (setting.count - cpu) booting alive place
        (by omega)

end Steps

/-! ## A process on a terminal -/

/-- The program of the small machine, on a terminal. -/
def smallSetting : Setting where
  conf := vmConf
  cmdline := vmCmdline.toUTF8.toList
  env := smallEnvironment
  tty := ⟨true, true, true, true⟩
  attributes := ⟨0, 0, 0, 0, .replicate 32 0⟩

theorem smallSetting_booted : smallSetting.Booted :=
  booted_of_boots vmCmdline.toUTF8.toList rfl (by decide)
    smallEnvironment_boots

theorem smallSetting_start :
    smallSetting.step smallSetting.fresh .start =
      some
        { smallSetting.fresh with
          main := .spawning 0, terminal := smallSetting.prepared } := by
  rcases smallSetting_booted with ⟨registers, ram, booted⟩
  have first : smallSetting.spawnFrom 0 = .spawning 0 := by decide
  simp [Setting.step, Setting.advance, Setting.fresh, Setting.start, booted,
    first]

/-- The states after the start of the virtual CPU. -/
def smallRunning : Process where
  main := .joining 0
  threads := Function.update (fun _ => .absent) 0 .running
  terminal := smallSetting.prepared
  ended := none

theorem smallSetting_runs :
    Run smallSetting.step smallSetting.fresh [.start, .spawn true]
      smallRunning := by
  have last : smallSetting.spawnFrom 1 = .joining 0 := by decide
  refine Run.cons_iff.mpr ⟨_, smallSetting_start, Run.single ?_⟩
  simp [Setting.step, Setting.advance, Setting.fresh, last, smallRunning]

/-- An exception in the thread leaves the terminal raw. -/
theorem process_lives_terminated :
    ∃ target,
      Run smallSetting.step smallSetting.fresh
          [.start, .spawn true, .runLoop 0 .badFunctionCall] target ∧
        target.ended = some .terminated ∧
        PassesBytes target.terminal.attributes := by
  have run :
      Run smallSetting.step smallSetting.fresh
        [.start, .spawn true, .runLoop 0 .badFunctionCall]
        { smallRunning with ended := some .terminated } :=
    smallSetting_runs.snoc rfl
  exact ⟨_, run, rfl,
    ((process_lives run).raw 0 rfl (by simp) ⟨rfl, rfl, rfl⟩).1⟩

theorem process_can_exit_small :
    CanExit smallSetting (fun _ => 1) smallRunning :=
  process_can_exit (fun _ => 1) smallSetting_runs rfl (by decide)

end Lvmm.Vm.Lifecycle
