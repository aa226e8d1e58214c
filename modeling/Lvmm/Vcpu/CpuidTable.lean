import Lvmm.Library.LittleEndian
import Lvmm.Vcpu.RegisterInit

/-!
# The CPUID table of a virtual CPU

The constructor of `Vcpu` allocates room for 100 entries, asks KVM for the values
it supports, overwrites the leaf of the hypervisor's signature and passes the table
on.  It discards the result of the question, so a table which KVM did not fill is
passed on as well.
-/

namespace Lvmm.Vcpu.CpuidTable

open Lvmm.Library.LittleEndian
open Lvmm.Library.StoppingLoop
open Lvmm.Vm.SysCall
open Lvmm.Vm.InitMachine
open Lvmm.Vcpu.RegisterInit (stored)

def kvmCpuidEntriesNum : Nat := 100
def kvmCpuidSignature : UInt32 := 0x40000000
def kvmCpuidFeatures : UInt32 := 0x40000001
def kvmCpuidEbx : UInt32 := 0x4b4d564b
def kvmCpuidEcx : UInt32 := 0x564b4d56
def kvmCpuidEdx : UInt32 := 0x0000004d

/-- `kvm_cpuid_entry2`. -/
structure CpuidEntry where
  function : UInt32
  index : UInt32
  flags : UInt32
  eax : UInt32
  ebx : UInt32
  ecx : UInt32
  edx : UInt32
deriving DecidableEq

/-- The allocated `kvm_cpuid2`: a count, and room for 100 entries. -/
structure KvmCpuid2 where
  nent : UInt32
  entries : Vector CpuidEntry kvmCpuidEntriesNum
deriving DecidableEq

/-- What `calloc` returns, with the count filled in. -/
def allocated : KvmCpuid2 where
  nent := .ofNat kvmCpuidEntriesNum
  entries := .replicate kvmCpuidEntriesNum ⟨0, 0, 0, 0, 0, 0, 0⟩

/-! ## The constructor -/

/-- The four assignments in the loop of `Vcpu::Vcpu`. -/
def CpuidEntry.signed (entry : CpuidEntry) : CpuidEntry :=
  { entry with
    eax := kvmCpuidFeatures, ebx := kvmCpuidEbx, ecx := kvmCpuidEcx
    edx := kvmCpuidEdx }

/-- The loop read an entry behind the allocated ones. -/
structure OutOfBounds where

/-- One iteration of the loop in `Vcpu::Vcpu`. -/
def iteration (index : Nat) (table : KvmCpuid2) :
    KvmCpuid2 × Option OutOfBounds :=
  if bound : index < kvmCpuidEntriesNum then
    if table.entries[index].function ≠ kvmCpuidSignature then (table, none)
    else
      ({ table with
          entries := table.entries.set index table.entries[index].signed },
        none)
  else (table, some {})

/-- The loop in `Vcpu::Vcpu`; no iteration changes the count. -/
def overwrite (table : KvmCpuid2) : KvmCpuid2 × Option OutOfBounds :=
  runUntil iteration (List.range table.nent.toNat) table

/-- How the constructor ends. -/
inductive Construction where
  | constructed
  | threw
  | undefined
deriving DecidableEq

/-- What was passed to `KVM_SET_CPUID2`, and how the constructor ended. -/
structure VcpuRun where
  passed : Option KvmCpuid2
  ending : Construction

/-- `Vcpu::Vcpu`, given what `KVM_GET_SUPPORTED_CPUID` leaves of the table. -/
def constructVcpu
    (left : KvmCpuid2) (setCpuid2 mmapRun : SysResult) : VcpuRun :=
  match overwrite left with
  | (_, some _) => { passed := none, ending := .undefined }
  | (table, none) =>
      { passed := some table
        ending :=
          if kvmIoctl setCpuid2 < 0 then .threw
          else if mmapRun.Succeeded then .constructed
          else .threw }

/-! ## The loop over the virtual CPUs -/

/-- The answers to the system calls, and what the question leaves of a table. -/
structure Host where
  answers : InitCall → SysResult
  supported : Nat → KvmCpuid2 → KvmCpuid2

/-- What ends `VM::createVcpu`. -/
inductive Stop where
  | ends (ending : Ending)
  | undefined

/-- The table which KVM holds for each virtual CPU. -/
abbrev Tables : Type :=
  Nat → Option KvmCpuid2

/-- How the loop goes on after a constructor. -/
def Construction.stop : Construction → Option Stop
  | .constructed => none
  | .threw => some (.ends .threw)
  | .undefined => some .undefined

/-- The constructor of a virtual CPU among the others. -/
def Host.construct (host : Host) (cpu : Nat) : VcpuRun :=
  constructVcpu (host.supported cpu allocated) (host.answers (.setCpuid2 cpu))
    (host.answers (.mmapRun cpu))

/-- The table KVM holds after an iteration. -/
def Host.give (host : Host) (cpu : Nat) (before : Option KvmCpuid2) :
    Option KvmCpuid2 :=
  if kvmIoctl (host.answers (.createVcpu cpu)) < 0 then before
  else
    stored before ((host.construct cpu).passed.map some)
      (host.answers (.setCpuid2 cpu))

/-- What an iteration asks of the loop. -/
def Host.stop (host : Host) (cpu : Nat) : Option Stop :=
  if kvmIoctl (host.answers (.createVcpu cpu)) < 0 then
    some (.ends (.returned (-(host.answers (.createVcpu cpu)).errno)))
  else (host.construct cpu).ending.stop

/-- `VM::createVcpu`. -/
def createVcpu (host : Host) (vcpuNum : Int) (tables : Tables) :
    Tables × Stop :=
  if vcpuNum < 0 then (tables, .ends .threw)
  else
    let (after, stopped) :=
      runUntil (entrywise host.give host.stop) (List.range vcpuNum.toNat)
        tables
    (after, stopped.getD (.ends (.returned 0)))

/-! ## The loop over the entries -/

/-- What the loop makes of an entry it goes through. -/
def CpuidEntry.presented (entry : CpuidEntry) : CpuidEntry :=
  if entry.function = kvmCpuidSignature then entry.signed else entry

/-- The table after some iterations. -/
def KvmCpuid2.presented (table : KvmCpuid2) (count : Nat) : KvmCpuid2 :=
  { table with
    entries :=
      table.entries.mapIdx fun index entry =>
        if index < count then entry.presented else entry }

theorem presented_entry
    (table : KvmCpuid2) {index : Nat} (bound : index < kvmCpuidEntriesNum) :
    (table.presented index).entries[index] = table.entries[index] := by
  simp [KvmCpuid2.presented]

theorem presented_succ
    (table : KvmCpuid2) {index : Nat} (bound : index < kvmCpuidEntriesNum) :
    table.presented (index + 1) =
      { table with
        entries :=
          (table.presented index).entries.set index
            table.entries[index].presented } := by
  rw [KvmCpuid2.presented, KvmCpuid2.mk.injEq]
  refine ⟨rfl, ?_⟩
  ext other inside
  by_cases same : index = other
  · subst same
    simp
  · have order : other < index + 1 ↔ other < index := by omega
    simp only [KvmCpuid2.presented, Vector.getElem_mapIdx, order,
      Vector.getElem_set_ne _ _ same]

/-- An iteration looks at an entry which no earlier one changed. -/
theorem iteration_presented
    (table : KvmCpuid2) {index : Nat} (bound : index < kvmCpuidEntriesNum) :
    iteration index (table.presented index) =
      (table.presented (index + 1), none) := by
  rw [iteration, dif_pos bound, presented_entry table bound,
    presented_succ table bound, CpuidEntry.presented]
  by_cases signature : table.entries[index].function = kvmCpuidSignature
  · rw [if_neg (not_not_intro signature), if_pos signature]
    rfl
  · rw [if_pos signature, if_neg signature, ← presented_entry table bound,
      Vector.set_getElem_self]
    rfl

theorem overwrite_part
    (table : KvmCpuid2) {count : Nat} (bound : count ≤ kvmCpuidEntriesNum) :
    runUntil iteration (List.range count) table =
      (table.presented count, none) := by
  have start : table.presented 0 = table := by
    have same : (table.presented 0).entries = table.entries := by
      ext index inside
      simp [KvmCpuid2.presented]
    exact congrArg (fun entries => { table with entries }) same
  have along :=
    runUntil_range table.presented fun index before =>
      iteration_presented table (Nat.lt_of_lt_of_le before bound)
  rwa [start] at along

/-- A count which was not raised keeps the loop in the table. -/
theorem overwrite_of_le
    {table : KvmCpuid2} (bound : table.nent.toNat ≤ kvmCpuidEntriesNum) :
    overwrite table = (table.presented table.nent.toNat, none) :=
  overwrite_part table bound

/-- Any other one leads it out. -/
theorem overwrite_of_gt
    {table : KvmCpuid2} (raised : kvmCpuidEntriesNum < table.nent.toNat) :
    (overwrite table).2 = some {} := by
  rcases Nat.exists_eq_add_of_lt raised with ⟨more, count⟩
  have numbers :
      List.range table.nent.toNat =
        List.range kvmCpuidEntriesNum ++
          kvmCpuidEntriesNum ::
            ((List.range more).map Nat.succ).map (kvmCpuidEntriesNum + ·) := by
    rw [count, Nat.add_assoc, List.range_add, List.range_succ_eq_map]
    rfl
  have leaves (table : KvmCpuid2) :
      iteration kvmCpuidEntriesNum table = (table, some {}) := by
    rw [iteration, dif_neg (Nat.lt_irrefl _)]
  rw [overwrite, numbers, runUntil_append (overwrite_part table le_rfl),
    runUntil_cons_of_some (leaves _)]

/-- The constructor stays in the table exactly when the count was not raised. -/
theorem constructVcpu_undefined_iff
    (left : KvmCpuid2) (setCpuid2 mmapRun : SysResult) :
    (constructVcpu left setCpuid2 mmapRun).ending = .undefined ↔
      kvmCpuidEntriesNum < left.nent.toNat := by
  constructor
  · intro undefined
    by_contra within
    rw [constructVcpu, overwrite_of_le (Nat.le_of_not_lt within)] at undefined
    dsimp only at undefined
    split_ifs at undefined
  · intro raised
    have leaves := overwrite_of_gt raised
    rcases equal : overwrite left with ⟨table, stopped⟩
    rw [equal] at leaves
    cases leaves
    rw [constructVcpu, equal]

/-! ## The table as the guest sees it -/

/-- The entry which answers; KVM selects it by function, index and flags. -/
def KvmCpuid2.lookup
    (table : KvmCpuid2) (selects : UInt32 → UInt32 → UInt32 → Bool) :
    Option CpuidEntry :=
  (table.entries.toList.take table.nent.toNat).find? fun entry =>
    selects entry.function entry.index entry.flags

/-- The bytes of `ebx`, `ecx` and `edx`, which spell a vendor. -/
def CpuidEntry.vendor (entry : CpuidEntry) : List UInt8 :=
  bytesOfNat 4 entry.ebx.toNat ++ bytesOfNat 4 entry.ecx.toNat ++
    bytesOfNat 4 entry.edx.toNat

/-- The given table presents what is supported, under the signature of KVM. -/
structure Presents (supported given : KvmCpuid2) : Prop where
  absent : ∀ selects, supported.lookup selects = none →
    given.lookup selects = none
  others : ∀ selects entry, supported.lookup selects = some entry →
    entry.function ≠ kvmCpuidSignature → given.lookup selects = some entry
  signature : ∀ selects entry, supported.lookup selects = some entry →
    entry.function = kvmCpuidSignature →
      ∃ signed, given.lookup selects = some signed ∧
        signed.function = entry.function ∧ signed.index = entry.index ∧
        signed.flags = entry.flags ∧
        signed.eax = kvmCpuidFeatures ∧
        signed.vendor = "KVMKVMKVM\x00\x00\x00".toUTF8.toList

theorem CpuidEntry.presented_keys (entry : CpuidEntry) :
    entry.presented.function = entry.function ∧
      entry.presented.index = entry.index ∧
      entry.presented.flags = entry.flags := by
  rw [CpuidEntry.presented]
  split
  · exact ⟨rfl, rfl, rfl⟩
  · exact ⟨rfl, rfl, rfl⟩

theorem CpuidEntry.signed_vendor (entry : CpuidEntry) :
    entry.signed.vendor = "KVMKVMKVM\x00\x00\x00".toUTF8.toList := by
  calc
    entry.signed.vendor
    _ = bytesOfNat 4 kvmCpuidEbx.toNat ++ bytesOfNat 4 kvmCpuidEcx.toNat ++
          bytesOfNat 4 kvmCpuidEdx.toNat := rfl
    _ = "KVMKVMKVM\x00\x00\x00".toUTF8.toList := by decide +kernel

/-- The valid entries are overwritten, one by one. -/
theorem presented_valid (table : KvmCpuid2) :
    (table.presented table.nent.toNat).entries.toList.take
        table.nent.toNat =
      (table.entries.toList.take table.nent.toNat).map
        CpuidEntry.presented := by
  apply List.ext_getElem
  · simp [KvmCpuid2.presented]
  · intro index inside _
    have before : index < table.nent.toNat :=
      Nat.lt_of_lt_of_le inside (List.length_take_le _ _)
    simp [KvmCpuid2.presented, before]

theorem presented_lookup
    (table : KvmCpuid2) (selects : UInt32 → UInt32 → UInt32 → Bool) :
    (table.presented table.nent.toNat).lookup selects =
      (table.lookup selects).map CpuidEntry.presented := by
  have keys :
      (fun entry : CpuidEntry =>
          selects entry.function entry.index entry.flags) ∘
          CpuidEntry.presented =
        fun entry => selects entry.function entry.index entry.flags := by
    funext entry
    rcases entry.presented_keys with ⟨function, index, flags⟩
    simp only [Function.comp, function, index, flags]
  have count : (table.presented table.nent.toNat).nent = table.nent := rfl
  rw [KvmCpuid2.lookup, count, presented_valid, List.find?_map, keys]
  rfl

theorem presents (table : KvmCpuid2) :
    Presents table (table.presented table.nent.toNat) := by
  constructor
  · intro selects absent
    rw [presented_lookup, absent]
    rfl
  · intro selects entry found other
    rw [presented_lookup, found, Option.map_some, CpuidEntry.presented,
      if_neg other]
  · intro selects entry found signature
    refine ⟨entry.signed, ?_, rfl, rfl, rfl, rfl, entry.signed_vendor⟩
    rw [presented_lookup, found, Option.map_some, CpuidEntry.presented,
      if_pos signature]

/-- A table which was not filled has 100 entries, all of function 0. -/
theorem allocated_lookup (selects : UInt32 → UInt32 → UInt32 → Bool) :
    allocated.lookup selects =
      if selects 0 0 0 then some ⟨0, 0, 0, 0, 0, 0, 0⟩ else none := by
  have whole :
      allocated.entries.toList.take allocated.nent.toNat =
        List.replicate kvmCpuidEntriesNum ⟨0, 0, 0, 0, 0, 0, 0⟩ := by
    rw [allocated, Vector.toList_replicate]
    rfl
  rw [KvmCpuid2.lookup, whole, List.find?_replicate_of_length_pos (by decide)]

/-! ## All virtual CPUs -/

section Machine

variable {host : Host} {vcpuNum : Int}

/-- KVM does not raise the count: it writes no more entries than it has room for. -/
def Host.Within (host : Host) : Prop :=
  ∀ cpu, (host.supported cpu allocated).nent.toNat ≤ kvmCpuidEntriesNum

/-- The table which the constructor passes on. -/
def Host.table (host : Host) (cpu : Nat) : KvmCpuid2 :=
  (host.supported cpu allocated).presented
    (host.supported cpu allocated).nent.toNat

theorem construct_of_within (within : host.Within) (cpu : Nat) :
    host.construct cpu =
      { passed := some (host.table cpu)
        ending :=
          if kvmIoctl (host.answers (.setCpuid2 cpu)) < 0 then .threw
          else if (host.answers (.mmapRun cpu)).Succeeded then .constructed
          else .threw } := by
  rw [Host.construct, constructVcpu, overwrite_of_le (within cpu)]
  rfl

/-- An iteration stops the loop as the one which only issues the calls. -/
theorem stop_of_within (within : host.Within) (cpu : Nat) :
    host.stop cpu = (createOne host.answers cpu).2.map .ends := by
  rw [Host.stop, createOne, construct_of_within within]
  by_cases created : kvmIoctl (host.answers (.createVcpu cpu)) < 0
  · rw [if_pos created, if_pos created]
    rfl
  · rw [if_neg created, if_neg created]
    by_cases cpuid : kvmIoctl (host.answers (.setCpuid2 cpu)) < 0
    · simp [Vm.InitMachine.constructVcpu, cpuid, Construction.stop]
    · by_cases mapped : (host.answers (.mmapRun cpu)).Succeeded
      · simp [Vm.InitMachine.constructVcpu, cpuid, mapped, Construction.stop]
      · simp [Vm.InitMachine.constructVcpu, cpuid, mapped, Construction.stop]

theorem stop_eq_none_iff (within : host.Within) (cpu : Nat) :
    host.stop cpu = none ↔ ConstructsOne host.answers cpu := by
  rw [stop_of_within within, Option.map_eq_none_iff]
  constructor
  · intro passes
    by_contra fails
    rcases createOne_of_not_constructs fails with ⟨ending, stops, -⟩
    rw [stops] at passes
    cases passes
  · intro constructs
    rw [createOne_of_constructs constructs]

/-- The loop gets to a virtual CPU, which is created and takes its table. -/
structure Takes (host : Host) (vcpuNum : Int) (cpu : Nat) : Prop where
  bound : cpu < vcpuNum.toNat
  earlier : ∀ other, other < cpu → ConstructsOne host.answers other
  created : (host.answers (.createVcpu cpu)).Succeeded
  taken : (host.answers (.setCpuid2 cpu)).Succeeded

/-- What KVM holds for a virtual CPU before and after the loop. -/
structure CpuidOf
    (host : Host) (vcpuNum : Int) (cpu : Nat)
    (before after : Option KvmCpuid2) : Prop where
  presents :
    Takes host vcpuNum cpu →
      ∃ table, after = some table ∧
        Presents (host.supported cpu allocated) table
  /-- Where KVM left the table alone, the guest sees a leaf 0 of zeros. -/
  unanswered :
    Takes host vcpuNum cpu → host.supported cpu allocated = allocated →
      ∃ table, after = some table ∧
        ∀ selects, table.lookup selects =
          if selects 0 0 0 then some ⟨0, 0, 0, 0, 0, 0, 0⟩ else none
  kept : ¬ Takes host vcpuNum cpu → after = before

/-- A reached virtual CPU gets its table, whether or not the loop goes on. -/
theorem give_of_within
    (within : host.Within) (cpu : Nat) (before : Option KvmCpuid2) :
    host.give cpu before =
      if (host.answers (.createVcpu cpu)).Succeeded ∧
          (host.answers (.setCpuid2 cpu)).Succeeded then
        some (host.table cpu)
      else before := by
  rw [Host.give, construct_of_within within]
  by_cases created : (host.answers (.createVcpu cpu)).Succeeded
  · by_cases taken : (host.answers (.setCpuid2 cpu)).Succeeded
    · simp [kvmIoctl_neg_iff, created, taken, stored]
    · simp [kvmIoctl_neg_iff, created, taken, stored]
  · simp [kvmIoctl_neg_iff, created]

theorem createVcpu_apply
    (within : host.Within) (vcpuNum : Int) (tables : Tables) (cpu : Nat) :
    (Takes host vcpuNum cpu →
      (createVcpu host vcpuNum tables).1 cpu = some (host.table cpu)) ∧
    (¬ Takes host vcpuNum cpu →
      (createVcpu host vcpuNum tables).1 cpu = tables cpu) := by
  by_cases negative : vcpuNum < 0
  · rw [createVcpu, if_pos negative]
    refine ⟨?_, fun _ => rfl⟩
    rintro ⟨bound, -, -, -⟩
    omega
  · have isReached :
        cpu ∈ reached host.stop (List.range vcpuNum.toNat) ↔
          cpu < vcpuNum.toNat ∧
            ∀ other, other < cpu → ConstructsOne host.answers other := by
      rw [mem_reached_range]
      simp only [stop_eq_none_iff within]
    simp only [createVcpu, negative, if_false,
      runUntil_entrywise List.nodup_range, give_of_within within]
    constructor
    · rintro ⟨bound, earlier, created, taken⟩
      rw [if_pos (isReached.mpr ⟨bound, earlier⟩), if_pos ⟨created, taken⟩]
    · intro leaves
      split_ifs with member taken
      · rcases isReached.mp member with ⟨bound, earlier⟩
        exact absurd ⟨bound, earlier, taken.1, taken.2⟩ leaves
      · rfl
      · rfl

/-- The step ends as the one which only issues the calls. -/
theorem createVcpu_ending
    (within : host.Within) (vcpuNum : Int) (tables : Tables) :
    (createVcpu host vcpuNum tables).2 =
      .ends (Vm.InitMachine.createVcpu host.answers vcpuNum).ending := by
  rw [createVcpu, Vm.InitMachine.createVcpu]
  by_cases negative : vcpuNum < 0
  · rw [if_pos negative, if_pos negative]
  · have stops :
        host.stop = fun cpu => (createOne host.answers cpu).2.map .ends :=
      funext (stop_of_within within)
    have mapped :
        ((List.range vcpuNum.toNat).findSome? fun cpu =>
            (createOne host.answers cpu).2.map Stop.ends) =
          ((List.range vcpuNum.toNat).findSome? fun cpu =>
            (createOne host.answers cpu).2).map .ends :=
      List.map_findSome?.symm
    rw [if_neg negative, if_neg negative, forEachVcpu_eq]
    simp only [runUntil_entrywise List.nodup_range, stops, mapped]
    cases (List.range vcpuNum.toNat).findSome? fun cpu =>
        (createOne host.answers cpu).2 with
    | none => rfl
    | some ending => rfl

/--
For all answers of KVM which stay within the allocated table, every virtual CPU
that is created and takes a table presents what KVM supports, under the signature
of KVM.  A question which KVM does not answer leaves it without any leaf but 0,
and the step does not tell.
-/
theorem cpuid_of_machine
    (within : host.Within) (vcpuNum : Int) (tables : Tables) :
    (createVcpu host vcpuNum tables).2 =
        .ends (Vm.InitMachine.createVcpu host.answers vcpuNum).ending ∧
      ∀ cpu, CpuidOf host vcpuNum cpu (tables cpu)
        ((createVcpu host vcpuNum tables).1 cpu) := by
  refine ⟨createVcpu_ending within vcpuNum tables, ?_⟩
  intro cpu
  rcases createVcpu_apply within vcpuNum tables cpu with ⟨given, kept⟩
  refine ⟨?_, ?_, kept⟩
  · intro takes
    exact ⟨host.table cpu, given takes,
      CpuidTable.presents (host.supported cpu allocated)⟩
  · intro takes alone
    refine ⟨host.table cpu, given takes, ?_⟩
    intro selects
    have other : (⟨0, 0, 0, 0, 0, 0, 0⟩ : CpuidEntry).presented =
        ⟨0, 0, 0, 0, 0, 0, 0⟩ := rfl
    rw [Host.table, alone, presented_lookup, allocated_lookup]
    split_ifs
    · rw [Option.map_some, other]
    · rfl

end Machine

/-- A host which supports two leaves, the second one the signature. -/
def twoLeaves : Host where
  answers := fun _ => .ok 0
  supported := fun _ block =>
    { nent := 2
      entries :=
        (block.entries.set 0 ⟨0, 0, 0, 0x40000000, 1, 2, 3⟩ (by decide)).set 1
          ⟨kvmCpuidSignature, 0, 0, 0, 4, 5, 6⟩ (by decide) }

theorem twoLeaves_within : twoLeaves.Within := by
  intro cpu
  have count : (twoLeaves.supported cpu allocated).nent.toNat = 2 := rfl
  rw [count]
  decide

theorem cpuid_of_machine_two_leaves :
    ∃ table,
      (createVcpu twoLeaves 1 fun _ => none).1 0 = some table ∧
        Presents (twoLeaves.supported 0 allocated) table :=
  ((cpuid_of_machine twoLeaves_within 1 fun _ => none).2 0).presents
      ⟨by decide, fun _ before => absurd before (Nat.not_lt_zero _), trivial,
        trivial⟩

end Lvmm.Vcpu.CpuidTable
