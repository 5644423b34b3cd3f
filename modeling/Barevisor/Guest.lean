import Mathlib.Logic.Relation
import Barevisor.Vmcs
import Barevisor.Capabilities
import Barevisor.Epts

/-! # The guest — `intel/guest.rs`

    `VmxGuest` owns the register snapshot of its processor and the VMCS.
    `initialize` programs the control, guest-state and host-state fields from
    the capability MSRs and the live host state; `run` writes the snapshot's RIP,
    RSP and RFLAGS to the VMCS, enters the guest, reads them back after the VM
    exit and dispatches on the exit reason, handling INIT and SIPI itself.

    What the processor reads and owns is a `Platform`; what happens between VM
    entry and VM exit is a `Processor`, a function from the VMCS and snapshot at
    `run_vmx_guest` to the VMCS, snapshot and RFLAGS it hands back.  A panic
    (an `unwrap`, an `assert!`, an unhandled exit) is `none`. -/

namespace Vmx

open Capability Bitfield

/-! ## State -/

/-- `Registers`: the snapshot of the guest's general-purpose registers, RSP, RIP
    and RFLAGS. -/
structure Registers where
  rax : Nat
  rbx : Nat
  rcx : Nat
  rdx : Nat
  rsi : Nat
  rdi : Nat
  rbp : Nat
  r8 : Nat
  r9 : Nat
  r10 : Nat
  r11 : Nat
  r12 : Nat
  r13 : Nat
  r14 : Nat
  r15 : Nat
  rsp : Nat
  rip : Nat
  rflags : Nat
  deriving DecidableEq, Repr

/-- `VmxGuest`: the processor's index, the register snapshot and the VMCS. -/
structure VmxGuest where
  id : Nat
  registers : Registers
  vmcs : Vmcs

/-- One entry of the host's per-processor GDT and TSS override. -/
structure HostGdtAndTss where
  /-- `addr_of!(gdt[0])`. -/
  gdtBase : Nat
  tr : Option Nat
  /-- The address of the TSS. -/
  tss : Option Nat

/-- `SHARED_HOST_DATA`: the optional host page tables, GDTs and IDT. -/
structure SharedHostData where
  /-- `addr_of!(*host_pt)`: the address of the host's `PagingStructuresRaw`. -/
  pt : Option Nat
  gdts : Option (List HostGdtAndTss)
  /-- `host_idt.idtr().base`. -/
  idt : Option Nat

/-- What the guest's code reads outside its own state: the MSRs, the live control,
    segment and descriptor-table registers, `platform_ops::pa`, CPUID's extended
    model ID, and the shared data (the MSR bitmap page's address and the EPT's
    tables, whose PML4 `eptp()` names). -/
structure Platform where
  rdmsr : Nat → Nat
  /-- The CR0 register, every bit of it. -/
  cr0 : Nat
  cr3 : Nat
  /-- The CR4 register, every bit of it. -/
  cr4 : Nat
  selector : Segment → Nat
  lsl : Nat → Nat
  lar : Nat → Nat
  gdtrBase : Nat
  gdtrLimit : Nat
  idtrBase : Nat
  idtrLimit : Nat
  /-- `SegmentDescriptor::try_from_gdtr(&gdtr, tr())` and its base. -/
  trDescriptorBase : Option Nat
  pa : Nat → Nat
  extendedModelId : Option Nat
  msrBitmaps : Nat
  eptTablePa : Ept.EptTable → Nat
  /-- `Mtrr::new().find`: the memory type the MTRRs give a range, if one. -/
  mtrr : Ept.Range → Option Ept.MemoryType
  sharedHost : Option SharedHostData

/-! ## Constants -/

/-- `IA32_FS_BASE`. -/
def ia32FsBase : Nat := 0xC0000100
/-- `IA32_GS_BASE`. -/
def ia32GsBase : Nat := 0xC0000101
/-- `IA32_SYSENTER_CS`. -/
def ia32SysenterCs : Nat := 0x174
/-- `IA32_SYSENTER_ESP`. -/
def ia32SysenterEsp : Nat := 0x175
/-- `IA32_SYSENTER_EIP`. -/
def ia32SysenterEip : Nat := 0x176

/-- `ExitControls::HOST_ADDRESS_SPACE_SIZE`. -/
def hostAddressSpaceSize : Nat := 1 <<< 9
/-- `EntryControls::IA32E_MODE_GUEST`. -/
def ia32eModeGuest : Nat := 1 <<< 9
/-- `PrimaryControls::USE_MSR_BITMAPS`. -/
def useMsrBitmaps : Nat := 1 <<< 28
/-- `PrimaryControls::SECONDARY_CONTROLS`. -/
def secondaryControls : Nat := 1 <<< 31
/-- `SecondaryControls::ENABLE_EPT`. -/
def enableEpt : Nat := 1 <<< 1
/-- `SecondaryControls::ENABLE_RDTSCP`. -/
def enableRdtscp : Nat := 1 <<< 3
/-- `SecondaryControls::UNRESTRICTED_GUEST`. -/
def unrestrictedGuest : Nat := 1 <<< 7
/-- `SecondaryControls::ENABLE_INVPCID`. -/
def enableInvpcid : Nat := 1 <<< 12
/-- `SecondaryControls::ENABLE_XSAVES_XRSTORS`. -/
def enableXsavesXrstors : Nat := 1 <<< 20

/-- `RFlags::FLAGS_A1`: the always-one bit 1. -/
def flagsA1 : Nat := 0x2

/-- `GuestActivityState::Active`. -/
def activityActive : Nat := 0
/-- `GuestActivityState::WaitForSipi`. -/
def activityWaitForSipi : Nat := 3

/-- `!x` on a `u64`. -/
def u64Not (x : Nat) : Nat := x ^^^ (2 ^ 64 - 1)

/-- `Cr0::all()`: the eleven CR0 flags the `x86` crate knows. -/
def cr0All : Nat := 0xE005003F

/-- `Cr4::all()`: the CR4 flags the `x86` crate knows, bits 14:0, 18:16 and 22:20. -/
def cr4All : Nat := 0x777FFF

/-- `cr0()`: `Cr0::from_bits_truncate` of the register, without the bits `Cr0` does
    not name. -/
def Platform.readCr0 (p : Platform) : Nat := p.cr0 &&& cr0All

/-- `cr4()`: `Cr4::from_bits_truncate` of the register, without the bits `Cr4` does
    not name. -/
def Platform.readCr4 (p : Platform) : Nat := p.cr4 &&& cr4All

/-- `SHARED_GUEST_DATA`, built on its first use: a zeroed `Epts` filled by
    `build_identity` (the `build_identify` the initializer names), which panics when
    an MTRR lookup fails; the zeroed MSR bitmap page needs no work. -/
def sharedGuestData (p : Platform) : Option Ept.Epts := Ept.buildIdentity p.mtrr p.eptTablePa Ept.Epts.zeroed

/-! ## `initialize` -/

/-- `initialize_control`: the five capability-checked control words, then, after the
    first use of `SHARED_GUEST_DATA`, the MSR bitmap's physical address and the EPTP. -/
def initializeControl (p : Platform) (v : Vmcs) : Option Vmcs := do
  let exitControls ← adjustVmxControl p.rdmsr .vmExit hostAddressSpaceSize
  let v := v.write Control.vmexitControls exitControls
  let entryControls ← adjustVmxControl p.rdmsr .vmEntry ia32eModeGuest
  let v := v.write Control.vmentryControls entryControls
  let pinBased ← adjustVmxControl p.rdmsr .pinBased 0
  let v := v.write Control.pinbasedExecControls pinBased
  let primary ← adjustVmxControl p.rdmsr .processorBased (useMsrBitmaps ||| secondaryControls)
  let v := v.write Control.primaryProcbasedExecControls primary
  let secondary ← adjustVmxControl p.rdmsr .processorBased2
    (enableEpt ||| unrestrictedGuest ||| enableRdtscp ||| enableInvpcid ||| enableXsavesXrstors)
  let v := v.write Control.secondaryProcbasedExecControls secondary
  let _ ← sharedGuestData p
  let v := v.write Control.msrBitmapsAddrFull (p.pa p.msrBitmaps)
  pure (v.write Control.eptpFull (Ept.eptp p.eptTablePa))

/-- `VMX_SEGMENT_ACCESS_RIGHTS_UNUSABLE_FLAG`. -/
def accessRightsUnusableFlag : Nat := 1 <<< 16

/-- `access_rights(access_rights)`: from LAR's format to the VMCS's. -/
def accessRights (ar : Nat) : Nat :=
  if ar = 0 then accessRightsUnusableFlag else (ar >>> 8) &&& 0b1111000011111111

/-- `initialize_guest`: the guest-state fields from the live host state. -/
def initializeGuest (p : Platform) (registers : Registers) (v : Vmcs) : Option Vmcs := do
  let trBase ← p.trDescriptorBase
  pure <| v.writeAll [
    (Guest.selector .es, p.selector .es), (Guest.selector .cs, p.selector .cs),
    (Guest.selector .ss, p.selector .ss), (Guest.selector .ds, p.selector .ds),
    (Guest.selector .fs, p.selector .fs), (Guest.selector .gs, p.selector .gs),
    (Guest.selector .tr, p.selector .tr), (Guest.selector .ldtr, p.selector .ldtr),
    (Guest.limit .es, p.lsl (p.selector .es)), (Guest.limit .cs, p.lsl (p.selector .cs)),
    (Guest.limit .ss, p.lsl (p.selector .ss)), (Guest.limit .ds, p.lsl (p.selector .ds)),
    (Guest.limit .fs, p.lsl (p.selector .fs)), (Guest.limit .gs, p.lsl (p.selector .gs)),
    (Guest.limit .tr, p.lsl (p.selector .tr)),
    (Guest.accessRights .es, accessRights (p.lar (p.selector .es))),
    (Guest.accessRights .cs, accessRights (p.lar (p.selector .cs))),
    (Guest.accessRights .ss, accessRights (p.lar (p.selector .ss))),
    (Guest.accessRights .ds, accessRights (p.lar (p.selector .ds))),
    (Guest.accessRights .fs, accessRights (p.lar (p.selector .fs))),
    (Guest.accessRights .gs, accessRights (p.lar (p.selector .gs))),
    (Guest.accessRights .tr, accessRights (p.lar (p.selector .tr))),
    (Guest.accessRights .ldtr, accessRights 0),
    (Guest.base .fs, p.rdmsr ia32FsBase), (Guest.base .gs, p.rdmsr ia32GsBase),
    (Guest.base .tr, trBase),
    (Guest.gdtrBase, p.gdtrBase), (Guest.gdtrLimit, p.gdtrLimit),
    (Guest.idtrBase, p.idtrBase), (Guest.idtrLimit, p.idtrLimit),
    (Guest.ia32SysenterCs, p.rdmsr ia32SysenterCs), (Guest.ia32SysenterEip, p.rdmsr ia32SysenterEip),
    (Guest.ia32SysenterEsp, p.rdmsr ia32SysenterEsp),
    (Guest.linkPtrFull, 2 ^ 64 - 1),
    (Guest.cr0, p.readCr0), (Guest.cr3, p.cr3), (Guest.cr4, p.readCr4),
    (Guest.rsp, registers.rsp), (Guest.rip, registers.rip), (Guest.rflags, registers.rflags)]

/-- The host's GDT base, TR selector and TSS base: the override of processor `id`,
    else the live GDT and TR. -/
def hostGdtAndTr (p : Platform) (id : Nat) : Option (List HostGdtAndTss) → Option (Nat × Nat × Nat)
  | some gdts => do
    let entry ← gdts.get? id
    let tr ← entry.tr
    let tss ← entry.tss
    pure (entry.gdtBase, tr, tss)
  | none => do
    let tssBase ← p.trDescriptorBase
    pure (p.gdtrBase, p.selector .tr, tssBase)

/-- `initialize_host`: the host-state fields, with the overrides of
    `SHARED_HOST_DATA` where present. -/
def initializeHost (p : Platform) (id : Nat) (v : Vmcs) : Option Vmcs := do
  let sharedHost ← p.sharedHost
  let cr3 := match sharedHost.pt with
    | some hostPt => hostPt
    | none => p.cr3
  let (gdtBase, tr, tssBase) ← hostGdtAndTr p id sharedHost.gdts
  let idtBase := match sharedHost.idt with
    | some idt => idt
    | none => p.idtrBase
  pure <| v.writeAll [
    (Host.esSelector, p.selector .es &&& 0xFFF8), (Host.csSelector, p.selector .cs &&& 0xFFF8),
    (Host.ssSelector, p.selector .ss &&& 0xFFF8), (Host.dsSelector, p.selector .ds &&& 0xFFF8),
    (Host.fsSelector, p.selector .fs &&& 0xFFF8), (Host.gsSelector, p.selector .gs &&& 0xFFF8),
    (Host.trSelector, tr &&& 0xFFF8),
    (Host.cr0, p.readCr0), (Host.cr3, cr3), (Host.cr4, p.readCr4),
    (Host.fsBase, p.rdmsr ia32FsBase), (Host.gsBase, p.rdmsr ia32GsBase),
    (Host.trBase, tssBase), (Host.gdtrBase, gdtBase), (Host.idtrBase, idtBase)]

/-- `initialize(registers)`: `initialize_control`, `initialize_guest` and
    `initialize_host`, after taking the snapshot. -/
def initializeAll (p : Platform) (registers : Registers) (g : VmxGuest) : Option VmxGuest := do
  let v ← initializeControl p g.vmcs
  let v ← initializeGuest p registers v
  let v ← initializeHost p g.id v
  pure { g with registers := registers, vmcs := v }

/-! ## The INIT and SIPI handlers -/

/-- `Cr0::CR0_PROTECTED_MODE`. -/
def cr0ProtectedMode : Nat := 1
/-- `Cr0::CR0_EXTENSION_TYPE`. -/
def cr0ExtensionType : Nat := 1 <<< 4
/-- `Cr0::CR0_ENABLE_PAGING`. -/
def cr0EnablePaging : Nat := 1 <<< 31
/-- `!flags` on a `Cr0`: the `bitflags` complement, truncated to `Cr0::all()`. -/
def cr0Not (x : Nat) : Nat := u64Not x &&& cr0All

/-- `get_adjusted_guest_cr0(cr0)`: the VMX-fixed bits, except that with unrestricted
    guest on (read back from the VMCS) PE and PG are those of `cr0`. -/
def getAdjustedGuestCr0 (rdmsr : Nat → Nat) (v : Vmcs) (cr0 : Nat) : Nat :=
  let newCr0 := getAdjustedCr0 rdmsr cr0
  let secondaryProcBasedCtls2 := v.read Control.secondaryProcbasedExecControls
  let unrestricted := (secondaryProcBasedCtls2 % 2 ^ 32) &&& unrestrictedGuest != 0
  if unrestricted then
    let newCr0 := newCr0 &&& cr0Not (cr0ProtectedMode ||| cr0EnablePaging)
    newCr0 ||| (cr0 &&& (cr0ProtectedMode ||| cr0EnablePaging))
  else newCr0

/-- `get_adjusted_guest_cr4(cr4)`. -/
def getAdjustedGuestCr4 (rdmsr : Nat → Nat) (cr4 : Nat) : Nat := getAdjustedCr4 rdmsr cr4

/-- The `VmxSegmentAccessRights` of the INIT handler's CS: type execute/read/accessed,
    a code or data descriptor, present. -/
def initCodeAccessRights : Nat := setBit (setBit (setBitRange 0 0 4 11) 4 true) 7 true
/-- Then type read/write/accessed, for SS, DS, ES, FS and GS. -/
def initDataAccessRights : Nat := setBitRange initCodeAccessRights 0 4 3
/-- Then an LDT system descriptor, for LDTR. -/
def initLdtrAccessRights : Nat := setBit (setBitRange initDataAccessRights 0 4 2) 4 false
/-- Then a busy TSS, for TR. -/
def initTrAccessRights : Nat := setBitRange initLdtrAccessRights 0 4 11

/-- The writes of `handle_init_signal` before guest CR0. -/
def initWritesBeforeCr0 : List (Nat × Nat) :=
  [(Guest.rflags, flagsA1), (Guest.rip, 0xfff0), (Guest.cr3, 0),
    (Control.cr0ReadShadow, 0), (Control.cr4ReadShadow, 0)]

/-- The writes of `handle_init_signal` from guest CR4 to `GS_BASE`. -/
def initWritesAfterCr0 (rdmsr : Nat → Nat) : List (Nat × Nat) :=
  [(Guest.cr4, getAdjustedGuestCr4 rdmsr 0),
    (Guest.selector .cs, 0xf000), (Guest.base .cs, 0xffff0000), (Guest.limit .cs, 0xffff),
    (Guest.accessRights .cs, initCodeAccessRights),
    (Guest.selector .ss, 0), (Guest.base .ss, 0), (Guest.limit .ss, 0xffff),
    (Guest.accessRights .ss, initDataAccessRights),
    (Guest.selector .ds, 0), (Guest.base .ds, 0), (Guest.limit .ds, 0xffff),
    (Guest.accessRights .ds, initDataAccessRights),
    (Guest.selector .es, 0), (Guest.base .es, 0), (Guest.limit .es, 0xffff),
    (Guest.accessRights .es, initDataAccessRights),
    (Guest.selector .fs, 0), (Guest.base .fs, 0), (Guest.limit .fs, 0xffff),
    (Guest.accessRights .fs, initDataAccessRights),
    (Guest.selector .gs, 0), (Guest.base .gs, 0), (Guest.limit .gs, 0xffff),
    (Guest.accessRights .gs, initDataAccessRights),
    (Guest.rsp, 0),
    (Guest.gdtrBase, 0), (Guest.gdtrLimit, 0xffff), (Guest.idtrBase, 0), (Guest.idtrLimit, 0xffff),
    (Guest.selector .ldtr, 0), (Guest.base .ldtr, 0), (Guest.limit .ldtr, 0xffff),
    (Guest.accessRights .ldtr, initLdtrAccessRights),
    (Guest.selector .tr, 0), (Guest.base .tr, 0), (Guest.limit .tr, 0xffff),
    (Guest.accessRights .tr, initTrAccessRights),
    (Guest.ia32EferFull, 0), (Guest.base .fs, 0), (Guest.base .gs, 0)]

/-- The snapshot after INIT: RFLAGS `0x2`, RIP `0xfff0`, RDX the processor signature,
    every other register zero. -/
def initRegisters (extendedModelId : Nat) : Registers :=
  ⟨0, 0, 0, 0x600 ||| (extendedModelId <<< 16), 0, 0, 0, 0, 0, 0, 0, 0, 0, 0, 0, 0, 0xfff0, flagsA1⟩

/-- `handle_init_signal`: the architectural state after INIT, in wait-for-SIPI.
    CR2 and the debug registers it clears are the processor's own, not the VMCS's. -/
def handleInitSignal (p : Platform) (g : VmxGuest) : Option VmxGuest := do
  let extendedModelId ← p.extendedModelId
  let v := g.vmcs.writeAll initWritesBeforeCr0
  let v := v.write Guest.cr0 (getAdjustedGuestCr0 p.rdmsr v cr0ExtensionType)
  let v := v.writeAll (initWritesAfterCr0 p.rdmsr)
  let vmentryControls := v.read Control.vmentryControls &&& u64Not ia32eModeGuest
  let v := v.write Control.vmentryControls vmentryControls
  let v := v.write Guest.activityState activityWaitForSipi
  pure { g with registers := initRegisters extendedModelId, vmcs := v }

/-- `handle_sipi_signal`: CS from the SIPI vector, RIP 0, active. -/
def handleSipiSignal (g : VmxGuest) : VmxGuest :=
  let vector := g.vmcs.read Ro.exitQualification
  let v := g.vmcs.writeAll [(Guest.selector .cs, (vector <<< 8) % 2 ^ 64),
    (Guest.base .cs, (vector <<< 12) % 2 ^ 64), (Guest.rip, 0), (Guest.activityState, activityActive)]
  { g with registers := { g.registers with rip := 0 }, vmcs := v }

/-! ## `run` -/

/-- `VmExitReason`, with `next_rip` for the instruction exits. -/
inductive VmExitReason
  | initSignal
  | startupIpi
  | cpuid (nextRip : Nat)
  | rdmsr (nextRip : Nat)
  | wrmsr (nextRip : Nat)
  | xSetBv (nextRip : Nat)
  deriving DecidableEq, Repr

/-- What `run_vmx_guest` hands back: the VMCS as the VM exit left it, the snapshot
    with the guest's registers saved, and RFLAGS after the VM-entry instruction. -/
structure GuestExit where
  vmcs : Vmcs
  registers : Registers
  flags : Nat

/-- The processor from `run_vmx_guest` to its return, given the VMCS and snapshot. -/
abbrev Processor := Vmcs → Registers → GuestExit

/-- `vmx_succeed(flags)`: VM entry failed if ZF (VMfailValid) or CF (VMfailInvalid). -/
def vmxSucceed (flags : Nat) : Bool := !flags.testBit 6 && !flags.testBit 0

/-- The VMCS at VM entry: the snapshot's RIP, RSP and RFLAGS in the guest fields. -/
def enterVmcs (g : VmxGuest) : Vmcs :=
  g.vmcs.writeAll [(Guest.rip, g.registers.rip), (Guest.rsp, g.registers.rsp),
    (Guest.rflags, g.registers.rflags)]

/-- The state after the VM exit: the VMCS the processor left, the saved snapshot
    with RIP, RSP and RFLAGS read back from the VMCS. -/
def afterExit (g : VmxGuest) (exit : GuestExit) : VmxGuest :=
  let v := exit.vmcs
  let registers : Registers :=
    { exit.registers with rip := v.read Guest.rip, rsp := v.read Guest.rsp, rflags := v.read Guest.rflags }
  { g with registers := registers, vmcs := v }

/-- `self.registers.rip + vmread(VMEXIT_INSTRUCTION_LEN)`, a `u64` addition, as a
    build with overflow checks runs it: it panics on overflow.  A release build
    wraps instead, to the sum minus 2^64. -/
def nextRip (g : VmxGuest) : Option Nat :=
  let r := g.registers.rip + g.vmcs.read Ro.vmexitInstructionLen
  if r < 2 ^ 64 then some r else none

/-- The `match` on `vmread(EXIT_REASON) as u16`. -/
def dispatch (p : Platform) (g : VmxGuest) : Nat → Option (VmxGuest × VmExitReason)
  | 3 => (handleInitSignal p g).map fun g => (g, .initSignal)
  | 4 => some (handleSipiSignal g, .startupIpi)
  | 10 => (nextRip g).map fun r => (g, .cpuid r)
  | 31 => (nextRip g).map fun r => (g, .rdmsr r)
  | 32 => (nextRip g).map fun r => (g, .wrmsr r)
  | 55 => (nextRip g).map fun r => (g, .xSetBv r)
  | _ => none

/-- `run()`: enter the guest, and after the VM exit read RIP, RSP and RFLAGS back
    and dispatch on the exit reason. -/
def run (p : Platform) (cpu : Processor) (g : VmxGuest) : Option (VmxGuest × VmExitReason) :=
  let exit := cpu (enterVmcs g) g.registers
  if vmxSucceed exit.flags then
    let g := afterExit g exit
    dispatch p g (g.vmcs.read Ro.exitReason % 2 ^ 16)
  else none

end Vmx
