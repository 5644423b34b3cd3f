import Barevisor.Enable

/-! # VMX operation — VMXON, VMCLEAR, VMPTRLD and the current VMCS

    Every `vmread` and `vmwrite` of `guest.rs` acts on the processor's *current*
    VMCS and unwraps its result; the rest of this development reads and writes
    that VMCS as a map.  For the map to be the truth the processor must be in VMX
    operation (`Vmx::enable` ends in VMXON), and the guest's VMCS must be clear
    (`Vmcs::new` runs VMCLEAR) and current (`activate` runs VMPTRLD), as the
    comments of `VmxGuest::new`, `activate` and `Vmxon::default` explain.

    The instructions are those of SDM 31.3, with the checks that can fail for a
    64-bit kernel at CPL 0 outside SMX (RFLAGS.VM, IA32_EFER.LMA with CS.L, A20M
    and SMX cannot): #UD for CR0.PE or CR4.VMXE clear or outside VMX operation,
    #GP(0) for CR0 or CR4 outside what the VMX-fixed MSRs allow or an
    IA32_FEATURE_CONTROL that does not allow VMXON outside SMX, and `VMfail` with
    the error numbers of SDM 31.4.  The bring-up faults exactly when the firmware
    locked IA32_FEATURE_CONTROL without VMXON outside SMX; otherwise it leaves the
    processor in VMX root operation with the guest's region current and clear,
    where every VMREAD and every run of VMWRITEs to writable fields succeeds and
    does what the map model does, and where a second `enable` fails
    (`bringUp_eq`). -/

namespace Vmx

open Capability

/-! ## The processor -/

/-- `IA32_VMX_MISC`; bit 29 allows VMWRITE to the exit-information fields. -/
def ia32VmxMisc : Nat := 0x485

/-- How a VMX instruction ends other than in success (SDM 31.2): a fault (#UD or
    #GP(0)) before it does anything, VMfailInvalid (CF), or VMfailValid (ZF) with
    the VM-instruction error number of SDM 31.4. -/
inductive VmxFailure
  | fault
  | failInvalid
  | failValid (error : Nat)
  deriving DecidableEq, Repr

/-- The processor as the VMX instructions see it. -/
structure VmxCpu where
  /-- CR0, CR4, the MSRs and `pa`, as the code reads them. -/
  platform : Platform
  /-- Physical memory, as the 32-bit word each region starts with. -/
  mem : Nat → Nat
  /-- MAXPHYADDR. -/
  physAddrWidth : Nat
  /-- The VMCS components this processor implements. -/
  supports : Nat → Bool
  /-- The VMXON pointer; `none` outside VMX operation. -/
  vmxonPointer : Option Nat
  /-- The current-VMCS pointer; `none` is `FFFFFFFF_FFFFFFFFH`. -/
  current : Option Nat
  /-- The VMCS data of each region. -/
  vmcs : Nat → Vmcs
  /-- The launch state of each region's VMCS; `false` is "clear". -/
  launched : Nat → Bool

/-- An address VMXON, VMCLEAR and VMPTRLD accept: 4 KiB-aligned, within MAXPHYADDR. -/
def RegionAddr (width addr : Nat) : Prop := addr % 4096 = 0 ∧ addr < 2 ^ width

/-- Whether a region address is valid is decided by computing it. -/
instance (width addr : Nat) : Decidable (RegionAddr width addr) := inferInstanceAs (Decidable (_ ∧ _))

/-- The revision check of VMXON and VMPTRLD: bits 30:0 of the region's first word
    are those of IA32_VMX_BASIC, and bit 31 (a shadow VMCS) is clear. -/
def RevisionOk (rdmsr : Nat → Nat) (rev : Nat) : Prop :=
  rev % 2 ^ 31 = rdmsr ia32VmxBasic % 2 ^ 31 ∧ rev.testBit 31 = false

/-- The revision check is decided by computing it. -/
instance (rdmsr : Nat → Nat) (rev : Nat) : Decidable (RevisionOk rdmsr rev) :=
  inferInstanceAs (Decidable (_ ∧ _))

/-- CR0 and CR4 as VMX operation supports them (SDM 24.8): every FIXED0 bit set and
    no bit outside FIXED1. -/
def CrSupported (rdmsr : Nat → Nat) (cr0 cr4 : Nat) : Prop :=
  BitsLe (rdmsr ia32VmxCr0Fixed0) cr0 ∧ BitsLe cr0 (rdmsr ia32VmxCr0Fixed1) ∧
    BitsLe (rdmsr ia32VmxCr4Fixed0) cr4 ∧ BitsLe cr4 (rdmsr ia32VmxCr4Fixed1)

/-- Whether CR0 and CR4 are supported is decided by computing it. -/
instance (rdmsr : Nat → Nat) (cr0 cr4 : Nat) : Decidable (CrSupported rdmsr cr0 cr4) :=
  inferInstanceAs (Decidable (_ ∧ _ ∧ _ ∧ _))

/-- `VMfail(error)`: VMfailValid when a current VMCS can hold the error number,
    else VMfailInvalid. -/
def VmxCpu.vmFail (cpu : VmxCpu) (error : Nat) : VmxFailure :=
  if cpu.current.isSome then .failValid error else .failInvalid

/-! ## The instructions (SDM 31.3) -/

/-- VMXON with the region at physical address `addr`. -/
def VmxCpu.execVmxon (cpu : VmxCpu) (addr : Nat) : Except VmxFailure VmxCpu :=
  let p := cpu.platform
  let featureControl := p.rdmsr ia32FeatureControl
  if p.cr0.testBit 0 = false ∨ p.cr4.testBit 13 = false then .error .fault
  else if cpu.vmxonPointer.isSome then .error (cpu.vmFail 15)
  else if ¬CrSupported p.rdmsr p.cr0 p.cr4 ∨ featureControl.testBit 0 = false ∨
      featureControl.testBit 2 = false then .error .fault
  else if ¬RegionAddr cpu.physAddrWidth addr ∨ ¬RevisionOk p.rdmsr (cpu.mem addr) then .error .failInvalid
  else .ok { cpu with vmxonPointer := some addr, current := none }

/-- VMCLEAR of the region at physical address `addr`: its VMCS becomes clear and,
    if it was current, there is no current VMCS any more. -/
def VmxCpu.execVmclear (cpu : VmxCpu) (addr : Nat) : Except VmxFailure VmxCpu :=
  match cpu.vmxonPointer with
  | none => .error .fault
  | some vmxonPointer =>
    if ¬RegionAddr cpu.physAddrWidth addr then .error (cpu.vmFail 2)
    else if addr = vmxonPointer then .error (cpu.vmFail 3)
    else .ok { cpu with
      launched := Function.update cpu.launched addr false
      current := if cpu.current = some addr then none else cpu.current }

/-- VMPTRLD of the region at physical address `addr`: it becomes the current VMCS. -/
def VmxCpu.execVmptrld (cpu : VmxCpu) (addr : Nat) : Except VmxFailure VmxCpu :=
  match cpu.vmxonPointer with
  | none => .error .fault
  | some vmxonPointer =>
    if ¬RegionAddr cpu.physAddrWidth addr then .error (cpu.vmFail 9)
    else if addr = vmxonPointer then .error (cpu.vmFail 10)
    else if ¬RevisionOk cpu.platform.rdmsr (cpu.mem addr) then .error (cpu.vmFail 11)
    else .ok { cpu with current := some addr }

/-! ## The wrappers of `guest.rs` and `vmx.rs` -/

/-- `vmxon(vmxon_region)`: VMXON on the region's physical address. -/
def vmxon (cpu : VmxCpu) (va : Nat) : Except VmxFailure VmxCpu := cpu.execVmxon (cpu.platform.pa va)

/-- `vmclear(vmcs_region)`. -/
def vmclear (cpu : VmxCpu) (va : Nat) : Except VmxFailure VmxCpu := cpu.execVmclear (cpu.platform.pa va)

/-- `vmptrld(vmcs_region)`. -/
def vmptrld (cpu : VmxCpu) (va : Nat) : Except VmxFailure VmxCpu := cpu.execVmptrld (cpu.platform.pa va)

/-- `vmread(encoding)`: VMREAD of the current VMCS. -/
def vmread (cpu : VmxCpu) (encoding : Nat) : Except VmxFailure Nat :=
  match cpu.vmxonPointer, cpu.current with
  | none, _ => .error .fault
  | some _, none => .error .failInvalid
  | some _, some a => if cpu.supports encoding then .ok ((cpu.vmcs a).read encoding) else .error (.failValid 12)

/-- `vmwrite(encoding, value)`: VMWRITE to the current VMCS, refused for an
    exit-information field unless IA32_VMX_MISC bit 29 allows it. -/
def vmwrite (cpu : VmxCpu) (encoding value : Nat) : Except VmxFailure VmxCpu :=
  match cpu.vmxonPointer, cpu.current with
  | none, _ => .error .fault
  | some _, none => .error .failInvalid
  | some _, some a =>
    if !cpu.supports encoding then .error (.failValid 12)
    else if fieldType encoding = 1 ∧ (cpu.platform.rdmsr ia32VmxMisc).testBit 29 = false then
      .error (.failValid 13)
    else .ok { cpu with vmcs := Function.update cpu.vmcs a ((cpu.vmcs a).write encoding value) }

/-- A run of `vmwrite`s, in order; the first that fails panics. -/
def vmwriteAll (cpu : VmxCpu) (ws : List (Nat × Nat)) : Except VmxFailure VmxCpu :=
  ws.foldlM (fun cpu w => vmwrite cpu w.1 w.2) cpu

/-- `rdmsr(IA32_VMX_BASIC) as _` into the `u32` `revision_id` of a region. -/
def regionRevisionId (rdmsr : Nat → Nat) : Nat := rdmsr ia32VmxBasic % 2 ^ 32

/-- A zeroed region at `va` with its `revision_id` written. -/
def VmxCpu.writeRevisionId (cpu : VmxCpu) (va : Nat) : VmxCpu :=
  { cpu with mem := Function.update cpu.mem (cpu.platform.pa va) (regionRevisionId cpu.platform.rdmsr) }

/-- `Vmxon::default()`, the VMXON region `Vmx::default()` allocates at `va`. -/
def vmxonDefault (cpu : VmxCpu) (va : Nat) : VmxCpu := cpu.writeRevisionId va

/-- `Extension::enable` for `Vmx`: CR0, CR4 and IA32_FEATURE_CONTROL as `enable`
    leaves them, then VMXON on the region at `va`. -/
def enableVmx (cpu : VmxCpu) (va : Nat) : Except VmxFailure VmxCpu :=
  vmxon { cpu with platform := enable cpu.platform } va

/-- `Vmcs::new()`: a zeroed region at `va` with its revision identifier, then VMCLEAR. -/
def vmcsNew (cpu : VmxCpu) (va : Nat) : Except VmxFailure VmxCpu := vmclear (cpu.writeRevisionId va) va

/-- `Guest::activate`: VMPTRLD of the guest's VMCS. -/
def activate (cpu : VmxCpu) (va : Nat) : Except VmxFailure VmxCpu := vmptrld cpu va

/-- `Vmx::default()`, `enable()`, `VmxGuest::new()` and `activate()` on one
    processor, in the order the comments of `new` and `activate` require. -/
def bringUp (cpu : VmxCpu) (vmxonVa vmcsVa : Nat) : Except VmxFailure VmxCpu := do
  let cpu ← enableVmx (vmxonDefault cpu vmxonVa) vmxonVa
  let cpu ← vmcsNew cpu vmcsVa
  activate cpu vmcsVa

/-! ## What `enable` leaves for VMXON -/

/-- The adjustment sets every FIXED0 bit. -/
theorem adjustFixed_testBit_of_fixed0 {fixed0 fixed1 cr i : Nat} (h : fixed0.testBit i = true) :
    (adjustFixed fixed0 fixed1 cr).testBit i = true := by
  simp [adjustFixed, Nat.testBit_or, h]

/-- A locked IA32_FEATURE_CONTROL is left as it is. -/
theorem updateFeatureControlMsr_of_locked {rdmsr : Nat → Nat} (h : (rdmsr ia32FeatureControl).testBit 0 = true) :
    updateFeatureControlMsr rdmsr = rdmsr := by
  unfold updateFeatureControlMsr
  rw [if_neg]
  rw [ia32FeatureControlLockBitFlag, Nat.shiftLeft_zero, Nat.and_one_is_mod]
  simp only [Nat.testBit_zero, decide_eq_true_eq] at h
  omega

/-- After `enable`, IA32_FEATURE_CONTROL is locked, and VMXON outside SMX is off
    exactly when the firmware had locked it off. -/
theorem enable_featureControl (p : Platform) :
    ((enable p).rdmsr ia32FeatureControl).testBit 0 = true ∧
      (((enable p).rdmsr ia32FeatureControl).testBit 2 = false ↔
        (p.rdmsr ia32FeatureControl).testBit 0 = true ∧ (p.rdmsr ia32FeatureControl).testBit 2 = false) := by
  obtain ⟨hl, hv, -⟩ := updateFeatureControlMsr_spec p.rdmsr
  refine ⟨hl, ?_⟩
  cases h : (p.rdmsr ia32FeatureControl).testBit 0
  · simp [enable, hv h]
  · simp [enable, updateFeatureControlMsr_of_locked h]

/-- `enable` leaves the address translation. -/
@[simp] theorem enable_pa (p : Platform) : (enable p).pa = p.pa := rfl

/-- `enable` leaves IA32_VMX_BASIC. -/
theorem enable_rdmsr_basic (p : Platform) : (enable p).rdmsr ia32VmxBasic = p.rdmsr ia32VmxBasic :=
  (updateFeatureControlMsr_spec p.rdmsr).2.2 _ (by decide)

/-- With CR0.PE and CR4.VMXE fixed to 1, `enable` sets them, and the CR0 and CR4 it
    writes are ones VMX operation supports. -/
theorem enable_crSupported {p : Platform}
    (h0 : BitsLe (p.rdmsr ia32VmxCr0Fixed0) (p.rdmsr ia32VmxCr0Fixed1))
    (h4 : BitsLe (p.rdmsr ia32VmxCr4Fixed0) (p.rdmsr ia32VmxCr4Fixed1))
    (hpe : (p.rdmsr ia32VmxCr0Fixed0).testBit 0 = true) (hvmxe : (p.rdmsr ia32VmxCr4Fixed0).testBit 13 = true) :
    (enable p).cr0.testBit 0 = true ∧ (enable p).cr4.testBit 13 = true ∧
      CrSupported (enable p).rdmsr (enable p).cr0 (enable p).cr4 := by
  have hf := fun i (hi : i ∈ [ia32VmxCr0Fixed0, ia32VmxCr0Fixed1, ia32VmxCr4Fixed0, ia32VmxCr4Fixed1]) =>
    enable_rdmsr_fixed (p := p) hi
  have k0 := adjustFixed_ok h0 p.readCr0
  have k4 := adjustFixed_ok h4 p.readCr4
  refine ⟨adjustFixed_testBit_of_fixed0 hpe, adjustFixed_testBit_of_fixed0 hvmxe, ?_⟩
  rw [CrSupported, hf _ (by decide), hf _ (by decide), hf _ (by decide), hf _ (by decide)]
  exact ⟨k0.fixed0_le, k0.le_fixed1, k4.fixed0_le, k4.le_fixed1⟩

/-- The revision identifier the code writes passes the revision check. -/
theorem regionRevisionId_ok {rdmsr : Nat → Nat} (h : (rdmsr ia32VmxBasic).testBit 31 = false) :
    RevisionOk rdmsr (regionRevisionId rdmsr) :=
  ⟨Nat.mod_mod_of_dvd _ (by decide), by rw [regionRevisionId, Nat.testBit_mod_two_pow, h]; rfl⟩

/-! ## One instruction at a time -/

section Steps

variable {cpu : VmxCpu} {va : Nat}

/-- `Vmx::default()` then `enable()` on a processor outside VMX operation: VMXON
    faults exactly when IA32_FEATURE_CONTROL was locked without VMXON outside SMX. -/
theorem enableVmx_vmxonDefault (hoff : cpu.vmxonPointer = none)
    (h0 : BitsLe (cpu.platform.rdmsr ia32VmxCr0Fixed0) (cpu.platform.rdmsr ia32VmxCr0Fixed1))
    (h4 : BitsLe (cpu.platform.rdmsr ia32VmxCr4Fixed0) (cpu.platform.rdmsr ia32VmxCr4Fixed1))
    (hpe : (cpu.platform.rdmsr ia32VmxCr0Fixed0).testBit 0 = true)
    (hvmxe : (cpu.platform.rdmsr ia32VmxCr4Fixed0).testBit 13 = true)
    (hrev : (cpu.platform.rdmsr ia32VmxBasic).testBit 31 = false)
    (hon : RegionAddr cpu.physAddrWidth (cpu.platform.pa va)) :
    enableVmx (vmxonDefault cpu va) va =
      if (cpu.platform.rdmsr ia32FeatureControl).testBit 0 = true ∧
          (cpu.platform.rdmsr ia32FeatureControl).testBit 2 = false then .error .fault
      else .ok { cpu with
        platform := enable cpu.platform
        mem := Function.update cpu.mem (cpu.platform.pa va) (regionRevisionId cpu.platform.rdmsr)
        vmxonPointer := some (cpu.platform.pa va)
        current := none } := by
  obtain ⟨hpe', hvmxe', hcr⟩ := enable_crSupported h0 h4 hpe hvmxe
  obtain ⟨hlock, hsmx⟩ := enable_featureControl cpu.platform
  have hmem : RevisionOk (enable cpu.platform).rdmsr
      (Function.update cpu.mem (cpu.platform.pa va) (regionRevisionId cpu.platform.rdmsr) (cpu.platform.pa va)) := by
    rw [Function.update_same, RevisionOk, enable_rdmsr_basic]
    exact regionRevisionId_ok hrev
  simp only [enableVmx, vmxonDefault, VmxCpu.writeRevisionId, vmxon, VmxCpu.execVmxon, hpe', hvmxe', hoff,
    hcr, hlock, hon, hmem, enable_pa, Option.isSome_none, Bool.false_eq_true, Bool.true_eq_false, or_self,
    not_true_eq_false, false_or, ↓reduceIte, ← hsmx]

/-- `Vmcs::new()` in VMX operation, with no current VMCS, on a valid region other
    than the VMXON region: the region gets its revision identifier and is clear. -/
theorem vmcsNew_eq {o : Nat} (hon : cpu.vmxonPointer = some o) (hcur : cpu.current = none)
    (hcs : RegionAddr cpu.physAddrWidth (cpu.platform.pa va)) (hne : cpu.platform.pa va ≠ o) :
    vmcsNew cpu va = .ok { cpu with
      mem := Function.update cpu.mem (cpu.platform.pa va) (regionRevisionId cpu.platform.rdmsr)
      launched := Function.update cpu.launched (cpu.platform.pa va) false } := by
  simp only [vmcsNew, vmclear, VmxCpu.execVmclear, VmxCpu.writeRevisionId, hon, hcs, hne, hcur,
    not_true_eq_false, ↓reduceIte, reduceCtorEq]

/-- `activate()` of a valid region other than the VMXON region whose first word
    passes the revision check: it becomes the current VMCS. -/
theorem activate_eq {o : Nat} (hon : cpu.vmxonPointer = some o)
    (hcs : RegionAddr cpu.physAddrWidth (cpu.platform.pa va)) (hne : cpu.platform.pa va ≠ o)
    (hrev : RevisionOk cpu.platform.rdmsr (cpu.mem (cpu.platform.pa va))) :
    activate cpu va = .ok { cpu with current := some (cpu.platform.pa va) } := by
  simp only [activate, vmptrld, VmxCpu.execVmptrld, hon, hcs, hne, hrev, not_true_eq_false, ↓reduceIte]

/-- In VMX operation with a current VMCS, VMREAD of an implemented field reads it. -/
theorem vmread_ok {o a e : Nat} (hon : cpu.vmxonPointer = some o) (hcur : cpu.current = some a)
    (he : cpu.supports e = true) : vmread cpu e = .ok ((cpu.vmcs a).read e) := by
  simp only [vmread, hon, hcur, he, ↓reduceIte]

/-- In VMX operation with a current VMCS, a run of VMWRITEs to implemented fields
    other than exit information succeeds, and writes the current VMCS as
    `Vmcs.writeAll` does. -/
theorem vmwriteAll_ok {o a : Nat} (hon : cpu.vmxonPointer = some o) (hcur : cpu.current = some a)
    (ws : List (Nat × Nat)) (h : ∀ k ∈ ws.map Prod.fst, cpu.supports k = true ∧ fieldType k ≠ 1) :
    vmwriteAll cpu ws = .ok { cpu with vmcs := Function.update cpu.vmcs a ((cpu.vmcs a).writeAll ws) } := by
  induction ws generalizing cpu with
  | nil => simp only [Vmcs.writeAll_nil, Function.update_eq_self]; rfl
  | cons w ws ih =>
    obtain ⟨hs, ht⟩ := h w.1 (List.mem_cons_self _ _)
    have hw : vmwrite cpu w.1 w.2 =
        .ok { cpu with vmcs := Function.update cpu.vmcs a ((cpu.vmcs a).write w.1 w.2) } := by
      simp only [vmwrite, hon, hcur, hs, ht, false_and, Bool.not_true, Bool.false_eq_true, ↓reduceIte]
    show (vmwrite cpu w.1 w.2 >>= fun cpu => vmwriteAll cpu ws) = _
    rw [hw]
    refine (@ih { cpu with vmcs := Function.update cpu.vmcs a ((cpu.vmcs a).write w.1 w.2) } hon hcur
      fun k hk => h k (List.mem_cons_of_mem _ hk)).trans ?_
    simp [Vmcs.writeAll_cons]

/-- In VMX root operation with a current VMCS, VMXON fails with VMfailValid 15. -/
theorem enableVmx_of_vmxRoot {o a : Nat} (hon : cpu.vmxonPointer = some o) (hcur : cpu.current = some a)
    (hpe : (cpu.platform.rdmsr ia32VmxCr0Fixed0).testBit 0 = true)
    (hvmxe : (cpu.platform.rdmsr ia32VmxCr4Fixed0).testBit 13 = true) :
    enableVmx cpu va = .error (.failValid 15) := by
  have hpe' : (enable cpu.platform).cr0.testBit 0 = true := adjustFixed_testBit_of_fixed0 hpe
  have hvmxe' : (enable cpu.platform).cr4.testBit 13 = true := adjustFixed_testBit_of_fixed0 hvmxe
  simp only [enableVmx, vmxon, VmxCpu.execVmxon, VmxCpu.vmFail, hpe', hvmxe', hon, hcur, Option.isSome_some,
    Bool.true_eq_false, or_self, ↓reduceIte]

end Steps

/-! ## Bring-up -/

/-- **BRING-UP**: on a processor outside VMX operation whose VMX-fixed MSRs fix
    CR0.PE and CR4.VMXE to 1 (each FIXED0 within its FIXED1), with bit 31 of
    IA32_VMX_BASIC clear and the VMXON and VMCS regions at distinct valid physical
    addresses, `enable`, `VmxGuest::new` and `activate` fault exactly when
    IA32_FEATURE_CONTROL is locked without VMXON outside SMX.  Otherwise they
    leave VMX root operation on the VMXON region with the guest's VMCS current and
    clear; there every VMREAD of an implemented field, and every run of VMWRITEs to
    implemented fields that are not exit information, succeeds and reads or writes
    the guest's VMCS as the map model does, and a second `enable` fails with
    VMfailValid 15. -/
theorem bringUp_eq (cpu : VmxCpu) (vmxonVa vmcsVa : Nat) (hoff : cpu.vmxonPointer = none)
    (h0 : BitsLe (cpu.platform.rdmsr ia32VmxCr0Fixed0) (cpu.platform.rdmsr ia32VmxCr0Fixed1))
    (h4 : BitsLe (cpu.platform.rdmsr ia32VmxCr4Fixed0) (cpu.platform.rdmsr ia32VmxCr4Fixed1))
    (hpe : (cpu.platform.rdmsr ia32VmxCr0Fixed0).testBit 0 = true)
    (hvmxe : (cpu.platform.rdmsr ia32VmxCr4Fixed0).testBit 13 = true)
    (hrev : (cpu.platform.rdmsr ia32VmxBasic).testBit 31 = false)
    (hon : RegionAddr cpu.physAddrWidth (cpu.platform.pa vmxonVa))
    (hcs : RegionAddr cpu.physAddrWidth (cpu.platform.pa vmcsVa))
    (hne : cpu.platform.pa vmcsVa ≠ cpu.platform.pa vmxonVa) :
    bringUp cpu vmxonVa vmcsVa =
        (if (cpu.platform.rdmsr ia32FeatureControl).testBit 0 = true ∧
            (cpu.platform.rdmsr ia32FeatureControl).testBit 2 = false then .error .fault
        else .ok { cpu with
          platform := enable cpu.platform
          mem := Function.update (Function.update cpu.mem (cpu.platform.pa vmxonVa)
            (regionRevisionId cpu.platform.rdmsr)) (cpu.platform.pa vmcsVa) (regionRevisionId cpu.platform.rdmsr)
          vmxonPointer := some (cpu.platform.pa vmxonVa)
          current := some (cpu.platform.pa vmcsVa)
          launched := Function.update cpu.launched (cpu.platform.pa vmcsVa) false }) ∧
      ∀ cpu', bringUp cpu vmxonVa vmcsVa = .ok cpu' →
        (∀ e, cpu'.supports e = true → vmread cpu' e = .ok ((cpu'.vmcs (cpu.platform.pa vmcsVa)).read e)) ∧
        (∀ ws, (∀ k ∈ ws.map Prod.fst, cpu'.supports k = true ∧ fieldType k ≠ 1) →
          vmwriteAll cpu' ws = .ok { cpu' with
            vmcs := Function.update cpu'.vmcs (cpu.platform.pa vmcsVa)
              ((cpu'.vmcs (cpu.platform.pa vmcsVa)).writeAll ws) }) ∧
        ∀ va, enableVmx cpu' va = .error (.failValid 15) := by
  have hrevE : regionRevisionId (enable cpu.platform).rdmsr = regionRevisionId cpu.platform.rdmsr := by
    rw [regionRevisionId, regionRevisionId, enable_rdmsr_basic]
  refine (fun heq => ⟨heq, fun cpu' h => ?_⟩) ?_
  · rw [bringUp, enableVmx_vmxonDefault hoff h0 h4 hpe hvmxe hrev hon]
    split_ifs with hl
    · rfl
    · dsimp only [bind, Except.bind]
      rw [vmcsNew_eq rfl rfl (by exact hcs) (by exact hne)]
      dsimp only
      rw [activate_eq rfl (by exact hcs) (by exact hne)]
      · simp only [enable_pa, hrevE]
      · simp only [enable_pa, Function.update_same, RevisionOk, hrevE, enable_rdmsr_basic]
        exact regionRevisionId_ok hrev
  · rw [heq] at h
    split_ifs at h
    obtain rfl := Except.ok.inj h
    refine ⟨fun e he => vmread_ok rfl rfl he, vmwriteAll_ok rfl rfl, fun va => enableVmx_of_vmxRoot rfl rfl ?_ ?_⟩
    · rw [enable_rdmsr_fixed (by decide)]
      exact hpe
    · rw [enable_rdmsr_fixed (by decide)]
      exact hvmxe

/-- `typicalPlatform` with MAXPHYADDR 46, every VMCS component implemented, outside
    VMX operation. -/
def typicalCpu : VmxCpu :=
  ⟨typicalPlatform, fun _ => 0, 46, fun _ => true, none, none, fun _ => sampleGuest.vmcs, fun _ => true⟩

/-- On `typicalCpu` the bring-up leaves the VMCS at `0x2000` current and clear. -/
theorem bringUp_eq_typical :
    ∃ cpu', bringUp typicalCpu 0x1000 0x2000 = .ok cpu' ∧ cpu'.current = some 0x2000 ∧
      cpu'.launched 0x2000 = false :=
  ⟨_, (bringUp_eq typicalCpu 0x1000 0x2000 rfl (by decide) (by decide) (by decide) (by decide) (by decide)
    (by decide) (by decide) (by decide)).1.trans (if_neg (by decide)), rfl, rfl⟩

end Vmx
