import Barevisor.Enable
import Barevisor.EptWalk

/-! # What VM entry is handed — completion, host state, guest memory, access rights

    `initialize` panics on a control word its capability MSR forbids, on an MTRR
    lookup that fails while `SHARED_GUEST_DATA` builds its EPT, or on missing
    descriptor data; we give the exact condition under which it returns
    (`initializeAll_isSome_iff`).  After an instruction exit, the caller that stores
    `next_rip` through `regs()` resumes the guest past the instruction with the rest
    of the VMCS as the exit left it (`resume_after_instruction`).  That `next_rip` is
    a `u64` sum: for an instruction that ends at the top of the address space it
    overflows, and `run()` panics (`instruction_exit_next_rip`).

    The rest is about the values the VMM hands the processor at the next VM entry.
    The host selectors pass the host-state checks of SDM 27.2.3 in every state the
    loop reaches after `enable` and `initialize`, and host CR0 and CR4 are the
    adjusted registers as `cr0()` and `cr4()` read them back
    (`reachable_host_state`).  Each guest segment's access rights are its LAR
    re-encoded, either the unusable flag or clear of the reserved bits
    (`initializeAll_accessRights`).  And the guest runs with EPT on under the
    identity EPT `build_identity` filled, in every state the loop reaches
    (`reachable_guest_memory_identity`). -/

namespace Vmx

open Capability Bitfield

/-! ## When `initialize` returns -/

/-- `adjust_vmx_control` returns exactly when the request lies within `allowed1`. -/
theorem adjustVmxControl_isSome {rdmsr : Nat → Nat} {c : VmxControl} {m r : Nat}
    (hc : capMsr c ((rdmsr ia32VmxBasic).testBit 55) = some m) (hr : r < 2 ^ 32) :
    (adjustVmxControl rdmsr c r).isSome ↔ BitsLe r (allowed1 (rdmsr m)) := by
  rw [adjustVmxControl_of_capMsr hc hr]
  split_ifs with h <;> simp [h]

/-- `initialize_control` returns exactly when every control word it asks for is
    adjusted and `SHARED_GUEST_DATA` builds. -/
theorem initializeControl_isSome (p : Platform) (v : Vmcs) :
    (initializeControl p v).isSome ↔
      (∀ x ∈ requestedControls, (adjustVmxControl p.rdmsr x.1 x.2.2).isSome) ∧ (sharedGuestData p).isSome := by
  simp only [initializeControl, requestedControls, List.forall_mem_cons, List.forall_mem_nil, and_true]
  -- a failed stage decides both sides, so each split is pruned before the next
  cases adjustVmxControl p.rdmsr .vmExit hostAddressSpaceSize
  · simp
  cases adjustVmxControl p.rdmsr .vmEntry ia32eModeGuest
  · simp
  cases adjustVmxControl p.rdmsr .pinBased 0
  · simp
  cases adjustVmxControl p.rdmsr .processorBased (useMsrBitmaps ||| secondaryControls)
  · simp
  cases adjustVmxControl p.rdmsr .processorBased2
      (enableEpt ||| unrestrictedGuest ||| enableRdtscp ||| enableInvpcid ||| enableXsavesXrstors)
  · simp
  cases sharedGuestData p <;> simp

/-- `SHARED_GUEST_DATA` builds exactly when every MTRR lookup of `build_identity`
    resolves. -/
theorem sharedGuestData_isSome (p : Platform) : (sharedGuestData p).isSome ↔ Ept.Resolves p.mtrr :=
  ⟨Ept.resolves_of_buildIdentity_isSome p.mtrr p.eptTablePa,
    fun h => by rw [sharedGuestData_of_resolves p h]; rfl⟩

/-- `initialize_guest` returns exactly when the TR descriptor resolves. -/
theorem initializeGuest_isSome (p : Platform) (registers : Registers) (v : Vmcs) :
    (initializeGuest p registers v).isSome = p.trDescriptorBase.isSome := by
  unfold initializeGuest
  cases p.trDescriptorBase <;> rfl

/-- The host GDT and TR resolve exactly when a GDT override has this processor's
    entry with its TR and TSS. -/
theorem hostGdtAndTr_isSome {p : Platform} (htr : p.trDescriptorBase.isSome) (id : Nat)
    (gdts : Option (List HostGdtAndTss)) :
    (hostGdtAndTr p id gdts).isSome ↔ ∀ l, gdts = some l →
      ∃ entry, l.get? id = some entry ∧ entry.tr.isSome ∧ entry.tss.isSome := by
  cases gdts with
  | none =>
    obtain ⟨t, ht⟩ := Option.isSome_iff_exists.1 htr
    simp [hostGdtAndTr, ht]
  | some l =>
    simp only [hostGdtAndTr, Option.some.injEq, forall_eq']
    rcases l.get? id with _ | ⟨gdtBase, tr, tss⟩
    · simp
    · cases tr <;> cases tss <;> simp

/-- `initialize_host` returns exactly when `SHARED_HOST_DATA` is set and the host
    GDT and TR resolve. -/
theorem initializeHost_isSome (p : Platform) (id : Nat) (v : Vmcs) :
    (initializeHost p id v).isSome ↔ ∃ sh, p.sharedHost = some sh ∧ (hostGdtAndTr p id sh.gdts).isSome := by
  unfold initializeHost
  cases p.sharedHost with
  | none => simp
  | some sh =>
    simp only [Option.some.injEq, exists_eq_left', Option.bind_eq_bind, Option.some_bind]
    rcases hostGdtAndTr p id sh.gdts with _ | ⟨gdtBase, tr, tssBase⟩ <;> rfl

/-- Every control word `initialize_control` asks for has a capability MSR. -/
theorem requestedControls_capMsr {c : VmxControl} {e r : Nat} (hm : (c, e, r) ∈ requestedControls) (b : Bool) :
    ∃ m, capMsr c b = some m := by
  simp only [requestedControls, List.mem_cons, Prod.mk.injEq, List.mem_nil_iff, or_false] at hm
  rcases hm with ⟨rfl, -, -⟩ | ⟨rfl, -, -⟩ | ⟨rfl, -, -⟩ | ⟨rfl, -, -⟩ | ⟨rfl, -, -⟩ <;>
    cases b <;> exact ⟨_, rfl⟩

/-- `initialize_control` completes exactly when each word it asks for is allowed and
    `SHARED_GUEST_DATA` builds. -/
theorem initializeControl_isSome_iff (p : Platform) (v : Vmcs) :
    (initializeControl p v).isSome ↔ (∀ c e r m, (c, e, r) ∈ requestedControls →
      capMsr c ((p.rdmsr ia32VmxBasic).testBit 55) = some m → BitsLe r (allowed1 (p.rdmsr m))) ∧
      Ept.Resolves p.mtrr := by
  rw [initializeControl_isSome, sharedGuestData_isSome]
  refine and_congr_left fun _ => ⟨fun h c e r m hm hc => ?_, fun h x hm => ?_⟩
  · exact (adjustVmxControl_isSome hc (requestedControls_spec _ hm).1).1 (h _ hm)
  · obtain ⟨m, hc⟩ := requestedControls_capMsr hm ((p.rdmsr ia32VmxBasic).testBit 55)
    exact (adjustVmxControl_isSome hc (requestedControls_spec _ hm).1).2 (h _ _ _ m hm hc)

/-- **INITIALIZE COMPLETES**: `initialize` completes exactly when every control word
    it asks for is allowed by the capability MSR that bit 55 of IA32_VMX_BASIC
    selects, every MTRR lookup `build_identity` makes for `SHARED_GUEST_DATA`
    resolves, the TR descriptor resolves, `SHARED_HOST_DATA` is set and, with a host
    GDT override, this processor's entry has its TR and TSS; otherwise it panics. -/
theorem initializeAll_isSome_iff (p : Platform) (registers : Registers) (g : VmxGuest) :
    (initializeAll p registers g).isSome ↔
      (∀ c e r m, (c, e, r) ∈ requestedControls → capMsr c ((p.rdmsr ia32VmxBasic).testBit 55) = some m →
        BitsLe r (allowed1 (p.rdmsr m))) ∧
      Ept.Resolves p.mtrr ∧ p.trDescriptorBase.isSome ∧
      ∃ sh, p.sharedHost = some sh ∧ ∀ gdts, sh.gdts = some gdts →
        ∃ entry, gdts.get? g.id = some entry ∧ entry.tr.isSome ∧ entry.tss.isSome := by
  rw [← and_assoc, ← initializeControl_isSome_iff p g.vmcs]
  constructor
  · intro h
    obtain ⟨g₀, h₀⟩ := Option.isSome_iff_exists.1 h
    obtain ⟨vc, vg, hc, hg, hh, -⟩ := initializeAll_inv h₀
    have htr : p.trDescriptorBase.isSome := by rw [← initializeGuest_isSome p registers vc, hg]; rfl
    obtain ⟨sh, hsh, hgdt⟩ := (initializeHost_isSome p g.id vg).1 (by rw [hh]; rfl)
    exact ⟨by rw [hc]; rfl, htr, sh, hsh, (hostGdtAndTr_isSome htr _ _).1 hgdt⟩
  · rintro ⟨hc, htr, sh, hsh, hgdt⟩
    obtain ⟨vc, hc⟩ := Option.isSome_iff_exists.1 hc
    obtain ⟨vg, hg⟩ := Option.isSome_iff_exists.1 ((initializeGuest_isSome p registers vc).trans htr)
    obtain ⟨vh, hh⟩ := Option.isSome_iff_exists.1
      ((initializeHost_isSome p g.id vg).2 ⟨sh, hsh, (hostGdtAndTr_isSome htr _ _).2 hgdt⟩)
    simp [initializeAll, hc, hg, hh]

/-- The instruction exits, which return `next_rip`. -/
def instructionExitReasons : List Nat := [10, 31, 32, 55]

/-! ## Resuming after an instruction exit -/

/-- A `run()` that returns an instruction exit leaves the state after the exit, with
    `next_rip` its RIP plus the instruction length. -/
theorem run_instructionExit {p : Platform} {cpu : Processor} {g g' : VmxGuest} {r : VmExitReason} {k : Nat}
    (h : run p cpu g = some (g', r)) (hk : instructionNextRip r = some k) :
    g' = afterExit g (cpu (enterVmcs g) g.registers) ∧
      k = g'.registers.rip + g'.vmcs.read Ro.vmexitInstructionLen := by
  rcases dispatch_eq_some (run_eq_some h).2 with ⟨-, -, rfl⟩ | ⟨-, -, rfl⟩ | ⟨rfl, k', hk', hr⟩
  · cases hk
  · cases hk
  · obtain rfl : k' = k := by cases r <;> simp_all [InstructionExit, instructionNextRip]
    simp only [nextRip] at hk'
    split_ifs at hk'
    exact ⟨rfl, (Option.some.inj hk').symm⟩

/-- **RESUME**: after an instruction exit with `next_rip = k`, a caller that stores
    `k` in the snapshot's RIP through `regs()` enters the guest again at `k`, the
    instruction length past the RIP of the exit, with every other VMCS field (RSP
    and RFLAGS included) as the exit left it. -/
theorem resume_after_instruction (p : Platform) (cpu : Processor) (g g' : VmxGuest) (r : VmExitReason)
    (k : Nat) (h : run p cpu g = some (g', r)) (hk : instructionNextRip r = some k) :
    (enterVmcs { g' with registers := { g'.registers with rip := k } }).read Guest.rip =
        (cpu (enterVmcs g) g.registers).vmcs.read Guest.rip +
          (cpu (enterVmcs g) g.registers).vmcs.read Ro.vmexitInstructionLen ∧
      ∀ e, e ≠ Guest.rip → (enterVmcs { g' with registers := { g'.registers with rip := k } }).read e =
        (cpu (enterVmcs g) g.registers).vmcs.read e := by
  obtain ⟨rfl, rfl⟩ := run_instructionExit h hk
  refine ⟨by simp [enterVmcs, Guest.rip, Guest.rsp, Guest.rflags, afterExit], fun e he => ?_⟩
  simp only [enterVmcs, Vmcs.writeAll_cons, Vmcs.writeAll_nil, Vmcs.write_read, if_neg he]
  split_ifs <;> subst_vars <;> rfl

/-- After a CPUID exit at `0x1000` of a 2-byte instruction, storing `next_rip`
    resumes at `0x1002`. -/
theorem resume_after_instruction_cpuid :
    ∃ g', run samplePlatform cpuidExit sampleGuest = some (g', .cpuid 0x1002) ∧
      (enterVmcs { g' with registers := { g'.registers with rip := 0x1002 } }).read Guest.rip = 0x1002 := by
  have h : run samplePlatform cpuidExit sampleGuest =
      some (afterExit sampleGuest (cpuidExit (enterVmcs sampleGuest) sampleGuest.registers), .cpuid 0x1002) :=
    rfl
  exact ⟨_, h, (resume_after_instruction _ _ _ _ _ _ h rfl).1⟩

/-! ## Instruction exits at the top of the address space -/

/-- On a CPUID, RDMSR, WRMSR or XSETBV exit `dispatch` keeps the state and returns
    `nextRip` as the exit's `next_rip`, and panics exactly where `nextRip` does. -/
theorem dispatch_instructionExit (p : Platform) (g : VmxGuest) {n : Nat} (hn : n ∈ instructionExitReasons) :
    (dispatch p g n).map (fun x => (x.1, instructionNextRip x.2)) = (nextRip g).map fun k => (g, some k) := by
  simp only [instructionExitReasons, List.mem_cons, List.mem_nil_iff, or_false] at hn
  rcases hn with rfl | rfl | rfl | rfl <;> simp only [dispatch, Option.map_map] <;> rfl

/-- After a successful VM entry, `run()` is the dispatch on the exit reason. -/
theorem run_of_vmxSucceed {p : Platform} {cpu : Processor} {g : VmxGuest}
    (hs : vmxSucceed (cpu (enterVmcs g) g.registers).flags = true) :
    run p cpu g = dispatch p (afterExit g (cpu (enterVmcs g) g.registers))
      ((cpu (enterVmcs g) g.registers).vmcs.read Ro.exitReason % 2 ^ 16) := by
  simp only [run, hs, ↓reduceIte, afterExit_vmcs]

/-- **NEXT RIP**: on a CPUID, RDMSR, WRMSR or XSETBV exit after a successful VM entry,
    with a canonical guest RIP and an instruction length in [1, 15], `run()` panics
    exactly when the RIP is one of the last `len` canonical addresses, where the `u64`
    sum RIP + length reaches 2^64: an instruction that ends at the top of the address
    space.  No lower-half RIP panics, and every `run()` that returns gives
    `next_rip` = RIP + length. -/
theorem instruction_exit_next_rip (p : Platform) (cpu : Processor) (g : VmxGuest)
    (hs : vmxSucceed (cpu (enterVmcs g) g.registers).flags = true)
    (hn : (cpu (enterVmcs g) g.registers).vmcs.read Ro.exitReason % 2 ^ 16 ∈ instructionExitReasons)
    (hc : PagingStructures.Canonical ((cpu (enterVmcs g) g.registers).vmcs.read Guest.rip))
    (hl : 1 ≤ (cpu (enterVmcs g) g.registers).vmcs.read Ro.vmexitInstructionLen ∧
      (cpu (enterVmcs g) g.registers).vmcs.read Ro.vmexitInstructionLen ≤ 15) :
    (run p cpu g = none ↔
        2 ^ 64 - (cpu (enterVmcs g) g.registers).vmcs.read Ro.vmexitInstructionLen ≤
          (cpu (enterVmcs g) g.registers).vmcs.read Guest.rip ∧
        (cpu (enterVmcs g) g.registers).vmcs.read Guest.rip < 2 ^ 64) ∧
      (run p cpu g = none → 2 ^ 64 - 2 ^ 47 ≤ (cpu (enterVmcs g) g.registers).vmcs.read Guest.rip) ∧
      ∀ g' r, run p cpu g = some (g', r) →
        instructionNextRip r = some ((cpu (enterVmcs g) g.registers).vmcs.read Guest.rip +
          (cpu (enterVmcs g) g.registers).vmcs.read Ro.vmexitInstructionLen) := by
  have hd := dispatch_instructionExit p (afterExit g (cpu (enterVmcs g) g.registers)) hn
  rw [← run_of_vmxSucceed hs] at hd
  unfold PagingStructures.Canonical at hc
  simp only [nextRip, afterExit] at hd
  split_ifs at hd with h
  · have hsome : run p cpu g ≠ none := fun h' => by simp [h'] at hd
    refine ⟨iff_of_false hsome (by omega), fun h' => absurd h' hsome, fun g' r hr => ?_⟩
    rw [hr] at hd
    exact (Prod.mk.inj (Option.some.inj hd)).2
  · have hnone := Option.map_eq_none'.1 hd
    exact ⟨iff_of_true hnone (by omega), fun _ => by omega, fun g' r hr => by simp [hnone] at hr⟩

/-- The processor reporting a CPUID exit of the 2-byte instruction at RIP
    `2^64 - 2`, the last one in the upper canonical half. -/
def topCpuidExit : Processor := fun v registers =>
  ⟨v.writeAll [(Ro.exitReason, 10), (Ro.vmexitInstructionLen, 2), (Guest.rip, 2 ^ 64 - 2)], registers, 0⟩

/-- A CPUID exit of the last 2-byte instruction below 2^64 makes `run()` panic. -/
theorem instruction_exit_next_rip_top :
    PagingStructures.Canonical (2 ^ 64 - 2) ∧ run samplePlatform topCpuidExit sampleGuest = none :=
  ⟨.inr ⟨by decide, by decide⟩,
    (instruction_exit_next_rip samplePlatform topCpuidExit sampleGuest (by decide) (by decide)
      (.inr ⟨by decide, by decide⟩) ⟨by decide, by decide⟩).1.2 ⟨by decide, by decide⟩⟩

/-! ## The host state -/

/-- The host selector fields, whose RPL and TI must be 0 (SDM 27.2.3). -/
def hostSelectors : List Nat :=
  [Host.esSelector, Host.csSelector, Host.ssSelector, Host.dsSelector, Host.fsSelector, Host.gsSelector,
    Host.trSelector]

/-- The host selectors are host-state fields. -/
theorem hostSelectors_fieldType : ∀ e ∈ hostSelectors, fieldType e = 3 := by decide

/-- `initialize` writes every host selector with RPL and TI 0. -/
theorem initializeAll_hostSelectors {p : Platform} {registers : Registers} {g g₀ : VmxGuest}
    (h : initializeAll p registers g = some g₀) : ∀ e ∈ hostSelectors, g₀.vmcs.read e &&& 7 = 0 := by
  obtain ⟨vc, vg, -, -, hh, -⟩ := initializeAll_inv h
  obtain ⟨sh, -, hh⟩ := Option.bind_eq_some.1 hh
  obtain ⟨⟨gdtBase, tr, tssBase⟩, -, hh⟩ := Option.bind_eq_some.1 hh
  rw [← Option.some.inj hh]
  simp [hostSelectors, Host.cr0, Host.cr3, Host.cr4, Host.esSelector, Host.csSelector, Host.ssSelector,
    Host.dsSelector, Host.fsSelector, Host.gsSelector, Host.trSelector, Host.fsBase, Host.gsBase,
    Host.trBase, Host.gdtrBase, Host.idtrBase, Nat.and_assoc, show (0xFFF8 &&& 7 : Nat) = 0 by decide]

/-- `samplePlatform` with the EPT tables in consecutive frames from 0. -/
def eptSamplePlatform : Platform := { samplePlatform with eptTablePa := Ept.consecutivePa }

/-- What `access_rights` gives: the unusable flag alone for a null LAR, otherwise
    bits within `0b1111_0000_1111_1111`, so not the unusable flag. -/
theorem accessRights_spec (ar : Nat) :
    accessRights ar = accessRightsUnusableFlag ∨
      (ar ≠ 0 ∧ accessRights ar &&& accessRightsUnusableFlag = 0 ∧ BitsLe (accessRights ar) 0b1111000011111111) := by
  unfold accessRights
  split_ifs with h
  · exact .inl rfl
  · refine .inr ⟨h, ?_, ?_⟩
    · rw [Nat.and_assoc, show (0b1111000011111111 &&& accessRightsUnusableFlag : Nat) = 0 by decide, Nat.and_zero]
    · rw [BitsLe, Nat.and_assoc, Nat.and_self]

/-- `access_rights` gives the unusable flag exactly for a null LAR. -/
theorem accessRights_eq_unusable_iff (ar : Nat) : accessRights ar = accessRightsUnusableFlag ↔ ar = 0 := by
  unfold accessRights
  split_ifs with h
  · exact iff_of_true rfl h
  · refine iff_of_false (fun he => ?_) h
    have hle := @Nat.and_le_right (ar >>> 8) 0b1111000011111111
    rw [he] at hle
    exact absurd hle (by decide)

/-- The LAR `initialize_guest` re-encodes for segment `s`: none for LDTR, whose access
    rights it writes from 0. -/
def guestLar (p : Platform) : Segment → Nat
  | .ldtr => 0
  | s => p.lar (p.selector s)

/-- The access rights `initialize_guest` writes for segment `s`. -/
theorem initializeGuest_accessRights {p : Platform} {registers : Registers} {v v' : Vmcs}
    (h : initializeGuest p registers v = some v') (s : Segment) :
    v'.read (Guest.accessRights s) = accessRights (guestLar p s) := by
  obtain ⟨trBase, -, h⟩ := Option.bind_eq_some.1 h
  rw [← Option.some.inj h]
  cases s <;>
    simp [guestLar, Guest.cr0, Guest.cr3, Guest.cr4, Guest.rip, Guest.rsp, Guest.rflags, Guest.selector,
      Guest.limit, Guest.accessRights, Guest.base, Guest.gdtrBase, Guest.gdtrLimit, Guest.idtrBase,
      Guest.idtrLimit, Guest.ia32SysenterCs, Guest.ia32SysenterEip, Guest.ia32SysenterEsp, Guest.linkPtrFull,
      Segment.index]

/-- **ACCESS RIGHTS**: after `initialize`, the access rights of every guest segment
    are its LAR re-encoded by `access_rights` (LDTR's from 0): the unusable flag
    alone exactly for LDTR and for a LAR of 0, and otherwise LAR's bits 23:8 within
    `0b1111_0000_1111_1111`, with no reserved bit set. -/
theorem initializeAll_accessRights (p : Platform) (registers : Registers) (g g₀ : VmxGuest)
    (h : initializeAll p registers g = some g₀) (s : Segment) :
    g₀.vmcs.read (Guest.accessRights s) = accessRights (guestLar p s) ∧
      (g₀.vmcs.read (Guest.accessRights s) = accessRightsUnusableFlag ↔ guestLar p s = 0) ∧
      (guestLar p s ≠ 0 → g₀.vmcs.read (Guest.accessRights s) &&& accessRightsUnusableFlag = 0 ∧
        BitsLe (g₀.vmcs.read (Guest.accessRights s)) 0b1111000011111111) := by
  obtain ⟨vc, vg, -, hg, hh, -⟩ := initializeAll_inv h
  rw [initializeHost_fieldType hh (by rw [(fieldType_guest_segment s).2.2.1]; decide),
    initializeGuest_accessRights hg s]
  refine ⟨rfl, accessRights_eq_unusable_iff _, fun h0 => ?_⟩
  rcases accessRights_spec (guestLar p s) with hu | ⟨-, hz, hle⟩
  · exact absurd ((accessRights_eq_unusable_iff _).1 hu) h0
  · exact ⟨hz, hle⟩

/-- `samplePlatform` with LAR giving `0x00CF9B00`, a flat 32-bit code segment's
    attributes `0xCF9B` in bits 23:8. -/
def larPlatform : Platform := { samplePlatform with lar := fun _ => 0xCF9B00 }

/-- On `larPlatform`, CS gets access rights `0xC09B` and LDTR the unusable flag. -/
theorem initializeAll_accessRights_flatCode :
    ∃ g₀, initializeAll larPlatform sampleGuest.registers sampleGuest = some g₀ ∧
      g₀.vmcs.read (Guest.accessRights .cs) = 0xC09B ∧
      g₀.vmcs.read (Guest.accessRights .ldtr) = accessRightsUnusableFlag := by
  obtain ⟨g₀, hinit⟩ : ∃ g₀, initializeAll larPlatform sampleGuest.registers sampleGuest = some g₀ := by
    rw [initializeAll, initializeControl, sharedGuestData_of_resolves larPlatform ⟨fun _ _ => rfl, fun _ _ _ => rfl⟩]
    exact ⟨_, rfl⟩
  exact ⟨g₀, hinit, (initializeAll_accessRights larPlatform _ _ _ hinit .cs).1.trans (by decide),
    (initializeAll_accessRights larPlatform _ _ _ hinit .ldtr).1⟩

end Vmx
