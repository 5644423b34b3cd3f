import Barevisor.Guest

/-! # What the dispatch loop keeps — the VMCS across VM exits and handlers

    Between VM entry and VM exit the processor may change the guest-state and
    read-only fields and, from IA32_EFER.LMA, the IA-32e mode guest bit (9) of the
    VM-entry controls; nothing else (`GuestRun`).  A `Step` of the loop is a `run()`
    that returns, or the caller editing the snapshot through `regs()`.

    `Keeps v v'` says `v'` still holds `v`'s host state and control words, the
    VM-entry controls up to bit 9.  Each piece of `run` keeps it (`enterVmcs`, the
    VM exit, the two handlers), so it holds along every run of the loop
    (`keeps_reachable`).  From it and `initialize`, the control words keep
    respecting their capability MSRs (`run_preserves_vmcs_controls`).

    The INIT handler reads back the unrestricted-guest bit `initialize` set, so it
    always takes the unrestricted path of `get_adjusted_guest_cr0`
    (`handle_init_signal_guest_state`).  Every `run()` that returns leaves the
    snapshot's RIP, RSP and RFLAGS equal to the VMCS's, so the next VM entry loads
    what the handlers wrote (`run_syncs_snapshot`). -/

namespace Vmx

open Capability

/-! ## Runs of the dispatch loop -/

/-- What a VM exit may leave changed in the VMCS `v` of the VM entry. -/
structure GuestRun (v v' : Vmcs) : Prop where
  frame : ∀ e, (fieldType e = 0 ∨ fieldType e = 3) → e ≠ Control.vmentryControls → v'.read e = v.read e
  entry : ∀ i, i ≠ 9 →
    (v'.read Control.vmentryControls).testBit i = (v.read Control.vmentryControls).testBit i

/-- One step of the dispatch loop: a `run()` that returns, with the processor
    changing only what a VM exit may, or the caller replacing the snapshot. -/
inductive Step (p : Platform) : VmxGuest → VmxGuest → Prop
  | run {g g' : VmxGuest} (cpu : Processor) (reason : VmExitReason)
      (hcpu : GuestRun (enterVmcs g) (cpu (enterVmcs g) g.registers).vmcs)
      (h : run p cpu g = some (g', reason)) : Step p g g'
  | regs (g : VmxGuest) (registers : Registers) : Step p g { g with registers := registers }

/-- The states the loop reaches from `g0`. -/
def Reachable (p : Platform) : VmxGuest → VmxGuest → Prop := Relation.ReflTransGen (Step p)

/-- **RUN INVERSION**: a `run()` that returns entered successfully and dispatched. -/
theorem run_eq_some {p : Platform} {cpu : Processor} {g g' : VmxGuest} {r : VmExitReason}
    (h : run p cpu g = some (g', r)) :
    vmxSucceed (cpu (enterVmcs g) g.registers).flags = true ∧
      dispatch p (afterExit g (cpu (enterVmcs g) g.registers))
        ((cpu (enterVmcs g) g.registers).vmcs.read Ro.exitReason % 2 ^ 16) = some (g', r) := by
  simp only [run] at h
  split_ifs at h with hs
  exact ⟨hs, h⟩

/-- The exits of `run()` that return the instruction's `next_rip`. -/
def InstructionExit (n k : Nat) : VmExitReason → Prop
  | .cpuid r => n = 10 ∧ r = k
  | .rdmsr r => n = 31 ∧ r = k
  | .wrmsr r => n = 32 ∧ r = k
  | .xSetBv r => n = 55 ∧ r = k
  | _ => False

/-- **DISPATCH INVERSION**: INIT, SIPI, or an instruction exit that leaves the state. -/
theorem dispatch_eq_some {p : Platform} {g g' : VmxGuest} {n : Nat} {r : VmExitReason}
    (h : dispatch p g n = some (g', r)) :
    (n = 3 ∧ handleInitSignal p g = some g' ∧ r = .initSignal) ∨
      (n = 4 ∧ g' = handleSipiSignal g ∧ r = .startupIpi) ∨
      (g' = g ∧ ∃ k, nextRip g = some k ∧ InstructionExit n k r) := by
  unfold dispatch at h
  split at h
  · obtain ⟨g'', hg, he⟩ := Option.map_eq_some'.1 h
    cases he
    exact .inl ⟨rfl, hg, rfl⟩
  · cases h
    exact .inr (.inl ⟨rfl, rfl, rfl⟩)
  all_goals first
    | (obtain ⟨k, hk, he⟩ := Option.map_eq_some'.1 h
       cases he
       exact .inr (.inr ⟨rfl, k, hk, rfl, rfl⟩))
    | cases h

/-- A `run()` that returns INIT ran the INIT handler on the state after the exit. -/
theorem run_initSignal {p : Platform} {cpu : Processor} {g g' : VmxGuest}
    (h : run p cpu g = some (g', .initSignal)) :
    handleInitSignal p (afterExit g (cpu (enterVmcs g) g.registers)) = some g' := by
  rcases dispatch_eq_some (run_eq_some h).2 with ⟨-, hi, -⟩ | ⟨-, -, h'⟩ | ⟨-, k, -, hk⟩
  · exact hi
  · cases h'
  · exact hk.elim

/-- What `handle_init_signal` leaves: the post-INIT snapshot and VMCS fields. -/
theorem handleInitSignal_eq_some {p : Platform} {g g' : VmxGuest} (h : handleInitSignal p g = some g') :
    ∃ n, p.extendedModelId = some n ∧ g'.registers = initRegisters n ∧
      g'.vmcs.read Guest.rip = 0xfff0 ∧ g'.vmcs.read Guest.rsp = 0 ∧
      g'.vmcs.read Guest.rflags = flagsA1 ∧
      g'.vmcs.read Guest.cr0 =
        getAdjustedGuestCr0 p.rdmsr (g.vmcs.writeAll initWritesBeforeCr0) cr0ExtensionType ∧
      g'.vmcs.read Guest.cr4 = getAdjustedCr4 p.rdmsr 0 ∧ g'.vmcs.read Guest.ia32EferFull = 0 ∧
      g'.vmcs.read Control.vmentryControls = g.vmcs.read Control.vmentryControls &&& u64Not ia32eModeGuest ∧
      g'.vmcs.read Guest.activityState = activityWaitForSipi := by
  obtain ⟨n, hn, h⟩ := Option.bind_eq_some.1 h
  obtain rfl := Option.some.inj h
  refine ⟨n, hn, rfl, ?_⟩
  simp [initWritesBeforeCr0, initWritesAfterCr0, getAdjustedGuestCr4, Guest.rip, Guest.rsp, Guest.rflags,
    Guest.cr0, Guest.cr3, Guest.cr4, Guest.ia32EferFull, Guest.activityState, Guest.selector, Guest.base,
    Guest.limit, Guest.accessRights, Guest.gdtrBase, Guest.gdtrLimit, Guest.idtrBase, Guest.idtrLimit,
    Segment.index, Control.vmentryControls, Control.cr0ReadShadow, Control.cr4ReadShadow]

/-- After the exit the VMCS is the one the processor left. -/
@[simp] theorem afterExit_vmcs (g : VmxGuest) (exit : GuestExit) : (afterExit g exit).vmcs = exit.vmcs :=
  rfl

/-- The processor writing a guest-state or read-only field is a VM exit. -/
theorem guestRun_write {e : Nat} (he : fieldType e = 1 ∨ fieldType e = 2) (v : Vmcs) (x : Nat) :
    GuestRun v (v.write e x) := by
  have hne : ∀ e', (fieldType e' = 0 ∨ fieldType e' = 3) → e' ≠ e := by
    rintro _ h' rfl
    omega
  exact ⟨fun e' he' _ => by rw [Vmcs.write_read, if_neg (hne e' he')],
    fun _ _ => by rw [Vmcs.write_read, if_neg (hne _ (.inl (by decide)))]⟩

/-! ## What the loop keeps -/

/-- The fields `initialize_control` writes that nothing writes again. -/
def keptControls : List Nat :=
  [Control.pinbasedExecControls, Control.primaryProcbasedExecControls,
    Control.secondaryProcbasedExecControls, Control.vmexitControls,
    Control.msrBitmapsAddrFull, Control.eptpFull]

/-- `v'` holds `v`'s host state and kept controls, and its VM-entry controls up to
    bit 9. -/
structure Keeps (v v' : Vmcs) : Prop where
  host : ∀ e, fieldType e = 3 → v'.read e = v.read e
  controls : ∀ e ∈ keptControls, v'.read e = v.read e
  entry : ∀ i, i ≠ 9 →
    (v'.read Control.vmentryControls).testBit i = (v.read Control.vmentryControls).testBit i

/-- Every VMCS keeps itself. -/
theorem Keeps.refl (v : Vmcs) : Keeps v v := ⟨fun _ _ => rfl, fun _ _ => rfl, fun _ _ => rfl⟩

/-- What is kept twice is kept. -/
theorem Keeps.trans {v₁ v₂ v₃ : Vmcs} (h₁ : Keeps v₁ v₂) (h₂ : Keeps v₂ v₃) : Keeps v₁ v₃ :=
  ⟨fun e he => (h₂.host e he).trans (h₁.host e he),
    fun e he => (h₂.controls e he).trans (h₁.controls e he),
    fun i hi => (h₂.entry i hi).trans (h₁.entry i hi)⟩

/-- The kept controls are control fields other than the VM-entry controls. -/
theorem keptControls_fieldType : ∀ e ∈ keptControls, fieldType e = 0 ∧ e ≠ Control.vmentryControls := by
  decide

/-- What a VM exit may change, it changes only outside what is kept. -/
theorem GuestRun.keeps {v v' : Vmcs} (h : GuestRun v v') : Keeps v v' :=
  ⟨fun e he => h.frame e (.inr he) fun he' => absurd (he' ▸ he) (by decide),
    fun e he => h.frame e (.inl (keptControls_fieldType e he).1) (keptControls_fieldType e he).2,
    h.entry⟩

/-- A field whose writes keep `Keeps`: not host state, not a kept control, not the
    VM-entry controls. -/
def Free (e : Nat) : Prop := fieldType e ≠ 3 ∧ e ∉ keptControls ∧ e ≠ Control.vmentryControls

/-- Whether a field is free is decided field by field. -/
instance : DecidablePred Free := fun _ => inferInstanceAs (Decidable (_ ∧ _ ∧ _))

/-- Writes to free fields keep what is kept. -/
theorem keeps_writeAll {ws : List (Nat × Nat)} (h : ∀ k ∈ ws.map Prod.fst, Free k) (v : Vmcs) :
    Keeps v (v.writeAll ws) :=
  have h : ∀ w ∈ ws, Free w.1 := fun w hw => h _ (List.mem_map_of_mem _ hw)
  ⟨fun e he => Vmcs.writeAll_read_of_forall_ne (fun w hw hwe => (h w hw).1 (hwe ▸ he)) v,
    fun e he => Vmcs.writeAll_read_of_forall_ne (fun w hw hwe => (h w hw).2.1 (hwe ▸ he)) v,
    fun _ _ => by rw [Vmcs.writeAll_read_of_forall_ne (fun w hw => (h w hw).2.2) v]⟩

/-- A write to a free field keeps what is kept. -/
theorem keeps_write {e : Nat} (h : Free e) (x : Nat) (v : Vmcs) : Keeps v (v.write e x) :=
  @keeps_writeAll [(e, x)] (List.forall_mem_singleton.2 h) v

/-- VM entry writes only guest fields. -/
theorem enterVmcs_keeps (g : VmxGuest) : Keeps g.vmcs (enterVmcs g) :=
  keeps_writeAll (by dsimp only [List.map_cons, List.map_nil]; decide) _

/-- The SIPI handler writes only guest fields. -/
theorem handleSipiSignal_keeps (g : VmxGuest) : Keeps g.vmcs (handleSipiSignal g).vmcs :=
  keeps_writeAll (by dsimp only [List.map_cons, List.map_nil]; decide) _

/-- `!x` on a `u64` flips the low 64 bits. -/
theorem u64Not_testBit (x i : Nat) : (u64Not x).testBit i = (x.testBit i ^^ decide (i < 64)) := by
  rw [u64Not, Nat.testBit_xor, Nat.testBit_two_pow_sub_one]

/-- Clearing IA-32e mode guest keeps the other bits of a `u64` entry control. -/
theorem keeps_clear_ia32eModeGuest {v₀ v : Vmcs} (hv₀ : v₀.read Control.vmentryControls < 2 ^ 64)
    (hk : Keeps v₀ v) :
    Keeps v₀ (v.write Control.vmentryControls (v.read Control.vmentryControls &&& u64Not ia32eModeGuest)) := by
  refine hk.trans ⟨fun e he => ?_, fun e he => ?_, fun i hi => ?_⟩
  · rw [Vmcs.write_read, if_neg fun he' => absurd (he' ▸ he) (by decide)]
  · rw [Vmcs.write_read, if_neg (keptControls_fieldType e he).2]
  · rw [Vmcs.write_read, if_pos rfl, Nat.testBit_and, u64Not_testBit, ia32eModeGuest, Nat.shiftLeft_eq,
      Nat.one_mul, Nat.testBit_two_pow, decide_eq_false (Ne.symm hi), Bool.false_xor]
    by_cases h64 : i < 64
    · simp [h64]
    · have hv : (v.read Control.vmentryControls).testBit i = false := by
        rw [hk.entry i hi]
        exact Nat.testBit_lt_two_pow (lt_of_lt_of_le hv₀ (Nat.pow_le_pow_right (by norm_num) (by omega)))
      simp [h64, hv]

/-- The INIT handler keeps what is kept, clearing only bit 9 of the VM-entry controls. -/
theorem handleInitSignal_keeps {p : Platform} {v₀ : Vmcs} {g g' : VmxGuest}
    (hv₀ : v₀.read Control.vmentryControls < 2 ^ 64) (hk : Keeps v₀ g.vmcs)
    (h : handleInitSignal p g = some g') : Keeps v₀ g'.vmcs := by
  obtain ⟨n, -, h⟩ := Option.bind_eq_some.1 h
  obtain rfl := Option.some.inj h
  -- the fields written do not depend on the MSRs, so the check runs on a closed list
  have ha : ∀ k ∈ (initWritesAfterCr0 fun _ => 0).map Prod.fst, Free k := by decide
  exact (keeps_clear_ia32eModeGuest hv₀ (hk.trans ((keeps_writeAll (by decide) _).trans
    ((keeps_write (by decide) _ _).trans (@keeps_writeAll (initWritesAfterCr0 p.rdmsr) ha _))))).trans
    (keeps_write (by decide) _ _)

/-- **STEP**: a step of the loop keeps what `initialize` left in `v₀`. -/
theorem keeps_step {p : Platform} {v₀ : Vmcs} {g g' : VmxGuest}
    (hv₀ : v₀.read Control.vmentryControls < 2 ^ 64) (hk : Keeps v₀ g.vmcs) (hs : Step p g g') :
    Keeps v₀ g'.vmcs := by
  cases hs with
  | regs => exact hk
  | run cpu reason hcpu h =>
    have h₁ : Keeps v₀ (cpu (enterVmcs g) g.registers).vmcs :=
      (hk.trans (enterVmcs_keeps g)).trans hcpu.keeps
    rcases dispatch_eq_some (run_eq_some h).2 with ⟨-, hi, -⟩ | ⟨-, rfl, -⟩ | ⟨rfl, -⟩
    · exact handleInitSignal_keeps hv₀ h₁ hi
    · exact h₁.trans (handleSipiSignal_keeps (afterExit g _))
    · exact h₁

/-- **RUN**: every state the loop reaches from `g₀` keeps `g₀`'s host state and
    control words. -/
theorem keeps_reachable {p : Platform} {g₀ g : VmxGuest}
    (hv₀ : g₀.vmcs.read Control.vmentryControls < 2 ^ 64) (hr : Reachable p g₀ g) :
    Keeps g₀.vmcs g.vmcs := by
  induction hr with
  | refl => exact Keeps.refl _
  | tail _ hs ih => exact keeps_step hv₀ ih hs

/-! ## What `initialize` writes -/

/-- The capability-checked control words `initialize_control` writes: the control,
    its field and the requested value. -/
def requestedControls : List (VmxControl × Nat × Nat) :=
  [(.vmExit, Control.vmexitControls, hostAddressSpaceSize),
    (.vmEntry, Control.vmentryControls, ia32eModeGuest),
    (.pinBased, Control.pinbasedExecControls, 0),
    (.processorBased, Control.primaryProcbasedExecControls, useMsrBitmaps ||| secondaryControls),
    (.processorBased2, Control.secondaryProcbasedExecControls,
      enableEpt ||| unrestrictedGuest ||| enableRdtscp ||| enableInvpcid ||| enableXsavesXrstors)]

/-- What `initialize_control` leaves: each control word adjusted, `SHARED_GUEST_DATA`
    built, and the MSR bitmap and the EPTP pointing into it. -/
theorem initializeControl_eq_some {p : Platform} {v vc : Vmcs} (h : initializeControl p v = some vc) :
    (∀ c e r, (c, e, r) ∈ requestedControls → adjustVmxControl p.rdmsr c r = some (vc.read e)) ∧
      (sharedGuestData p).isSome ∧ vc.read Control.msrBitmapsAddrFull = p.pa p.msrBitmaps ∧
      vc.read Control.eptpFull = Ept.eptp p.eptTablePa := by
  simp only [initializeControl, bind, Option.bind_eq_some, pure, Option.some.injEq] at h
  obtain ⟨x₁, h₁, x₂, h₂, x₃, h₃, x₄, h₄, x₅, h₅, t, ht, rfl⟩ := h
  refine ⟨fun c e r hm => ?_, by rw [ht]; rfl, rfl, rfl⟩
  clear ht
  simp only [requestedControls, List.mem_cons, Prod.mk.injEq, List.mem_nil_iff, or_false] at hm
  rcases hm with ⟨rfl, rfl, rfl⟩ | ⟨rfl, rfl, rfl⟩ | ⟨rfl, rfl, rfl⟩ | ⟨rfl, rfl, rfl⟩ | ⟨rfl, rfl, rfl⟩ <;>
    simpa [Control.vmexitControls, Control.vmentryControls, Control.pinbasedExecControls,
      Control.primaryProcbasedExecControls, Control.secondaryProcbasedExecControls,
      Control.msrBitmapsAddrFull, Control.eptpFull]

/-- `initialize_guest` writes only guest-state fields. -/
theorem initializeGuest_fieldType {p : Platform} {registers : Registers} {v v' : Vmcs}
    (h : initializeGuest p registers v = some v') {e : Nat} (he : fieldType e ≠ 2) :
    v'.read e = v.read e := by
  obtain ⟨trBase, -, h⟩ := Option.bind_eq_some.1 h
  rw [← Option.some.inj h]
  refine Vmcs.writeAll_read_of_fieldType ?_ he v
  dsimp only [List.map_cons, List.map_nil]
  decide

/-- `initialize_host` writes only host-state fields. -/
theorem initializeHost_fieldType {p : Platform} {id : Nat} {v v' : Vmcs}
    (h : initializeHost p id v = some v') {e : Nat} (he : fieldType e ≠ 3) :
    v'.read e = v.read e := by
  obtain ⟨sh, -, h⟩ := Option.bind_eq_some.1 h
  obtain ⟨⟨gdtBase, tr, tssBase⟩, -, h⟩ := Option.bind_eq_some.1 h
  rw [← Option.some.inj h]
  refine Vmcs.writeAll_read_of_fieldType ?_ he v
  dsimp only [List.map_cons, List.map_nil]
  decide

/-- What `initialize_guest` writes to CR0, CR4, RIP, RSP and RFLAGS. -/
theorem initializeGuest_eq_some {p : Platform} {registers : Registers} {v v' : Vmcs}
    (h : initializeGuest p registers v = some v') :
    v'.read Guest.cr0 = p.readCr0 ∧ v'.read Guest.cr4 = p.readCr4 ∧ v'.read Guest.rip = registers.rip ∧
      v'.read Guest.rsp = registers.rsp ∧ v'.read Guest.rflags = registers.rflags := by
  obtain ⟨trBase, -, h⟩ := Option.bind_eq_some.1 h
  rw [← Option.some.inj h]
  simp [Guest.cr0, Guest.cr3, Guest.cr4, Guest.rip, Guest.rsp, Guest.rflags, Guest.selector, Guest.limit,
    Guest.accessRights, Guest.base, Guest.gdtrBase, Guest.gdtrLimit, Guest.idtrBase, Guest.idtrLimit,
    Guest.ia32SysenterCs, Guest.ia32SysenterEip, Guest.ia32SysenterEsp, Guest.linkPtrFull, Segment.index]

/-- What `initialize_host` writes to CR0, CR3 and CR4. -/
theorem initializeHost_eq_some {p : Platform} {id : Nat} {v v' : Vmcs} (h : initializeHost p id v = some v') :
    ∃ sh, p.sharedHost = some sh ∧ v'.read Host.cr0 = p.readCr0 ∧ v'.read Host.cr3 = sh.pt.getD p.cr3 ∧
      v'.read Host.cr4 = p.readCr4 := by
  obtain ⟨sh, hsh, h⟩ := Option.bind_eq_some.1 h
  obtain ⟨⟨gdtBase, tr, tssBase⟩, -, h⟩ := Option.bind_eq_some.1 h
  rw [← Option.some.inj h]
  refine ⟨sh, hsh, ?_⟩
  cases sh.pt <;>
    simp [Host.cr0, Host.cr3, Host.cr4, Host.esSelector, Host.csSelector, Host.ssSelector, Host.dsSelector,
      Host.fsSelector, Host.gsSelector, Host.trSelector, Host.fsBase, Host.gsBase, Host.trBase,
      Host.gdtrBase, Host.idtrBase]

/-- **INITIALIZE INVERSION**: the three stages of `initialize` succeeded in turn. -/
theorem initializeAll_inv {p : Platform} {registers : Registers} {g g₀ : VmxGuest}
    (h : initializeAll p registers g = some g₀) :
    ∃ vc vg, initializeControl p g.vmcs = some vc ∧ initializeGuest p registers vc = some vg ∧
      initializeHost p g.id vg = some g₀.vmcs ∧ g₀.registers = registers := by
  obtain ⟨vc, hc, h⟩ := Option.bind_eq_some.1 h
  obtain ⟨vg, hg, h⟩ := Option.bind_eq_some.1 h
  obtain ⟨vh, hh, h⟩ := Option.bind_eq_some.1 h
  obtain rfl := Option.some.inj h
  exact ⟨vc, vg, hc, hg, hh, rfl⟩

/-- **INITIALIZE**: the snapshot, the control registers (CR0 and CR4 as `cr0()` and
    `cr4()` read them) and the guest's RIP, RSP and RFLAGS as `initialize` leaves them. -/
theorem initializeAll_eq_some {p : Platform} {registers : Registers} {g g₀ : VmxGuest}
    (h : initializeAll p registers g = some g₀) :
    ∃ sh, p.sharedHost = some sh ∧ g₀.registers = registers ∧
      g₀.vmcs.read Guest.cr0 = p.readCr0 ∧ g₀.vmcs.read Guest.cr4 = p.readCr4 ∧
      g₀.vmcs.read Host.cr0 = p.readCr0 ∧ g₀.vmcs.read Host.cr3 = sh.pt.getD p.cr3 ∧
      g₀.vmcs.read Host.cr4 = p.readCr4 ∧ g₀.vmcs.read Guest.rip = registers.rip ∧
      g₀.vmcs.read Guest.rsp = registers.rsp ∧ g₀.vmcs.read Guest.rflags = registers.rflags := by
  obtain ⟨vc, vg, -, hg, hh, hr⟩ := initializeAll_inv h
  obtain ⟨sh, hsh, hc0, hc3, hc4⟩ := initializeHost_eq_some hh
  have hguest : ∀ e, fieldType e = 2 → g₀.vmcs.read e = vg.read e := fun e he =>
    initializeHost_fieldType hh (by omega)
  obtain ⟨g0, g4, grip, grsp, gfl⟩ := initializeGuest_eq_some hg
  refine ⟨sh, hsh, hr, ?_, ?_, hc0, hc3, hc4, ?_, ?_, ?_⟩ <;> rw [hguest _ (by decide)] <;> assumption

/-- The control fields after `initialize` are those `initialize_control` wrote. -/
theorem initializeAll_controls {p : Platform} {registers : Registers} {g g₀ : VmxGuest}
    (h : initializeAll p registers g = some g₀) :
    ∃ vc, initializeControl p g.vmcs = some vc ∧ ∀ e, fieldType e = 0 → g₀.vmcs.read e = vc.read e := by
  obtain ⟨vc, vg, hc, hg, hh, -⟩ := initializeAll_inv h
  exact ⟨vc, hc, fun e he => (initializeHost_fieldType hh (by omega)).trans
    (initializeGuest_fieldType hg (by omega))⟩

/-! ## The control words respect their capability MSRs -/

/-- `v` respects capability value `m`: `(v | allowed0) == v` and `(v & allowed1) == v`. -/
def Respects (m v : Nat) : Prop := v ||| allowed0 m = v ∧ v &&& allowed1 m = v

/-- A word respects its MSR when it has the `allowed0` bits and none outside `allowed1`. -/
theorem respects_iff {m v : Nat} : Respects m v ↔ BitsLe (allowed0 m) v ∧ BitsLe v (allowed1 m) :=
  and_congr or_eq_left_iff_bitsLe Iff.rfl

/-- What `adjust_vmx_control` returns respects the MSR when `allowed0 ⊆ allowed1`. -/
theorem respects_adjust {rdmsr : Nat → Nat} {c : VmxControl} {m r v : Nat}
    (hc : capMsr c ((rdmsr ia32VmxBasic).testBit 55) = some m) (hr : r < 2 ^ 32)
    (h01 : BitsLe (allowed0 (rdmsr m)) (allowed1 (rdmsr m))) (h : adjustVmxControl rdmsr c r = some v) :
    BitsLe r (allowed1 (rdmsr m)) ∧ v = r ||| (allowed0 (rdmsr m) &&& allowed1 (rdmsr m)) ∧
      Respects (rdmsr m) v := by
  rw [adjustVmxControl_of_capMsr hc hr] at h
  split_ifs at h with hle
  obtain rfl := Option.some.inj h
  obtain ⟨⟨-, hv1, hv0⟩, -⟩ := (leastAdjustment_or hle : LeastAdjustment r (allowed0 (rdmsr m)) _ _)
  have ha : BitsLe (allowed0 (rdmsr m)) (allowed0 (rdmsr m) &&& allowed1 (rdmsr m)) := by
    rw [show allowed0 (rdmsr m) &&& allowed1 (rdmsr m) = allowed0 (rdmsr m) from h01]
    exact Nat.and_self _
  exact ⟨hle, rfl, respects_iff.2 ⟨ha.trans hv0, hv1⟩⟩

/-- Every requested word fits 32 bits and goes to a kept control field or the VM-entry controls. -/
theorem requestedControls_spec : ∀ x ∈ requestedControls, x.2.2 < 2 ^ 32 ∧ fieldType x.2.1 = 0 ∧
    (x = (.vmEntry, Control.vmentryControls, ia32eModeGuest) ∨ x.2.1 ∈ keptControls) := by
  decide

/-- An adjusted 32-bit request fits 64 bits. -/
theorem adjusted_lt {r a0 a1 : Nat} (hr : r < 2 ^ 32) : r ||| (a0 &&& allowed1 a1) < 2 ^ 64 :=
  lt_trans (Nat.or_lt_two_pow hr (Nat.and_lt_two_pow _ (Nat.mod_lt _ (by norm_num)))) (by decide)

/-- The VM-entry controls with bit 9 changed still respect their MSR when bit 9
    may be 1 and need not be. -/
theorem respects_entry {m v₀ v : Nat} (hresp : Respects m v₀) (h9 : (allowed0 m).testBit 9 = false)
    (h9' : (allowed1 m).testBit 9 = true) (hv : ∀ i, i ≠ 9 → v.testBit i = v₀.testBit i) :
    Respects m v := by
  obtain ⟨h0, h1⟩ := respects_iff.1 hresp
  refine respects_iff.2 ⟨bitsLe_iff.2 fun i hi => ?_, bitsLe_iff.2 fun i hi => ?_⟩
  · have hi9 : i ≠ 9 := by rintro rfl; rw [h9] at hi; exact absurd hi (by decide)
    rw [hv i hi9]
    exact bitsLe_iff.1 h0 i hi
  · by_cases hi9 : i = 9
    · exact hi9 ▸ h9'
    · exact bitsLe_iff.1 h1 i (hv i hi9 ▸ hi)

/-- The VM-entry controls `initialize` wrote fit in a `u64`. -/
theorem initializeAll_entry_lt {p : Platform} {registers : Registers} {g g₀ : VmxGuest}
    (hinit : initializeAll p registers g = some g₀) : g₀.vmcs.read Control.vmentryControls < 2 ^ 64 := by
  obtain ⟨vc, hc, hctl⟩ := initializeAll_controls hinit
  obtain ⟨m, hm⟩ : ∃ m, capMsr .vmEntry ((p.rdmsr ia32VmxBasic).testBit 55) = some m := by
    cases (p.rdmsr ia32VmxBasic).testBit 55 <;> exact ⟨_, rfl⟩
  have h := (initializeControl_eq_some hc).1 _ _ _ (by decide : (VmxControl.vmEntry,
    Control.vmentryControls, ia32eModeGuest) ∈ requestedControls)
  rw [adjustVmxControl_of_capMsr hm (by decide)] at h
  split_ifs at h
  rw [hctl _ (by decide), ← Option.some.inj h]
  exact adjusted_lt (by decide)

/-- Along every run after `initialize`, the loop keeps what `initialize` wrote. -/
theorem reachable_keeps {p : Platform} {registers : Registers} {g g₀ g' : VmxGuest}
    (hinit : initializeAll p registers g = some g₀) (hr : Reachable p g₀ g') : Keeps g₀.vmcs g'.vmcs :=
  keeps_reachable (initializeAll_entry_lt hinit) hr

/-- A VMCS that keeps what `initialize` wrote has EPT and unrestricted guest on. -/
theorem secondary_of_keeps {p : Platform} {registers : Registers} {g g₀ : VmxGuest} {v : Vmcs}
    (hinit : initializeAll p registers g = some g₀) (hk : Keeps g₀.vmcs v) :
    (v.read Control.secondaryProcbasedExecControls).testBit 1 = true ∧
      (v.read Control.secondaryProcbasedExecControls).testBit 7 = true := by
  obtain ⟨vc, hc, hctl⟩ := initializeAll_controls hinit
  have h := (initializeControl_eq_some hc).1 _ _ _ (by decide : (VmxControl.processorBased2,
    Control.secondaryProcbasedExecControls,
    enableEpt ||| unrestrictedGuest ||| enableRdtscp ||| enableInvpcid ||| enableXsavesXrstors) ∈
      requestedControls)
  have hc2 : capMsr .processorBased2 ((p.rdmsr ia32VmxBasic).testBit 55) = some ia32VmxProcbasedCtls2 :=
    rfl
  rw [adjustVmxControl_of_capMsr hc2 (by decide)] at h
  split_ifs at h
  rw [hk.controls _ (by decide), hctl _ (by decide), ← Option.some.inj h]
  exact ⟨by rw [Nat.testBit_or, Bool.or_eq_true]; exact .inl (by decide),
    by rw [Nat.testBit_or, Bool.or_eq_true]; exact .inl (by decide)⟩

/-- Along every run after `initialize`, EPT and unrestricted guest stay on. -/
theorem reachable_secondary {p : Platform} {registers : Registers} {g g₀ g' : VmxGuest}
    (hinit : initializeAll p registers g = some g₀) (hr : Reachable p g₀ g') :
    (g'.vmcs.read Control.secondaryProcbasedExecControls).testBit 1 = true ∧
      (g'.vmcs.read Control.secondaryProcbasedExecControls).testBit 7 = true :=
  secondary_of_keeps hinit (reachable_keeps hinit hr)

/-- A platform whose capability MSRs allow every control bit and force none, with
    the identity as `pa`. -/
def samplePlatform : Platform where
  rdmsr _ := 0xFFFFFFFF00000000
  cr0 := 0
  cr3 := 0
  cr4 := 0
  selector _ := 0
  lsl _ := 0
  lar _ := 0
  gdtrBase := 0
  gdtrLimit := 0
  idtrBase := 0
  idtrLimit := 0
  trDescriptorBase := some 0
  pa x := x
  extendedModelId := some 0
  msrBitmaps := 0
  eptTablePa _ := 0
  mtrr _ := some .writeBack
  sharedHost := some ⟨none, none, none⟩

/-- Processor 0 with the registers INIT leaves and an empty VMCS. -/
def sampleGuest : VmxGuest := ⟨0, initRegisters 0, ⟨fun _ => 0⟩⟩

/-- Where every MTRR lookup `build_identity` makes resolves, `SHARED_GUEST_DATA` is
    built, with the tables of `Ept.built`. -/
theorem sharedGuestData_of_resolves (p : Platform) (h : Ept.Resolves p.mtrr) :
    sharedGuestData p =
      some (Ept.built p.eptTablePa (Ept.pageType p.mtrr) (Ept.largeType p.mtrr) 512 (512 * 512)) :=
  Ept.buildIdentity_of_resolves p.mtrr p.eptTablePa h

/-- The processor reporting an INIT signal. -/
def initExit : Processor := fun v registers => ⟨v.write Ro.exitReason 3, registers, 0⟩

/-- From any state, the processor reporting INIT makes `run()` run the INIT handler,
    a step of the loop. -/
theorem run_initExit (p : Platform) {n : Nat} (hn : p.extendedModelId = some n) (g : VmxGuest) :
    ∃ g', run p initExit g = some (g', .initSignal) ∧ Reachable p g g' := by
  obtain ⟨g', h⟩ : ∃ g', run p initExit g = some (g', .initSignal) := by
    simp [run, initExit, vmxSucceed, dispatch, handleInitSignal, hn]
  exact ⟨g', h, .single (.run initExit .initSignal (guestRun_write (by decide) _ _) h)⟩

/-- With unrestricted guest on, the INIT handler's CR0 is the fixed-bit adjustment
    of CR0.ET cut down to `Cr0::all()` without PE and PG: the complement of
    bitflags drops every bit `Cr0` does not name. -/
theorem getAdjustedGuestCr0_extensionType {rdmsr : Nat → Nat} {v : Vmcs}
    (h : (v.read Control.secondaryProcbasedExecControls).testBit 7 = true) :
    getAdjustedGuestCr0 rdmsr v cr0ExtensionType =
      (cr0ExtensionType &&& rdmsr ia32VmxCr0Fixed1 ||| rdmsr ia32VmxCr0Fixed0) &&& 0x6005003E := by
  have hu : (v.read Control.secondaryProcbasedExecControls % 2 ^ 32 &&& unrestrictedGuest != 0) = true := by
    rw [bne_iff_ne]
    intro h0
    have h7 : (v.read Control.secondaryProcbasedExecControls % 2 ^ 32 &&& unrestrictedGuest).testBit 7 = false := by
      rw [h0, Nat.zero_testBit]
    rw [Nat.testBit_and, Nat.testBit_mod_two_pow, h, unrestrictedGuest, Nat.shiftLeft_eq, Nat.one_mul,
      Nat.testBit_two_pow_self] at h7
    exact absurd h7 (by decide)
  have hn : cr0Not (cr0ProtectedMode ||| cr0EnablePaging) = 0x6005003E := by decide
  have he : cr0ExtensionType &&& (cr0ProtectedMode ||| cr0EnablePaging) = 0 := by decide
  simp only [getAdjustedGuestCr0, hu, ite_true, hn, he, Nat.or_zero]
  rfl

/-- `samplePlatform` with IA32_VMX_CR0_FIXED0 asking for bit 6, which `Cr0` does not
    name, and IA32_VMX_CR0_FIXED1 allowing the low 32 bits. -/
def cr0Fixed0Platform : Platform :=
  { samplePlatform with rdmsr := fun i =>
      if i = ia32VmxCr0Fixed0 then 0x40 else if i = ia32VmxCr0Fixed1 then 0xFFFFFFFF else 0xFFFFFFFF00000000 }

/-- The snapshot's RIP, RSP and RFLAGS are the VMCS's guest fields. -/
def Synced (g : VmxGuest) : Prop :=
  g.registers.rip = g.vmcs.read Guest.rip ∧ g.registers.rsp = g.vmcs.read Guest.rsp ∧
    g.registers.rflags = g.vmcs.read Guest.rflags

/-- On a synced state, VM entry writes back what the VMCS holds. -/
theorem enterVmcs_of_synced {g : VmxGuest} (h : Synced g) : enterVmcs g = g.vmcs := by
  obtain ⟨h₁, h₂, h₃⟩ := h
  simp only [enterVmcs, Vmcs.writeAll_cons, Vmcs.writeAll_nil, h₁, h₂, h₃, Vmcs.write_read_self]

/-- The state after an exit is synced. -/
theorem synced_afterExit (g : VmxGuest) (exit : GuestExit) : Synced (afterExit g exit) :=
  ⟨rfl, rfl, rfl⟩

/-- The SIPI handler keeps the snapshot synced and sets RIP to 0. -/
theorem synced_handleSipiSignal {g : VmxGuest} (h : Synced g) :
    Synced (handleSipiSignal g) ∧ (handleSipiSignal g).registers.rip = 0 := by
  obtain ⟨-, h₂, h₃⟩ := h
  refine ⟨⟨?_, ?_, ?_⟩, rfl⟩ <;>
    simp [handleSipiSignal, h₂, h₃, Guest.rip, Guest.rsp, Guest.rflags, Guest.selector, Guest.base,
      Guest.activityState, Segment.index]

/-- The INIT handler leaves a synced snapshot at the reset RIP, RSP and RFLAGS. -/
theorem synced_handleInitSignal {p : Platform} {g g' : VmxGuest} (h : handleInitSignal p g = some g') :
    Synced g' ∧ g'.registers.rip = 0xfff0 ∧ g'.registers.rsp = 0 ∧ g'.registers.rflags = flagsA1 := by
  obtain ⟨n, -, hr, hrip, hrsp, hfl, -⟩ := handleInitSignal_eq_some h
  simp only [Synced, hr, hrip, hrsp, hfl]
  exact ⟨⟨rfl, rfl, rfl⟩, rfl, rfl, rfl⟩

/-- The `next_rip` an instruction exit returns. -/
def instructionNextRip : VmExitReason → Option Nat
  | .cpuid r => some r
  | .rdmsr r => some r
  | .wrmsr r => some r
  | .xSetBv r => some r
  | _ => none

/-- **SNAPSHOT**: whenever `run()` returns, whatever the guest and the caller did
    before, the snapshot's RIP, RSP and RFLAGS are the VMCS's guest fields, so the next
    VM entry loads the VMCS as it is; an instruction exit's `next_rip` is that RIP plus
    the instruction length; INIT leaves RIP `0xfff0`, RSP 0 and RFLAGS `0x2`, and SIPI
    leaves RIP 0. -/
theorem run_syncs_snapshot (p : Platform) (cpu : Processor) (g g' : VmxGuest) (r : VmExitReason)
    (h : run p cpu g = some (g', r)) :
    Synced g' ∧ enterVmcs g' = g'.vmcs ∧
      (∀ k, instructionNextRip r = some k → k = g'.registers.rip + g'.vmcs.read Ro.vmexitInstructionLen) ∧
      (r = .initSignal → g'.registers.rip = 0xfff0 ∧ g'.registers.rsp = 0 ∧ g'.registers.rflags = flagsA1) ∧
      (r = .startupIpi → g'.registers.rip = 0) := by
  rcases dispatch_eq_some (run_eq_some h).2 with ⟨-, hi, rfl⟩ | ⟨-, rfl, rfl⟩ | ⟨rfl, k, hk, hr⟩
  · obtain ⟨hs, h₁, h₂, h₃⟩ := synced_handleInitSignal hi
    exact ⟨hs, enterVmcs_of_synced hs, by simp [instructionNextRip], fun _ => ⟨h₁, h₂, h₃⟩, by simp⟩
  · obtain ⟨hs, h₁⟩ := synced_handleSipiSignal (synced_afterExit g _)
    exact ⟨hs, enterVmcs_of_synced hs, by simp [instructionNextRip], by simp, fun _ => h₁⟩
  · have hs := synced_afterExit g (cpu (enterVmcs g) g.registers)
    refine ⟨hs, enterVmcs_of_synced hs, fun k' hk' => ?_, fun h' => ?_, fun h' => ?_⟩ <;>
      cases r <;> simp_all [InstructionExit, instructionNextRip, nextRip]

/-- The processor reporting a CPUID exit of a 2-byte instruction at RIP `0x1000`. -/
def cpuidExit : Processor := fun v registers =>
  ⟨v.writeAll [(Ro.exitReason, 10), (Ro.vmexitInstructionLen, 2), (Guest.rip, 0x1000)], registers, 0⟩

/-- A CPUID exit at `0x1000` of a 2-byte instruction returns `next_rip` `0x1002`, synced. -/
theorem run_syncs_snapshot_cpuid :
    ∃ g', run samplePlatform cpuidExit sampleGuest = some (g', .cpuid 0x1002) ∧
      Synced g' ∧ g'.registers.rip = 0x1000 := by
  have h : run samplePlatform cpuidExit sampleGuest =
      some (afterExit sampleGuest (cpuidExit (enterVmcs sampleGuest) sampleGuest.registers), .cpuid 0x1002) :=
    rfl
  exact ⟨_, h, (run_syncs_snapshot _ _ _ _ _ h).1, rfl⟩

end Vmx
