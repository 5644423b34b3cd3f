import Barevisor.Basic

/-! # VMX capability MSRs — `adjust_vmx_control` and the fixed CR0/CR4 bits

    A VMX control word may only be written with the settings its capability MSR
    allows (Appendix A of the SDM): the low half of the MSR holds the bits that
    must be 1 (`allowed0`), the high half the bits that may be 1 (`allowed1`).
    `adjust_vmx_control` picks the MSR (the `TRUE_*` one when bit 55 of
    IA32_VMX_BASIC says they exist), forces the must-be-one bits on, masks to the
    may-be-one bits and asserts no requested bit was dropped.  CR0 and CR4 obey
    the same kind of rule through the `FIXED0`/`FIXED1` MSRs.

    Bit sets are `Nat`s read through `Nat.testBit`; `BitsLe a b` is `a ⊆ b`.
    We compute the exact result and the panic condition of `adjust_vmx_control`
    for every MSR value, and the properties of the CR adjustment. -/

namespace Capability

/-! ## Bit sets -/

/-- `a ⊆ b` as bit sets: `a & b == a`. -/
def BitsLe (a b : Nat) : Prop := a &&& b = a

/-- Bit inclusion is decided by computing the AND. -/
instance (a b : Nat) : Decidable (BitsLe a b) := inferInstanceAs (Decidable (a &&& b = a))

/-- Bit inclusion, bit by bit. -/
theorem bitsLe_iff {a b : Nat} : BitsLe a b ↔ ∀ i, a.testBit i → b.testBit i := by
  constructor
  · intro h i hi
    simpa [hi] using congrArg (Nat.testBit · i) h
  · intro h
    apply Nat.eq_of_testBit_eq
    intro i
    cases ha : a.testBit i <;> simp [ha, h i]

/-- `a | b = b` says that `a`'s bits are among `b`'s. -/
theorem or_eq_iff_bitsLe {a b : Nat} : a ||| b = b ↔ BitsLe a b := by
  rw [bitsLe_iff]
  constructor
  · intro h i hi
    simpa [hi] using (congrArg (Nat.testBit · i) h).symm
  · intro h
    apply Nat.eq_of_testBit_eq
    intro i
    cases ha : a.testBit i <;> simp [ha, h i]

/-- `a | b = a` says that `b`'s bits are among `a`'s. -/
theorem or_eq_left_iff_bitsLe {a b : Nat} : a ||| b = a ↔ BitsLe b a := by
  rw [Nat.or_comm]
  exact or_eq_iff_bitsLe

/-- Bit inclusion is transitive. -/
theorem BitsLe.trans {a b c : Nat} (hab : BitsLe a b) (hbc : BitsLe b c) : BitsLe a c :=
  bitsLe_iff.2 fun i hi => bitsLe_iff.1 hbc i (bitsLe_iff.1 hab i hi)

/-! ## The MSRs -/

/-- `IA32_VMX_BASIC`. -/
def ia32VmxBasic : Nat := 0x480
/-- `IA32_VMX_PINBASED_CTLS`. -/
def ia32VmxPinbasedCtls : Nat := 0x481
/-- `IA32_VMX_PROCBASED_CTLS`. -/
def ia32VmxProcbasedCtls : Nat := 0x482
/-- `IA32_VMX_EXIT_CTLS`. -/
def ia32VmxExitCtls : Nat := 0x483
/-- `IA32_VMX_ENTRY_CTLS`. -/
def ia32VmxEntryCtls : Nat := 0x484
/-- `IA32_VMX_CR0_FIXED0`. -/
def ia32VmxCr0Fixed0 : Nat := 0x486
/-- `IA32_VMX_CR0_FIXED1`. -/
def ia32VmxCr0Fixed1 : Nat := 0x487
/-- `IA32_VMX_CR4_FIXED0`. -/
def ia32VmxCr4Fixed0 : Nat := 0x488
/-- `IA32_VMX_CR4_FIXED1`. -/
def ia32VmxCr4Fixed1 : Nat := 0x489
/-- `IA32_VMX_PROCBASED_CTLS2`. -/
def ia32VmxProcbasedCtls2 : Nat := 0x48B
/-- `IA32_VMX_TRUE_PINBASED_CTLS`. -/
def ia32VmxTruePinbasedCtls : Nat := 0x48D
/-- `IA32_VMX_TRUE_PROCBASED_CTLS`. -/
def ia32VmxTrueProcbasedCtls : Nat := 0x48E
/-- `IA32_VMX_TRUE_EXIT_CTLS`. -/
def ia32VmxTrueExitCtls : Nat := 0x48F
/-- `IA32_VMX_TRUE_ENTRY_CTLS`. -/
def ia32VmxTrueEntryCtls : Nat := 0x490
/-- `IA32_VMX_PROCBASED_CTLS3`. -/
def ia32VmxProcbasedCtls3 : Nat := 0x492

/-! ## `adjust_vmx_control` -/

/-- `VmxControl`: the control words governed by a capability MSR. -/
inductive VmxControl
  | pinBased
  | processorBased
  | processorBased2
  | processorBased3
  | vmExit
  | vmEntry
  deriving DecidableEq, Repr

/-- The `match (control, true_cap_msr_supported)` of `adjust_vmx_control`: the
    capability MSR to read, or `none` for `ProcessorBased3`, whose arm returns early. -/
def capMsr : VmxControl → Bool → Option Nat
  | .pinBased, true => some ia32VmxTruePinbasedCtls
  | .pinBased, false => some ia32VmxPinbasedCtls
  | .processorBased, true => some ia32VmxTrueProcbasedCtls
  | .processorBased, false => some ia32VmxProcbasedCtls
  | .vmExit, true => some ia32VmxTrueExitCtls
  | .vmExit, false => some ia32VmxExitCtls
  | .vmEntry, true => some ia32VmxTrueEntryCtls
  | .vmEntry, false => some ia32VmxEntryCtls
  | .processorBased2, _ => some ia32VmxProcbasedCtls2
  | .processorBased3, _ => none

/-- `IA32_VMX_BASIC_VMX_CONTROLS_FLAG`. -/
def ia32VmxBasicVmxControlsFlag : Nat := 1 <<< 55

/-- `capabilities as u32`: the bits that must be 1. -/
def allowed0 (capabilities : Nat) : Nat := capabilities % 2 ^ 32

/-- `(capabilities >> 32) as u32`: the bits that may be 1. -/
def allowed1 (capabilities : Nat) : Nat := (capabilities >>> 32) % 2 ^ 32

/-- `adjust_vmx_control(control, requested_value)`, `none` where it panics: on a
    failed assertion, and at `u32::try_from(requested_value).unwrap()`. -/
def adjustVmxControl (rdmsr : Nat → Nat) (control : VmxControl) (requestedValue : Nat) : Option Nat :=
  let vmxBasic := rdmsr ia32VmxBasic
  let trueCapMsrSupported := vmxBasic &&& ia32VmxBasicVmxControlsFlag != 0
  match capMsr control trueCapMsrSupported with
  | none =>
    let allowed1 := rdmsr ia32VmxProcbasedCtls3
    let effectiveValue := requestedValue &&& allowed1
    if effectiveValue ||| requestedValue = effectiveValue then some effectiveValue else none
  | some capMsr =>
    let capabilities := rdmsr capMsr
    if requestedValue < 2 ^ 32 then
      let effectiveValue := (requestedValue ||| allowed0 capabilities) &&& allowed1 capabilities
      if effectiveValue ||| requestedValue = effectiveValue then some effectiveValue else none
    else none

/-- The flag test reads bit 55 of IA32_VMX_BASIC. -/
theorem trueCapMsrSupported_eq (x : Nat) : (x &&& ia32VmxBasicVmxControlsFlag != 0) = x.testBit 55 := by
  rw [ia32VmxBasicVmxControlsFlag, Nat.shiftLeft_eq, Nat.one_mul]
  cases hx : x.testBit 55
  · have h0 : x &&& 2 ^ 55 = 0 := Nat.eq_of_testBit_eq fun i => by
      rw [Nat.testBit_and, Nat.testBit_two_pow, Nat.zero_testBit]
      by_cases hi : 55 = i
      · subst hi; rw [hx]; rfl
      · simp [hi]
    rw [h0]; rfl
  · apply bne_iff_ne.2
    intro h
    have h1 : (x &&& 2 ^ 55).testBit 55 = true := by
      rw [Nat.testBit_and, hx, Nat.testBit_two_pow_self]; rfl
    rw [h, Nat.zero_testBit] at h1
    exact Bool.false_ne_true h1

/-- The value of an adjustment that keeps every requested bit. -/
theorem effective_eq {r a0 a1 : Nat} (h : BitsLe r a1) : (r ||| a0) &&& a1 = r ||| (a0 &&& a1) := by
  apply Nat.eq_of_testBit_eq
  intro i
  cases hr : r.testBit i <;> simp [hr, bitsLe_iff.1 h i]

/-- The assertion of the capability-checked controls holds exactly when no
    requested bit lies outside `allowed1`. -/
theorem assert_iff {r a0 a1 : Nat} : ((r ||| a0) &&& a1) ||| r = (r ||| a0) &&& a1 ↔ BitsLe r a1 := by
  rw [or_eq_left_iff_bitsLe, bitsLe_iff, bitsLe_iff]
  exact ⟨fun h i hi => by simpa [hi] using h i hi, fun h i hi => by simp [hi, h i hi]⟩

/-- The adjustment through capability MSR `m`. -/
theorem adjustVmxControl_of_capMsr {rdmsr : Nat → Nat} {c : VmxControl} {m r : Nat}
    (hc : capMsr c ((rdmsr ia32VmxBasic).testBit 55) = some m) (hr : r < 2 ^ 32) :
    adjustVmxControl rdmsr c r = if BitsLe r (allowed1 (rdmsr m))
      then some (r ||| (allowed0 (rdmsr m) &&& allowed1 (rdmsr m))) else none := by
  simp only [adjustVmxControl, trueCapMsrSupported_eq, hc, if_pos hr]
  by_cases h : BitsLe r (allowed1 (rdmsr m))
  · rw [if_pos (assert_iff.2 h), if_pos h, effective_eq h]
  · rw [if_neg (mt assert_iff.1 h), if_neg h]

/-- `ProcessorBased3` is checked against the whole of IA32_VMX_PROCBASED_CTLS3. -/
theorem adjustVmxControl_processorBased3 (rdmsr : Nat → Nat) (r : Nat) :
    adjustVmxControl rdmsr .processorBased3 r
      = if BitsLe r (rdmsr ia32VmxProcbasedCtls3) then some r else none := by
  simp only [adjustVmxControl, capMsr]
  by_cases h : BitsLe r (rdmsr ia32VmxProcbasedCtls3)
  · rw [if_pos h, show r &&& rdmsr ia32VmxProcbasedCtls3 = r from h, if_pos (Nat.or_self r)]
  · rw [if_neg h, if_neg]
    intro he
    refine h (bitsLe_iff.2 fun i hi => ?_)
    have := bitsLe_iff.1 (or_eq_left_iff_bitsLe.1 he) i hi
    simp only [Nat.testBit_and, Bool.and_eq_true] at this
    exact this.2

/-- `v` is the least bit set with `r ⊆ v ⊆ a1` and `a0 ∩ a1 ⊆ v`. -/
def LeastAdjustment (r a0 a1 v : Nat) : Prop :=
  (BitsLe r v ∧ BitsLe v a1 ∧ BitsLe (a0 &&& a1) v) ∧
    ∀ w, BitsLe r w → BitsLe w a1 → BitsLe (a0 &&& a1) w → BitsLe v w

/-- Within `allowed1`, `r | (allowed0 & allowed1)` is the least adjustment of `r`. -/
theorem leastAdjustment_or {r a0 a1 : Nat} (h : BitsLe r a1) : LeastAdjustment r a0 a1 (r ||| (a0 &&& a1)) := by
  simp only [LeastAdjustment, bitsLe_iff, Nat.testBit_or, Nat.testBit_and, Bool.or_eq_true,
    Bool.and_eq_true]
  rw [bitsLe_iff] at h
  refine ⟨⟨fun i hi => .inl hi, fun i hi => hi.elim (h i) And.right, fun i hi => .inr hi⟩, ?_⟩
  intro w hr _ ha i hi
  exact hi.elim (hr i) fun h' => ha i h'

/-- For a 64-bit MSR value, `allowed1` is the high half. -/
theorem allowed1_eq {m : Nat} (hm : m < 2 ^ 64) : allowed1 m = m >>> 32 := by
  rw [allowed1, Nat.shiftRight_eq_div_pow, Nat.mod_eq_of_lt (by omega)]

/-- **ADJUST**: for every IA32_VMX_BASIC and capability-MSR value and every
    `r < 2^32`, the four controls read the `TRUE_*` MSR exactly when bit 55 is set,
    `ProcessorBased2` always IA32_VMX_PROCBASED_CTLS2; through capability MSR `m`
    the adjustment panics exactly when `r` has a bit outside `allowed1 = m >> 32`,
    and otherwise returns `r | (allowed0 & allowed1)`, the least value containing
    `r` and `allowed0 & allowed1` inside `allowed1`.  `ProcessorBased3` panics
    exactly when `r ⊄ m`, and otherwise returns `r`. -/
theorem adjust_vmx_control_exact (rdmsr : Nat → Nat) (hm : ∀ i, rdmsr i < 2 ^ 64) (r : Nat)
    (hr : r < 2 ^ 32) :
    capMsr .pinBased ((rdmsr ia32VmxBasic).testBit 55) = some
      (if (rdmsr ia32VmxBasic).testBit 55 then ia32VmxTruePinbasedCtls else ia32VmxPinbasedCtls) ∧
    capMsr .processorBased ((rdmsr ia32VmxBasic).testBit 55) = some
      (if (rdmsr ia32VmxBasic).testBit 55 then ia32VmxTrueProcbasedCtls else ia32VmxProcbasedCtls) ∧
    capMsr .vmExit ((rdmsr ia32VmxBasic).testBit 55) = some
      (if (rdmsr ia32VmxBasic).testBit 55 then ia32VmxTrueExitCtls else ia32VmxExitCtls) ∧
    capMsr .vmEntry ((rdmsr ia32VmxBasic).testBit 55) = some
      (if (rdmsr ia32VmxBasic).testBit 55 then ia32VmxTrueEntryCtls else ia32VmxEntryCtls) ∧
    capMsr .processorBased2 ((rdmsr ia32VmxBasic).testBit 55) = some ia32VmxProcbasedCtls2 ∧
    (∀ c m, capMsr c ((rdmsr ia32VmxBasic).testBit 55) = some m →
      allowed0 (rdmsr m) = rdmsr m % 2 ^ 32 ∧ allowed1 (rdmsr m) = rdmsr m >>> 32 ∧
      (adjustVmxControl rdmsr c r = none ↔ ¬BitsLe r (allowed1 (rdmsr m))) ∧
      (BitsLe r (allowed1 (rdmsr m)) →
        adjustVmxControl rdmsr c r = some (r ||| (allowed0 (rdmsr m) &&& allowed1 (rdmsr m))) ∧
        LeastAdjustment r (allowed0 (rdmsr m)) (allowed1 (rdmsr m))
          (r ||| (allowed0 (rdmsr m) &&& allowed1 (rdmsr m))))) ∧
    adjustVmxControl rdmsr .processorBased3 r
      = if BitsLe r (rdmsr ia32VmxProcbasedCtls3) then some r else none := by
  have hmsr : ∀ b : Bool, capMsr .pinBased b = some (if b then ia32VmxTruePinbasedCtls else ia32VmxPinbasedCtls) ∧
      capMsr .processorBased b = some (if b then ia32VmxTrueProcbasedCtls else ia32VmxProcbasedCtls) ∧
      capMsr .vmExit b = some (if b then ia32VmxTrueExitCtls else ia32VmxExitCtls) ∧
      capMsr .vmEntry b = some (if b then ia32VmxTrueEntryCtls else ia32VmxEntryCtls) := by
    intro b
    cases b <;> exact ⟨rfl, rfl, rfl, rfl⟩
  refine ⟨(hmsr _).1, (hmsr _).2.1, (hmsr _).2.2.1, (hmsr _).2.2.2, rfl, fun c m hc => ?_,
    adjustVmxControl_processorBased3 rdmsr r⟩
  · rw [adjustVmxControl_of_capMsr hc hr]
    refine ⟨rfl, allowed1_eq (hm m), ?_, fun h => ⟨if_pos h, leastAdjustment_or h⟩⟩
    split_ifs with h <;> simp [h]

/-- Allowed0 `0x16`, allowed1 `0xFFFFFFFF` and requested `0x1` give `0x17`. -/
theorem adjust_vmx_control_exact_scenario :
    (∀ i, (fun _ => 0xFFFFFFFF00000016 : Nat → Nat) i < 2 ^ 64) ∧ (1 : Nat) < 2 ^ 32 ∧
      adjustVmxControl (fun _ => 0xFFFFFFFF00000016) .pinBased 1 = some 0x17 := by
  have hm : ∀ i, (fun _ => 0xFFFFFFFF00000016 : Nat → Nat) i < 2 ^ 64 := fun _ =>
    show 0xFFFFFFFF00000016 < 2 ^ 64 by decide
  refine ⟨hm, by decide, ?_⟩
  obtain ⟨-, -, -, -, -, h, -⟩ := adjust_vmx_control_exact (fun _ => 0xFFFFFFFF00000016) hm 1 (by decide)
  exact ((h .pinBased _ rfl).2.2.2 (by decide)).1.trans (by decide)

/-! ## The fixed bits of CR0 and CR4 -/

/-- `(cr & fixed1) | fixed0`: the bits `FIXED0` forces on, those `FIXED1` forces off. -/
def adjustFixed (fixed0 fixed1 cr : Nat) : Nat := (cr &&& fixed1) ||| fixed0

/-- `get_adjusted_cr0(cr0)`. -/
def getAdjustedCr0 (rdmsr : Nat → Nat) (cr0 : Nat) : Nat :=
  adjustFixed (rdmsr ia32VmxCr0Fixed0) (rdmsr ia32VmxCr0Fixed1) cr0

/-- `get_adjusted_cr4(cr4)`. -/
def getAdjustedCr4 (rdmsr : Nat → Nat) (cr4 : Nat) : Nat :=
  adjustFixed (rdmsr ia32VmxCr4Fixed0) (rdmsr ia32VmxCr4Fixed1) cr4

/-- What the VMX-fixed bits ask of a value `v` derived from `cr`: the `FIXED0` bits
    are set, nothing outside `FIXED1` is, the flexible bits are those of `cr`, and
    adjusting `v` again changes nothing. -/
structure FixedOk (fixed0 fixed1 cr v : Nat) : Prop where
  fixed0_le : BitsLe fixed0 v
  le_fixed1 : BitsLe v fixed1
  flexible : ∀ i, fixed0.testBit i = false → fixed1.testBit i = true → v.testBit i = cr.testBit i
  fixedPoint : adjustFixed fixed0 fixed1 v = v

/-- With FIXED0 within FIXED1, the adjustment meets the fixed bits. -/
theorem adjustFixed_ok {fixed0 fixed1 : Nat} (h : BitsLe fixed0 fixed1) (cr : Nat) :
    FixedOk fixed0 fixed1 cr (adjustFixed fixed0 fixed1 cr) := by
  rw [bitsLe_iff] at h
  refine ⟨bitsLe_iff.2 fun i hi => ?_, bitsLe_iff.2 fun i hi => ?_, fun i h0 h1 => ?_, ?_⟩
  · simp [adjustFixed, hi]
  · simp only [adjustFixed, Nat.testBit_or, Nat.testBit_and, Bool.or_eq_true, Bool.and_eq_true] at hi
    exact hi.elim And.right (h i)
  · simp [adjustFixed, h0, h1]
  · apply Nat.eq_of_testBit_eq
    intro i
    cases h0 : fixed0.testBit i <;> simp [adjustFixed, h0]

end Capability
