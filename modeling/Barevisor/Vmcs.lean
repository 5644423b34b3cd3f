import Barevisor.Basic

/-! # The VMCS — field encodings, `vmread` and `vmwrite`

    Once current, the VMCS is reached only through `vmread` and `vmwrite` with a
    32-bit field encoding.  We model it as a map from encodings to values: a
    `vmwrite` updates one field, a `vmread` reads it back.  Bits 11:10 of an
    encoding give the field's kind (Appendix B of the SDM): control, read-only
    exit information, guest state or host state.

    The encodings below are those of the `x86` crate's `vmcs` module that the
    hypervisor uses; the segment fields are numbered by segment, as in the SDM. -/

namespace Vmx

/-- The current VMCS: the value `vmread` returns for each field encoding. -/
@[ext] structure Vmcs where
  read : Nat → Nat

/-- `vmwrite(encoding, value)`. -/
def Vmcs.write (v : Vmcs) (encoding value : Nat) : Vmcs := ⟨Function.update v.read encoding value⟩

/-- A run of `vmwrite`s, in order. -/
def Vmcs.writeAll (v : Vmcs) (ws : List (Nat × Nat)) : Vmcs := ws.foldl (fun v w => v.write w.1 w.2) v

/-- A field reads the last value written to it. -/
@[simp] theorem Vmcs.write_read (v : Vmcs) (e x e' : Nat) :
    (v.write e x).read e' = if e' = e then x else v.read e' :=
  Function.update_apply _ _ _ _

/-- No writes leave the VMCS. -/
@[simp] theorem Vmcs.writeAll_nil (v : Vmcs) : v.writeAll [] = v := rfl

/-- A run of writes is its first write, then the rest. -/
@[simp] theorem Vmcs.writeAll_cons (v : Vmcs) (w : Nat × Nat) (ws : List (Nat × Nat)) :
    v.writeAll (w :: ws) = (v.write w.1 w.2).writeAll ws := rfl

/-- **FRAME**: a field no write of the run names keeps its value. -/
theorem Vmcs.writeAll_read_of_forall_ne {ws : List (Nat × Nat)} {e : Nat} (h : ∀ w ∈ ws, w.1 ≠ e)
    (v : Vmcs) : (v.writeAll ws).read e = v.read e := by
  induction ws generalizing v with
  | nil => rfl
  | cons w ws ih =>
    rw [writeAll_cons, ih (fun w' hw' => h w' (List.mem_cons_of_mem _ hw')), write_read,
      if_neg (Ne.symm (h w (List.mem_cons_self _ _)))]

/-- Writing back the value a field holds changes nothing. -/
theorem Vmcs.write_read_self (v : Vmcs) (e : Nat) : v.write e (v.read e) = v :=
  Vmcs.ext (Function.update_eq_self _ _)

/-- Bits 11:10 of an encoding: 0 control, 1 read-only data, 2 guest state, 3 host state. -/
def fieldType (encoding : Nat) : Nat := encoding / 2 ^ 10 % 4

/-- A run of writes touching only fields of type `t` leaves every other field. -/
theorem Vmcs.writeAll_read_of_fieldType {ws : List (Nat × Nat)} {t e : Nat}
    (hws : ∀ k ∈ ws.map Prod.fst, fieldType k = t) (he : fieldType e ≠ t) (v : Vmcs) :
    (v.writeAll ws).read e = v.read e :=
  Vmcs.writeAll_read_of_forall_ne (fun w hw hwe => he (by rw [← hwe]; exact hws _ (List.mem_map_of_mem _ hw))) v

/-! ## Encodings -/

/-- The segment registers, in the order of their VMCS fields. -/
inductive Segment
  | es
  | cs
  | ss
  | ds
  | fs
  | gs
  | ldtr
  | tr
  deriving DecidableEq, Repr

/-- A segment's index in the encodings of its guest fields. -/
def Segment.index : Segment → Nat
  | .es => 0
  | .cs => 1
  | .ss => 2
  | .ds => 3
  | .fs => 4
  | .gs => 5
  | .ldtr => 6
  | .tr => 7

namespace Guest

/-- `guest::ES_SELECTOR` .. `guest::TR_SELECTOR`. -/
def selector (s : Segment) : Nat := 0x800 + 2 * s.index
/-- `guest::ES_LIMIT` .. `guest::TR_LIMIT`. -/
def limit (s : Segment) : Nat := 0x4800 + 2 * s.index
/-- `guest::ES_ACCESS_RIGHTS` .. `guest::TR_ACCESS_RIGHTS`. -/
def accessRights (s : Segment) : Nat := 0x4814 + 2 * s.index
/-- `guest::ES_BASE` .. `guest::TR_BASE`. -/
def base (s : Segment) : Nat := 0x6806 + 2 * s.index
/-- `guest::LINK_PTR_FULL`. -/
def linkPtrFull : Nat := 0x2800
/-- `guest::IA32_EFER_FULL`. -/
def ia32EferFull : Nat := 0x2806
/-- `guest::GDTR_LIMIT`. -/
def gdtrLimit : Nat := 0x4810
/-- `guest::IDTR_LIMIT`. -/
def idtrLimit : Nat := 0x4812
/-- `guest::ACTIVITY_STATE`. -/
def activityState : Nat := 0x4826
/-- `guest::IA32_SYSENTER_CS`. -/
def ia32SysenterCs : Nat := 0x482A
/-- `guest::CR0`. -/
def cr0 : Nat := 0x6800
/-- `guest::CR3`. -/
def cr3 : Nat := 0x6802
/-- `guest::CR4`. -/
def cr4 : Nat := 0x6804
/-- `guest::GDTR_BASE`. -/
def gdtrBase : Nat := 0x6816
/-- `guest::IDTR_BASE`. -/
def idtrBase : Nat := 0x6818
/-- `guest::RSP`. -/
def rsp : Nat := 0x681C
/-- `guest::RIP`. -/
def rip : Nat := 0x681E
/-- `guest::RFLAGS`. -/
def rflags : Nat := 0x6820
/-- `guest::IA32_SYSENTER_ESP`. -/
def ia32SysenterEsp : Nat := 0x6824
/-- `guest::IA32_SYSENTER_EIP`. -/
def ia32SysenterEip : Nat := 0x6826

end Guest

namespace Host

/-- `host::ES_SELECTOR`. -/
def esSelector : Nat := 0xC00
/-- `host::CS_SELECTOR`. -/
def csSelector : Nat := 0xC02
/-- `host::SS_SELECTOR`. -/
def ssSelector : Nat := 0xC04
/-- `host::DS_SELECTOR`. -/
def dsSelector : Nat := 0xC06
/-- `host::FS_SELECTOR`. -/
def fsSelector : Nat := 0xC08
/-- `host::GS_SELECTOR`. -/
def gsSelector : Nat := 0xC0A
/-- `host::TR_SELECTOR`. -/
def trSelector : Nat := 0xC0C
/-- `host::CR0`. -/
def cr0 : Nat := 0x6C00
/-- `host::CR3`. -/
def cr3 : Nat := 0x6C02
/-- `host::CR4`. -/
def cr4 : Nat := 0x6C04
/-- `host::FS_BASE`. -/
def fsBase : Nat := 0x6C06
/-- `host::GS_BASE`. -/
def gsBase : Nat := 0x6C08
/-- `host::TR_BASE`. -/
def trBase : Nat := 0x6C0A
/-- `host::GDTR_BASE`. -/
def gdtrBase : Nat := 0x6C0C
/-- `host::IDTR_BASE`. -/
def idtrBase : Nat := 0x6C0E

end Host

namespace Control

/-- `control::PINBASED_EXEC_CONTROLS`. -/
def pinbasedExecControls : Nat := 0x4000
/-- `control::PRIMARY_PROCBASED_EXEC_CONTROLS`. -/
def primaryProcbasedExecControls : Nat := 0x4002
/-- `control::VMEXIT_CONTROLS`. -/
def vmexitControls : Nat := 0x400C
/-- `control::VMENTRY_CONTROLS`. -/
def vmentryControls : Nat := 0x4012
/-- `control::SECONDARY_PROCBASED_EXEC_CONTROLS`. -/
def secondaryProcbasedExecControls : Nat := 0x401E
/-- `control::MSR_BITMAPS_ADDR_FULL`. -/
def msrBitmapsAddrFull : Nat := 0x2004
/-- `control::EPTP_FULL`. -/
def eptpFull : Nat := 0x201A
/-- `control::CR0_READ_SHADOW`. -/
def cr0ReadShadow : Nat := 0x6004
/-- `control::CR4_READ_SHADOW`. -/
def cr4ReadShadow : Nat := 0x6006

end Control

namespace Ro

/-- `ro::EXIT_REASON`. -/
def exitReason : Nat := 0x4402
/-- `ro::VMEXIT_INSTRUCTION_LEN`. -/
def vmexitInstructionLen : Nat := 0x440C
/-- `ro::EXIT_QUALIFICATION`. -/
def exitQualification : Nat := 0x6400

end Ro

/-! ## Kinds of fields -/

/-- The four fields of a guest segment are guest-state fields. -/
theorem fieldType_guest_segment (s : Segment) :
    fieldType (Guest.selector s) = 2 ∧ fieldType (Guest.limit s) = 2 ∧
      fieldType (Guest.accessRights s) = 2 ∧ fieldType (Guest.base s) = 2 := by
  cases s <;> decide

end Vmx
