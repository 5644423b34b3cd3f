import Barevisor.Basic

/-! # The EPT identity map — `hypervisor/intel/epts.rs`

    `Epts::build_identity` fills one PML4, one PDPT, 512 PDs and one PT so that
    guest-physical memory below 512 GiB maps to itself: the first 2 MiB through
    4 KiB PT entries, everything above through 2 MiB PD entries.  Every leaf
    carries the memory type the MTRRs report for the range it maps, and a
    failed lookup panics.  `Epts::eptp` names the PML4 to the processor.

    `Mtrr::find` is an oracle `Range → Option MemoryType`, and the platform's
    `pa` applied to the address of each of the 515 tables a map
    `EptTable → Nat`.  This file embeds the builder and proves its closed form:
    `buildIdentity_eq_some` (every lookup succeeds: the tables are `built …`)
    and `resolves_of_buildIdentity_isSome` (the builder only completes when
    every lookup succeeds). -/

namespace Ept

open Bitfield Paging

/-- Modelled from the spec: the memory types of the MTRR reader (§3, "MTRR model"),
    which the hypervisor stores into EPT entries by their architectural codes. -/
inductive MemoryType
  | uncacheable
  | writeCombining
  | writeThrough
  | writeProtected
  | writeBack
  deriving DecidableEq, Repr

/-- Modelled from the spec: `memory_type as u64`. -/
def MemoryType.code : MemoryType → Nat
  | .uncacheable => 0
  | .writeCombining => 1
  | .writeThrough => 4
  | .writeProtected => 5
  | .writeBack => 6

/-- Every memory-type code fits the 3-bit field. -/
theorem MemoryType.code_lt (m : MemoryType) : m.code < 8 := by cases m <;> decide

/-- The half-open range `start..end` handed to `Mtrr::find`. -/
structure Range where
  start : Nat
  stop : Nat
  deriving DecidableEq, Repr

/-! ## Entries (Figure 29-1) -/

namespace Entry

/-- `readable, set_readable: 0`. -/
def readable (e : Nat) : Bool := bit e 0
def setReadable (e : Nat) (b : Bool) : Nat := setBit e 0 b
/-- `writable, set_writable: 1`. -/
def writable (e : Nat) : Bool := bit e 1
def setWritable (e : Nat) (b : Bool) : Nat := setBit e 1 b
/-- `executable, set_executable: 2`. -/
def executable (e : Nat) : Bool := bit e 2
def setExecutable (e : Nat) (b : Bool) : Nat := setBit e 2 b
/-- `memory_type, set_memory_type: 5, 3`. -/
def memoryType (e : Nat) : Nat := bitRange e 3 3
def setMemoryType (e v : Nat) : Nat := setBitRange e 3 3 v
/-- `large, set_large: 7`. -/
def large (e : Nat) : Bool := bit e 7
def setLarge (e : Nat) (b : Bool) : Nat := setBit e 7 b
/-- `pfn, set_pfn: 51, 12`. -/
def pfn (e : Nat) : Nat := bitRange e 12 40
def setPfn (e v : Nat) : Nat := setBitRange e 12 40 v

/-- `set_readable(true); set_writable(true); set_executable(true)`, the prefix of
    every entry `build_identity` writes. -/
def setRwx (e : Nat) : Nat := setExecutable (setWritable (setReadable e true) true) true

/-- A PML4E, PDPTE or PDE pointing at the next table, at physical address `next`. -/
def link (e next : Nat) : Nat := setPfn (setRwx e) (next >>> basePageShift)

/-- A 4 KiB PTE mapping the page at `pa` with memory type `mt`. -/
def page (e : Nat) (mt : MemoryType) (pa : Nat) : Nat :=
  setPfn (setMemoryType (setRwx e) mt.code) (pa >>> basePageShift)

/-- A 2 MiB PDE (`large` set) mapping the region at `pa` with memory type `mt`. -/
def largePage (e : Nat) (mt : MemoryType) (pa : Nat) : Nat :=
  setPfn (setLarge (setMemoryType (setRwx e) mt.code) true) (pa >>> basePageShift)

end Entry

/-! ## The EPT pointer (Table 25-9) -/

namespace EptPointer

/-- `memory_type, set_memory_type: 2, 0`. -/
def memoryType (p : Nat) : Nat := bitRange p 0 3
def setMemoryType (p v : Nat) : Nat := setBitRange p 0 3 v
/-- `page_levels_minus_one, set_page_levels_minus_one: 5, 3`. -/
def pageLevelsMinusOne (p : Nat) : Nat := bitRange p 3 3
def setPageLevelsMinusOne (p v : Nat) : Nat := setBitRange p 3 3 v
/-- `pfn, set_pfn: 51, 12`. -/
def pfn (p : Nat) : Nat := bitRange p 12 40
def setPfn (p v : Nat) : Nat := setBitRange p 12 40 v

end EptPointer

/-! ## Tables and the builder -/

/-- `Epts`: the PML4, the PDPT, `pd: [Pd; 512]` and the PT of the first 2 MiB. -/
@[ext] structure Epts where
  pml4 : Table
  pdpt : Table
  pd : Nat → Table
  pt : Table

/-- The `Epts` of `zeroed_box::<Epts>()`. -/
def Epts.zeroed : Epts := ⟨.zeroed, .zeroed, fun _ => .zeroed, .zeroed⟩

/-- `self.pd[i].entries[j] = e`. -/
def Epts.setPd (t : Epts) (i j e : Nat) : Epts :=
  { t with pd := Function.update t.pd i ((t.pd i).set j e) }

/-- Entry `j'` of `pd[i']` after writing entry `j` of `pd[i]`. -/
@[simp] theorem Epts.setPd_pd_entries (t : Epts) (i j e i' j' : Nat) :
    ((t.setPd i j e).pd i').entries j'
      = if i' = i ∧ j' = j then e else (t.pd i').entries j' := by
  by_cases h : i' = i <;> simp [Epts.setPd, Function.update_apply, h]

/-- Writing a PD entry leaves the PML4. -/
@[simp] theorem Epts.setPd_pml4 (t : Epts) (i j e : Nat) : (t.setPd i j e).pml4 = t.pml4 := rfl
/-- Writing a PD entry leaves the PDPT. -/
@[simp] theorem Epts.setPd_pdpt (t : Epts) (i j e : Nat) : (t.setPd i j e).pdpt = t.pdpt := rfl
/-- Writing a PD entry leaves the PT. -/
@[simp] theorem Epts.setPd_pt (t : Epts) (i j e : Nat) : (t.setPd i j e).pt = t.pt := rfl

/-- The 515 tables of an `Epts`, each placed at a physical address by `platform_ops::pa`. -/
inductive EptTable
  | pml4
  | pdpt
  | pd (i : Fin 512)
  | pt
  deriving DecidableEq, Repr

/-- The innermost loop body: the PTE for the 4 KiB page at `pa`, typed by the MTRRs. -/
def ptStep (find : Range → Option MemoryType) : Epts × Nat → Nat → Option (Epts × Nat)
  | (t, pa), k => do
      let mt ← find ⟨pa, pa + basePageSize⟩
      pure ({ t with pt := t.pt.set k (Entry.page (t.pt.entries k) mt pa) }, pa + basePageSize)

/-- The PD loop body for `self.pd[i]`: while `pa == 0` link the PT and fill it,
    otherwise a 2 MiB page typed by the MTRRs. -/
def pdeStep (find : Range → Option MemoryType) (tablePa : EptTable → Nat) (i : Nat) :
    Epts × Nat → Nat → Option (Epts × Nat)
  | (t, pa), j =>
      if pa = 0 then
        (List.range 512).foldlM (ptStep find)
          (t.setPd i j (Entry.link ((t.pd i).entries j) (tablePa .pt)), pa)
      else do
        let mt ← find ⟨pa, pa + largePageSize⟩
        pure (t.setPd i j (Entry.largePage ((t.pd i).entries j) mt pa), pa + largePageSize)

/-- The PDPT loop body: link `self.pd[i]`, then run its PD loop. -/
def pdpteStep (find : Range → Option MemoryType) (tablePa : EptTable → Nat) :
    Epts × Nat → Nat → Option (Epts × Nat)
  | (t, pa), i =>
      (List.range 512).foldlM (pdeStep find tablePa i)
        ({ t with pdpt := t.pdpt.set i (Entry.link (t.pdpt.entries i) (tablePa (.pd (Fin.ofNat i)))) },
          pa)

/-- `Epts::build_identity`; `none` is a panic on a failed MTRR lookup. -/
def buildIdentity (find : Range → Option MemoryType) (tablePa : EptTable → Nat) (t : Epts) :
    Option Epts :=
  Prod.fst <$> (List.range 512).foldlM (pdpteStep find tablePa)
    ({ t with pml4 := t.pml4.set 0 (Entry.link (t.pml4.entries 0) (tablePa .pdpt)) }, 0)

/-- `Epts::eptp`: write-back walks of length 4 from the PML4, which sits at the
    address of the `Epts` itself. -/
def eptp (tablePa : EptTable → Nat) : Nat :=
  EptPointer.setPageLevelsMinusOne
    (EptPointer.setMemoryType (EptPointer.setPfn 0 (tablePa .pml4 >>> basePageShift))
      MemoryType.writeBack.code) 3

/-! ## The closed form of the builder -/

open Loop

variable (find : Range → Option MemoryType) (tablePa : EptTable → Nat)
  (m4 m2 : Nat → MemoryType)

/-- The 4 KiB range of PT entry `k`. -/
def pageRange (k : Nat) : Range := ⟨k * basePageSize, k * basePageSize + basePageSize⟩

/-- The 2 MiB range of the flat PD slot `m = 512 * i + j`. -/
def largeRange (m : Nat) : Range := ⟨m * largePageSize, m * largePageSize + largePageSize⟩

/-- Every MTRR lookup `build_identity` makes succeeds. -/
def Resolves : Prop :=
  (∀ k < 512, (find (pageRange k)).isSome) ∧
    ∀ m, 0 < m → m < 512 * 512 → (find (largeRange m)).isSome

/-- The resolved types `m4` (per PT entry) and `m2` (per PD slot) are what `find`
    returns wherever it succeeds. -/
def Agrees : Prop :=
  (∀ k mt, find (pageRange k) = some mt → m4 k = mt) ∧
    ∀ m mt, find (largeRange m) = some mt → m2 m = mt

/-- The PDE of flat slot `m`: the PT link for `m = 0`, else a 2 MiB page. -/
def pdeAt (m : Nat) : Nat :=
  if m = 0 then Entry.link 0 (tablePa .pt) else Entry.largePage 0 (m2 m) (m * largePageSize)

/-- The tables once the builder has linked `p` PDPTEs and written `d` PDEs. -/
def built (p d : Nat) : Epts where
  pml4 := Table.zeroed.set 0 (Entry.link 0 (tablePa .pdpt))
  pdpt := ⟨fun i => if i < p then Entry.link 0 (tablePa (.pd (Fin.ofNat i))) else 0⟩
  pd i := ⟨fun j => if j < 512 ∧ 512 * i + j < d then pdeAt tablePa m2 (512 * i + j) else 0⟩
  pt := ⟨fun k => if k < 512 ∧ 0 < d then Entry.page 0 (m4 k) (k * basePageSize) else 0⟩

/-- The state inside the PT loop once `n` PTEs are written. -/
def withPt (t : Epts) (n : Nat) : Epts :=
  { t with pt := ⟨fun k => if k < n then Entry.page (t.pt.entries k) (m4 k) (k * basePageSize)
      else t.pt.entries k⟩ }

/-! ## The PT loop -/

/-- With no PT entry written yet, the tables are unchanged. -/
theorem withPt_zero (t : Epts) : withPt m4 t 0 = t := by ext <;> simp [withPt]

/-- **PT STEP**: where `find` resolves page `k`, iteration `k` writes PT entry `k`. -/
theorem ptStep_withPt (t : Epts) (k : Nat) (hf : find (pageRange k) = some (m4 k)) :
    ptStep find (withPt m4 t k, k * basePageSize) k
      = some (withPt m4 t (k + 1), (k + 1) * basePageSize) := by
  simp only [ptStep, pageRange] at hf ⊢
  simp only [hf, Option.bind_eq_bind, Option.some_bind, Option.pure_def, Option.some.injEq,
    Prod.mk.injEq, Nat.succ_mul, and_true]
  ext k' <;> simp only [withPt, Table.set_entries, lt_self_iff_false, if_false]
  exact ite_succ (fun k => Entry.page (t.pt.entries k) (m4 k) (k * basePageSize)) _ k k'

/-- **PT LOOP**: where `find` resolves every page, the PT loop writes all 512 entries. -/
theorem ptLoop_eq (t : Epts) (hf : ∀ k < 512, find (pageRange k) = some (m4 k)) :
    (List.range 512).foldlM (ptStep find) (t, 0) = some (withPt m4 t 512, largePageSize) := by
  have h := foldlM_range_of_step (ptStep find) (fun k => (withPt m4 t k, k * basePageSize)) 512
    fun k hk => ptStep_withPt find m4 t k (hf k hk)
  simpa [withPt_zero] using h

/-- Inversion of the PT loop body: it succeeds exactly on a successful lookup. -/
theorem ptStep_eq_some {t : Epts} {pa k : Nat} {r : Epts × Nat} :
    ptStep find (t, pa) k = some r ↔ ∃ mt, find ⟨pa, pa + basePageSize⟩ = some mt ∧
      r = ({ t with pt := t.pt.set k (Entry.page (t.pt.entries k) mt pa) }, pa + basePageSize) := by
  cases h : find ⟨pa, pa + basePageSize⟩ <;> simp [ptStep, h, eq_comm]

/-- A PT iteration that returns wrote the entry the closed form gives. -/
theorem ptStep_det (hm : Agrees find m4 m2) (t : Epts) (k : Nat) (r : Epts × Nat)
    (h : ptStep find (withPt m4 t k, k * basePageSize) k = some r) :
    r = (withPt m4 t (k + 1), (k + 1) * basePageSize) := by
  obtain ⟨mt, hf, -⟩ := (ptStep_eq_some find).mp h
  rw [← hm.1 k mt hf] at hf
  rw [ptStep_withPt find m4 t k hf] at h
  exact (Option.some.inj h).symm

/-- A PT loop that returns resolved every page of the first 2 MiB. -/
theorem ptLoop_resolves (t : Epts) (hm : Agrees find m4 m2)
    (h : ((List.range 512).foldlM (ptStep find) (t, 0)).isSome) :
    ∀ k < 512, (find (pageRange k)).isSome := by
  intro k hk
  have hs := step_of_foldlM_range_isSome (ptStep find) (fun k => (withPt m4 t k, k * basePageSize))
    512 (fun k _ => ptStep_det find m4 m2 hm t k) (by simpa [withPt_zero] using h) k hk
  obtain ⟨mt, hf, -⟩ := (ptStep_eq_some find).mp hs
  simp [pageRange, hf]

/-! ## The PD loop -/

/-- The state in the PD loop of row `i` once `j` of its PDEs are written. -/
def rowState (i j : Nat) : Epts × Nat :=
  (built tablePa m4 m2 (i + 1) (512 * i + j), (512 * i + j) * largePageSize)

/-- The PD entries of the closed form: the first `d` of the identity map, then zero. -/
theorem built_pd_entries (p d i j : Nat) :
    ((built tablePa m4 m2 p d).pd i).entries j
      = if j < 512 ∧ 512 * i + j < d then pdeAt tablePa m2 (512 * i + j) else 0 := rfl

/-- Every PDE after the first is a 2 MiB page of the identity map. -/
theorem pdeAt_of_pos {m : Nat} (hm : 0 < m) :
    pdeAt tablePa m2 m = Entry.largePage 0 (m2 m) (m * largePageSize) := by
  simp [pdeAt, Nat.pos_iff_ne_zero.mp hm]

/-- The first PDE links the PT and fills it. -/
theorem pdeStep_first (hf : ∀ k < 512, find (pageRange k) = some (m4 k)) :
    pdeStep find tablePa 0 (built tablePa m4 m2 1 0, 0) 0
      = some (built tablePa m4 m2 1 1, largePageSize) := by
  simp only [pdeStep, if_true, built_pd_entries]
  rw [ptLoop_eq find m4 _ hf]
  congr 2
  ext i j <;> simp [built, withPt, pdeAt]
  split_ifs <;> first | rfl | omega

/-- Every later PDE is a 2 MiB page typed by the lookup of its region. -/
theorem pdeStep_large (i j : Nat) (hj : j < 512) (hm : 0 < 512 * i + j)
    (hf : find (largeRange (512 * i + j)) = some (m2 (512 * i + j))) :
    pdeStep find tablePa i (rowState tablePa m4 m2 i j) j = some (rowState tablePa m4 m2 i (j + 1)) := by
  have hpa : (512 * i + j) * largePageSize ≠ 0 := by simp [largePageSize]; omega
  simp only [rowState, pdeStep, hpa, if_false, largeRange] at hf ⊢
  simp only [hf, Option.bind_eq_bind, Option.some_bind, Option.pure_def, Option.some.injEq,
    Prod.mk.injEq]
  refine ⟨?_, by ring⟩
  ext i' j' <;> simp only [built, Epts.setPd_pd_entries, Epts.setPd_pt, Epts.setPd_pml4, Epts.setPd_pdpt]
  · by_cases h : i' = i ∧ j' = j
    · obtain ⟨rfl, rfl⟩ := h
      simp [hj, pdeAt, Nat.pos_iff_ne_zero.mp hm]
    · rw [if_neg h]
      split_ifs <;> first | rfl | omega
  · split_ifs <;> first | rfl | omega

/-- A page lookup that succeeds gives the type `m4` records. -/
theorem Agrees.page_eq (hm : Agrees find m4 m2) {k : Nat} (h : (find (pageRange k)).isSome) :
    find (pageRange k) = some (m4 k) := by
  obtain ⟨mt, hf⟩ := Option.isSome_iff_exists.mp h
  rw [hf, hm.1 k mt hf]

/-- A 2 MiB lookup that succeeds gives the type `m2` records. -/
theorem Agrees.large_eq (hm : Agrees find m4 m2) {m : Nat} (h : (find (largeRange m)).isSome) :
    find (largeRange m) = some (m2 m) := by
  obtain ⟨mt, hf⟩ := Option.isSome_iff_exists.mp h
  rw [hf, hm.2 m mt hf]

/-- **PD STEP**: where `find` resolves, iteration `j` of row `i` writes PDE `512 * i + j`. -/
theorem pdeStep_row (h4 : ∀ k < 512, find (pageRange k) = some (m4 k))
    (h2 : ∀ m, 0 < m → m < 512 * 512 → find (largeRange m) = some (m2 m))
    {i j : Nat} (hi : i < 512) (hj : j < 512) :
    pdeStep find tablePa i (rowState tablePa m4 m2 i j) j = some (rowState tablePa m4 m2 i (j + 1)) := by
  rcases Nat.eq_zero_or_pos (512 * i + j) with hm | hm
  · obtain ⟨rfl, rfl⟩ : i = 0 ∧ j = 0 := by omega
    simpa [rowState] using pdeStep_first find tablePa m4 m2 h4
  · exact pdeStep_large find tablePa m4 m2 i j hj hm (h2 _ hm (by omega))

/-- What a completed PD-loop iteration needed from the MTRRs. -/
theorem pdeStep_resolves (hm : Agrees find m4 m2) {i j : Nat}
    (h : (pdeStep find tablePa i (rowState tablePa m4 m2 i j) j).isSome) :
    (512 * i + j = 0 → ∀ k < 512, (find (pageRange k)).isSome) ∧
      (0 < 512 * i + j → (find (largeRange (512 * i + j))).isSome) := by
  refine ⟨fun h0 => ?_, fun h0 => ?_⟩
  · obtain ⟨rfl, rfl⟩ : i = 0 ∧ j = 0 := by omega
    exact ptLoop_resolves find m4 m2 _ hm (by simpa [rowState, pdeStep] using h)
  · have hpa : (512 * i + j) * largePageSize ≠ 0 := by simp [largePageSize]; omega
    cases hf : find (largeRange (512 * i + j)) with
    | none => simp [rowState, pdeStep, hpa, largeRange] at h hf; simp [hf] at h
    | some mt => rfl

/-- A PD iteration that returns wrote the entry the closed form gives. -/
theorem pdeStep_det (hm : Agrees find m4 m2) {i j : Nat} (hj : j < 512) (r : Epts × Nat)
    (h : pdeStep find tablePa i (rowState tablePa m4 m2 i j) j = some r) :
    r = rowState tablePa m4 m2 i (j + 1) := by
  have hres := pdeStep_resolves find tablePa m4 m2 hm (by rw [h]; rfl)
  rcases Nat.eq_zero_or_pos (512 * i + j) with h0 | h0
  · obtain ⟨rfl, rfl⟩ : i = 0 ∧ j = 0 := by omega
    have h4 := fun k hk => hm.page_eq find m4 m2 (hres.1 h0 k hk)
    have := pdeStep_first find tablePa m4 m2 h4
    simp only [rowState] at h ⊢
    simp_all
  · rw [pdeStep_large find tablePa m4 m2 i j hj h0 (hm.large_eq find m4 m2 (hres.2 h0))] at h
    exact (Option.some.inj h).symm

/-! ## The PDPT loop and the whole builder -/

/-- The state of the PDPT loop once `i` of its rows are done. -/
def outerState (i : Nat) : Epts × Nat :=
  (built tablePa m4 m2 i (512 * i), 512 * i * largePageSize)

/-- Iteration `i` of the PDPT loop links `self.pd[i]` and runs row `i`. -/
theorem pdpteStep_outerState (i : Nat) :
    pdpteStep find tablePa (outerState tablePa m4 m2 i) i
      = (List.range 512).foldlM (pdeStep find tablePa i) (rowState tablePa m4 m2 i 0) := by
  simp only [pdpteStep, outerState, rowState, Nat.add_zero]
  congr 2
  ext i' j' <;> simp only [built, Table.set_entries, lt_self_iff_false, if_false]
  exact ite_succ (fun i => Entry.link 0 (tablePa (.pd (Fin.ofNat i)))) 0 i i'

/-- The end of row `i` is the start of row `i + 1`. -/
theorem rowState_last (i : Nat) :
    rowState tablePa m4 m2 i 512 = outerState tablePa m4 m2 (i + 1) := by
  simp only [rowState, outerState, Nat.mul_succ]

theorem pdpteStep_outer (h4 : ∀ k < 512, find (pageRange k) = some (m4 k))
    (h2 : ∀ m, 0 < m → m < 512 * 512 → find (largeRange m) = some (m2 m)) {i : Nat} (hi : i < 512) :
    pdpteStep find tablePa (outerState tablePa m4 m2 i) i
      = some (outerState tablePa m4 m2 (i + 1)) := by
  rw [pdpteStep_outerState, ← rowState_last]
  exact foldlM_range_of_step _ (rowState tablePa m4 m2 i) 512
    fun j hj => pdeStep_row find tablePa m4 m2 h4 h2 hi hj

/-- An outer iteration that returns reached the closed form of the next row. -/
theorem pdpteStep_det (hm : Agrees find m4 m2) (i : Nat) (r : Epts × Nat)
    (h : pdpteStep find tablePa (outerState tablePa m4 m2 i) i = some r) :
    r = outerState tablePa m4 m2 (i + 1) := by
  rw [pdpteStep_outerState] at h
  have hsteps := step_of_foldlM_range_isSome _ (rowState tablePa m4 m2 i) 512
    (fun j hj => pdeStep_det find tablePa m4 m2 hm hj) (by rw [h]; rfl)
  rw [foldlM_range_of_step _ _ 512 hsteps, rowState_last] at h
  exact (Option.some.inj h).symm

/-- The builder starts from `built 0 0`: only the PML4 entry is written. -/
theorem outerState_zero :
    outerState tablePa m4 m2 0 = ({ Epts.zeroed with
      pml4 := Epts.zeroed.pml4.set 0 (Entry.link (Epts.zeroed.pml4.entries 0) (tablePa .pdpt)) }, 0) := by
  simp only [outerState, Nat.mul_zero, Nat.zero_mul, Prod.mk.injEq, and_true]
  ext i j <;> simp [built, Epts.zeroed]

/-- **CLOSED FORM**: when every lookup succeeds, `build_identity` completes and its
    tables are `built … 512 (512 * 512)`. -/
theorem buildIdentity_eq_some (h4 : ∀ k < 512, find (pageRange k) = some (m4 k))
    (h2 : ∀ m, 0 < m → m < 512 * 512 → find (largeRange m) = some (m2 m)) :
    buildIdentity find tablePa Epts.zeroed = some (built tablePa m4 m2 512 (512 * 512)) := by
  rw [buildIdentity, ← outerState_zero tablePa m4 m2,
    foldlM_range_of_step _ _ 512 fun i hi => pdpteStep_outer find tablePa m4 m2 h4 h2 hi]
  rfl

/-- The type `find` resolves for PT entry `k` (write-back where it fails). -/
def pageType (k : Nat) : MemoryType := (find (pageRange k)).getD .writeBack

/-- The type `find` resolves for PD slot `m` (write-back where it fails). -/
def largeType (m : Nat) : MemoryType := (find (largeRange m)).getD .writeBack

/-- `pageType` and `largeType` record what `find` resolves. -/
theorem agrees_types : Agrees find (pageType find) (largeType find) :=
  ⟨fun k mt h => by simp [pageType, h], fun m mt h => by simp [largeType, h]⟩

/-- When every lookup succeeds the builder completes with the resolved types. -/
theorem buildIdentity_of_resolves (hres : Resolves find) :
    buildIdentity find tablePa Epts.zeroed
      = some (built tablePa (pageType find) (largeType find) 512 (512 * 512)) :=
  buildIdentity_eq_some find tablePa _ _
    (fun k hk => (agrees_types find).page_eq find _ _ (hres.1 k hk))
    (fun m h0 h1 => (agrees_types find).large_eq find _ _ (hres.2 m h0 h1))

/-- **ONLY ON SUCCESS**: `build_identity` completes only if every lookup it makes
    succeeds. -/
theorem resolves_of_buildIdentity_isSome (h : (buildIdentity find tablePa Epts.zeroed).isSome) :
    Resolves find := by
  have hm := agrees_types find
  have hout := step_of_foldlM_range_isSome _ (outerState tablePa (pageType find) (largeType find)) 512
    (fun i _ => pdpteStep_det find tablePa _ _ hm i)
    (by rw [outerState_zero]; simpa [buildIdentity] using h)
  have hrow : ∀ i < 512, ∀ j < 512,
      (pdeStep find tablePa i (rowState tablePa (pageType find) (largeType find) i j) j).isSome := by
    intro i hi j hj
    have hr := hout i hi
    rw [pdpteStep_outerState, ← rowState_last] at hr
    have := step_of_foldlM_range_isSome _ (rowState tablePa _ _ i) 512
      (fun j hj => pdeStep_det find tablePa _ _ hm hj) (by rw [hr]; rfl) j hj
    rw [this]; rfl
  refine ⟨fun k hk => (pdeStep_resolves find tablePa _ _ hm (hrow 0 (by omega) 0 (by omega))).1
    rfl k hk, fun m h0 hm' => ?_⟩
  have := (pdeStep_resolves find tablePa _ _ hm
    (hrow (m / 512) (by omega) (m % 512) (Nat.mod_lt _ (by omega)))).2 (by omega)
  rwa [Nat.div_add_mod] at this

end Ept
