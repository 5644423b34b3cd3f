import Barevisor.Basic

/-! # Host and nested page tables — `hypervisor/paging_structures.rs`

    `build_identity_internal(ps, npt)` fills a PML4, a PDPT, 512 PDs and a PT
    with an identity map of the first 512 GiB, for the host (`npt = false`) or
    as AMD nested page tables (`npt = true`, every entry user-accessible).  For
    the host the first 2 MiB go through the PT so that the null page can be made
    non-present; for NPT every PD entry is a 2 MiB page.  The loops cannot fail.

    `platform_ops::pa` applied to each of the 516 tables is a map
    `PsTable → Nat`.  We embed the builder and compute what it leaves in every
    entry (`buildIdentityInternal_eq`). -/

namespace PagingStructures

open Bitfield Paging Loop

/-! ## Entries -/

namespace Entry

/-- `present, set_present: 0`. -/
def present (e : Nat) : Bool := bit e 0
def setPresent (e : Nat) (b : Bool) : Nat := setBit e 0 b
/-- `writable, set_writable: 1`. -/
def writable (e : Nat) : Bool := bit e 1
def setWritable (e : Nat) (b : Bool) : Nat := setBit e 1 b
/-- `user, set_user: 2`. -/
def user (e : Nat) : Bool := bit e 2
def setUser (e : Nat) (b : Bool) : Nat := setBit e 2 b
/-- `large, set_large: 7`. -/
def large (e : Nat) : Bool := bit e 7
def setLarge (e : Nat) (b : Bool) : Nat := setBit e 7 b
/-- `pfn, set_pfn: 51, 12`. -/
def pfn (e : Nat) : Nat := bitRange e 12 40
def setPfn (e v : Nat) : Nat := setBitRange e 12 40 v

/-- `set_present(true); set_writable(true); set_user(user)`. -/
def setPwu (e : Nat) (user : Bool) : Nat := setUser (setWritable (setPresent e true) true) user

/-- A table link or a 4 KiB page: the `set_present`, `set_writable`, `set_user`,
    `set_pfn(pa >> BASE_PAGE_SHIFT)` sequence. -/
def mapTo (e pa : Nat) (user : Bool) : Nat := setPfn (setPwu e user) (pa >>> basePageShift)

/-- A 2 MiB page: the same sequence with `set_large(true)` before the frame. -/
def largePage (e pa : Nat) (user : Bool) : Nat :=
  setPfn (setLarge (setPwu e user) true) (pa >>> basePageShift)

end Entry

/-! ## The tables and the builder -/

/-- `PagingStructuresRaw`: the identity map's tables and the unused `pt_apic`. -/
@[ext] structure PagingStructuresRaw where
  pml4 : Table
  pdpt : Table
  pd : Nat → Table
  pt : Table
  ptApic : Table

/-- The tables of `zeroed_box::<PagingStructuresRaw>()`. -/
def PagingStructuresRaw.zeroed : PagingStructuresRaw :=
  ⟨.zeroed, .zeroed, fun _ => .zeroed, .zeroed, .zeroed⟩

/-- `ps.pd[i].entries[j] = e`. -/
def PagingStructuresRaw.setPd (ps : PagingStructuresRaw) (i j e : Nat) : PagingStructuresRaw :=
  { ps with pd := Function.update ps.pd i ((ps.pd i).set j e) }

/-- Entry `j'` of `pd[i']` after writing entry `j` of `pd[i]`. -/
@[simp] theorem PagingStructuresRaw.setPd_pd_entries (ps : PagingStructuresRaw) (i j e i' j' : Nat) :
    ((ps.setPd i j e).pd i').entries j'
      = if i' = i ∧ j' = j then e else (ps.pd i').entries j' := by
  by_cases h : i' = i <;> simp [PagingStructuresRaw.setPd, Function.update_apply, h]

/-- Writing a PD entry leaves the PML4. -/
@[simp] theorem PagingStructuresRaw.setPd_pml4 (ps : PagingStructuresRaw) (i j e : Nat) :
    (ps.setPd i j e).pml4 = ps.pml4 := rfl
/-- Writing a PD entry leaves the PDPT. -/
@[simp] theorem PagingStructuresRaw.setPd_pdpt (ps : PagingStructuresRaw) (i j e : Nat) :
    (ps.setPd i j e).pdpt = ps.pdpt := rfl
/-- Writing a PD entry leaves the PT. -/
@[simp] theorem PagingStructuresRaw.setPd_pt (ps : PagingStructuresRaw) (i j e : Nat) :
    (ps.setPd i j e).pt = ps.pt := rfl
/-- Writing a PD entry leaves the APIC PT. -/
@[simp] theorem PagingStructuresRaw.setPd_ptApic (ps : PagingStructuresRaw) (i j e : Nat) :
    (ps.setPd i j e).ptApic = ps.ptApic := rfl

/-- The 516 tables of a `PagingStructuresRaw`, each at a physical address. -/
inductive PsTable
  | pml4
  | pdpt
  | pd (i : Fin 512)
  | pt
  | ptApic
  deriving DecidableEq, Repr

/-- The PT loop body: the PTE of the 4 KiB page at `pa`. -/
def ptStep (user : Bool) : PagingStructuresRaw × Nat → Nat → PagingStructuresRaw × Nat
  | (ps, pa), k => ({ ps with pt := ps.pt.set k (Entry.mapTo (ps.pt.entries k) pa user) },
      pa + basePageSize)

/-- The PD loop body for `ps.pd[i]`: for the host's first PDE, link the PT, fill it
    and make the null page non-present; otherwise a 2 MiB page. -/
def pdeStep (tablePa : PsTable → Nat) (npt : Bool) (i : Nat) :
    PagingStructuresRaw × Nat → Nat → PagingStructuresRaw × Nat
  | (ps, pa), j =>
      if pa = 0 ∧ !npt then
        let (ps, pa) := (List.range 512).foldl (ptStep npt)
          (ps.setPd i j (Entry.mapTo ((ps.pd i).entries j) (tablePa .pt) npt), pa)
        ({ ps with pt := ps.pt.set 0 (Entry.setPresent (ps.pt.entries 0) false) }, pa)
      else
        (ps.setPd i j (Entry.largePage ((ps.pd i).entries j) pa npt), pa + largePageSize)

/-- The PDPT loop body: link `ps.pd[i]`, then run its PD loop. -/
def pdpteStep (tablePa : PsTable → Nat) (npt : Bool) :
    PagingStructuresRaw × Nat → Nat → PagingStructuresRaw × Nat
  | (ps, pa), i =>
      let pdpte := Entry.mapTo (ps.pdpt.entries i) (tablePa (.pd (Fin.ofNat i))) npt
      (List.range 512).foldl (pdeStep tablePa npt i) ({ ps with pdpt := ps.pdpt.set i pdpte }, pa)

/-- The loop over the PDPT of `build_identity_internal`, from the locals
    `(ps, pa)` as they are at `let mut pa = 0`. -/
def pdptLoop (tablePa : PsTable → Nat) (npt : Bool) (s : PagingStructuresRaw × Nat) :
    PagingStructuresRaw × Nat :=
  (List.range 512).foldl (pdpteStep tablePa npt) s

/-- The tables `ps` of the locals `(ps, pa)`: what the mutation leaves behind. -/
def tablesOf (s : PagingStructuresRaw × Nat) : PagingStructuresRaw := s.1

/-- `build_identity_internal(ps, npt)`, with `user = npt`. -/
def buildIdentityInternal (tablePa : PsTable → Nat) (ps : PagingStructuresRaw) (npt : Bool) :
    PagingStructuresRaw :=
  tablesOf (pdptLoop tablePa npt
    ({ ps with pml4 := ps.pml4.set 0 (Entry.mapTo (ps.pml4.entries 0) (tablePa .pdpt) npt) }, 0))

/-- `PagingStructuresRaw::build_identity`: the host's tables. -/
def PagingStructuresRaw.buildIdentity (tablePa : PsTable → Nat) (ps : PagingStructuresRaw) :
    PagingStructuresRaw :=
  buildIdentityInternal tablePa ps false

/-! ## The closed form of the builder -/

section Built

variable (tablePa : PsTable → Nat) (npt : Bool)

/-- The host PTE of page `k` of the first 2 MiB; the null page's has `present` cleared. -/
def pteAt (k : Nat) : Nat :=
  if k = 0 then Entry.setPresent (Entry.mapTo 0 0 false) false
  else Entry.mapTo 0 (k * basePageSize) false

/-- The PDE of flat slot `m = 512 * i + j`: the PT link for the host's first slot,
    else a 2 MiB page. -/
def pdeAt (m : Nat) : Nat :=
  if m = 0 ∧ npt = false then Entry.mapTo 0 (tablePa .pt) false
  else Entry.largePage 0 (m * largePageSize) npt

/-- The tables once the builder has linked `p` PDPTEs and written `d` PDEs. -/
def built (p d : Nat) : PagingStructuresRaw where
  pml4 := Table.zeroed.set 0 (Entry.mapTo 0 (tablePa .pdpt) npt)
  pdpt := ⟨fun i => if i < p then Entry.mapTo 0 (tablePa (.pd (Fin.ofNat i))) npt else 0⟩
  pd i := ⟨fun j => if j < 512 ∧ 512 * i + j < d then pdeAt tablePa npt (512 * i + j) else 0⟩
  pt := ⟨fun k => if k < 512 ∧ 0 < d ∧ npt = false then pteAt k else 0⟩
  ptApic := Table.zeroed

/-- The state inside the PT loop once `n` PTEs are written. -/
def withPt (ps : PagingStructuresRaw) (n : Nat) : PagingStructuresRaw :=
  { ps with pt := ⟨fun k => if k < n then Entry.mapTo (ps.pt.entries k) (k * basePageSize) false
      else ps.pt.entries k⟩ }

/-- **PT STEP**: iteration `k` of the host PT loop writes PT entry `k`. -/
theorem ptStep_withPt (ps : PagingStructuresRaw) (k : Nat) :
    ptStep false (withPt ps k, k * basePageSize) k = (withPt ps (k + 1), (k + 1) * basePageSize) := by
  simp only [ptStep, Prod.mk.injEq, Nat.succ_mul, and_true]
  ext k' <;> simp only [withPt, Table.set_entries, lt_self_iff_false, if_false]
  exact ite_succ (fun k => Entry.mapTo (ps.pt.entries k) (k * basePageSize) false) _ k k'

/-- **PT LOOP**: the host PT loop writes all 512 entries. -/
theorem ptLoop_eq (ps : PagingStructuresRaw) :
    (List.range 512).foldl (ptStep false) (ps, 0) = (withPt ps 512, largePageSize) := by
  have h := foldl_range_of_step (fun k => (withPt ps k, k * basePageSize)) (ptStep false) 512
    fun k _ => ptStep_withPt ps k
  have h0 : withPt ps 0 = ps := by ext <;> simp [withPt]
  simpa [h0] using h

/-- The state in the PD loop of row `i` once `j` of its PDEs are written. -/
def rowState (i j : Nat) : PagingStructuresRaw × Nat :=
  (built tablePa npt (i + 1) (512 * i + j), (512 * i + j) * largePageSize)

/-- The host's first PDE links the PT, fills it and clears the null page. -/
theorem pdeStep_first :
    pdeStep tablePa false 0 (rowState tablePa false 0 0) 0 = rowState tablePa false 0 1 := by
  have h0 : (512 * 0 + 0) * largePageSize = 0 := rfl
  rw [rowState, rowState, h0, pdeStep, if_pos ⟨rfl, rfl⟩, ptLoop_eq]
  refine Prod.ext ?_ (by simp)
  ext i j <;> simp only [built, withPt, PagingStructuresRaw.setPd_pd_entries,
    PagingStructuresRaw.setPd_pt, PagingStructuresRaw.setPd_pml4, PagingStructuresRaw.setPd_pdpt,
    PagingStructuresRaw.setPd_ptApic, Table.set_entries]
  · by_cases h : i = 0 ∧ j = 0
    · obtain ⟨rfl, rfl⟩ := h
      simp [pdeAt]
    · rw [if_neg h]
      split_ifs <;> first | rfl | omega
  · by_cases h : i = 0
    · subst h
      simp [pteAt]
    · simp [h, pteAt]

/-- Every PDE but the host's first is a 2 MiB page of the identity map. -/
theorem pdeAt_large {m : Nat} (h : ¬(m = 0 ∧ npt = false)) :
    pdeAt tablePa npt m = Entry.largePage 0 (m * largePageSize) npt := if_neg h

/-- Every other PDE is a 2 MiB page. -/
theorem pdeStep_large (i j : Nat) (hj : j < 512) (h : ¬(512 * i + j = 0 ∧ npt = false)) :
    pdeStep tablePa npt i (rowState tablePa npt i j) j = rowState tablePa npt i (j + 1) := by
  have hc : ¬((512 * i + j) * largePageSize = 0 ∧ (!npt) = true) := by
    cases npt <;> simp_all [largePageSize]
  rw [rowState, pdeStep, if_neg hc]
  refine Prod.ext ?_ (by simp only [rowState]; ring)
  ext i' j' <;> simp only [rowState, built, PagingStructuresRaw.setPd_pd_entries,
    PagingStructuresRaw.setPd_pt, PagingStructuresRaw.setPd_pml4, PagingStructuresRaw.setPd_pdpt,
    PagingStructuresRaw.setPd_ptApic]
  · by_cases h' : i' = i ∧ j' = j
    · obtain ⟨rfl, rfl⟩ := h'
      simp [hj, pdeAt_large tablePa npt h]
    · rw [if_neg h']
      split_ifs <;> first | rfl | omega
  · -- for the host, the row's first PDE is behind it, so the PT is linked either way
    have hpt : (0 < 512 * i + j ∧ npt = false) ↔ (0 < 512 * i + (j + 1) ∧ npt = false) :=
      ⟨fun h' => ⟨by omega, h'.2⟩, fun h' => ⟨Nat.pos_of_ne_zero fun h0 => h ⟨h0, h'.2⟩, h'.2⟩⟩
    simp only [hpt]

/-- **PD STEP**: iteration `j` of row `i` writes PDE `512 * i + j`. -/
theorem pdeStep_row {i j : Nat} (hj : j < 512) :
    pdeStep tablePa npt i (rowState tablePa npt i j) j = rowState tablePa npt i (j + 1) := by
  by_cases h : 512 * i + j = 0 ∧ npt = false
  · obtain ⟨⟨rfl, rfl⟩, rfl⟩ : (i = 0 ∧ j = 0) ∧ npt = false := ⟨by omega, h.2⟩
    exact pdeStep_first tablePa
  · exact pdeStep_large tablePa npt i j hj h

/-- The state of the PDPT loop once `i` of its rows are done. -/
def outerState (i : Nat) : PagingStructuresRaw × Nat :=
  (built tablePa npt i (512 * i), 512 * i * largePageSize)

/-- Iteration `i` of the PDPT loop links `ps.pd[i]` and runs row `i`. -/
theorem pdpteStep_outer (i : Nat) :
    pdpteStep tablePa npt (outerState tablePa npt i) i = outerState tablePa npt (i + 1) := by
  have hrow : ∀ j < 512, pdeStep tablePa npt i (rowState tablePa npt i j) j
      = rowState tablePa npt i (j + 1) := fun j hj => pdeStep_row tablePa npt hj
  have h := foldl_range_of_step (rowState tablePa npt i) (pdeStep tablePa npt i) 512 hrow
  have h0 : rowState tablePa npt i 0 = ({ (outerState tablePa npt i).1 with
      pdpt := (outerState tablePa npt i).1.pdpt.set i
        (Entry.mapTo ((outerState tablePa npt i).1.pdpt.entries i) (tablePa (.pd (Fin.ofNat i))) npt) },
      (outerState tablePa npt i).2) := by
    simp only [rowState, outerState, Nat.add_zero, Prod.mk.injEq, and_true]
    ext i' j' <;> simp only [built, Table.set_entries, lt_self_iff_false, if_false]
    exact (ite_succ (fun i => Entry.mapTo 0 (tablePa (.pd (Fin.ofNat i))) npt) 0 i i').symm
  rw [pdpteStep, ← h0, h]
  simp only [rowState, outerState, Nat.mul_succ]

/-- **CLOSED FORM**: `build_identity_internal` leaves the tables `built npt 512 (512 * 512)`. -/
theorem buildIdentityInternal_eq :
    buildIdentityInternal tablePa PagingStructuresRaw.zeroed npt = built tablePa npt 512 (512 * 512) := by
  have h := foldl_range_of_step (outerState tablePa npt) (pdpteStep tablePa npt) 512
    fun i _ => pdpteStep_outer tablePa npt i
  have h0 : outerState tablePa npt 0 = ({ PagingStructuresRaw.zeroed with
      pml4 := PagingStructuresRaw.zeroed.pml4.set 0
        (Entry.mapTo (PagingStructuresRaw.zeroed.pml4.entries 0) (tablePa .pdpt) npt) }, 0) := by
    simp only [outerState, Nat.mul_zero, Nat.zero_mul, Prod.mk.injEq, and_true]
    ext i j <;> simp [built, PagingStructuresRaw.zeroed]
  rw [buildIdentityInternal, pdptLoop, ← h0, h]
  rfl

end Built

/-! ## The walk over the built tables -/

/-- The x86-64 4-level walk for linear address `v` from CR3 value `cr3`, whose
    bits 51:12 are the frame of the PML4. -/
def walk (mem : Nat → Nat) (cr3 v : Nat) : Walk :=
  walk4 Entry.present Entry.large Entry.pfn mem (bitRange cr3 12 40) v

/-- The table a `PsTable` names. -/
def PagingStructuresRaw.table (ps : PagingStructuresRaw) : PsTable → Table
  | .pml4 => ps.pml4
  | .pdpt => ps.pdpt
  | .pd i => ps.pd i
  | .pt => ps.pt
  | .ptApic => ps.ptApic

/-- Physical memory holds each table of `ps` at the address `tablePa` gives it. -/
def Placed (mem : Nat → Nat) (tablePa : PsTable → Nat) (ps : PagingStructuresRaw) : Prop :=
  ∀ tbl k, k < 512 → mem (tablePa tbl + 8 * k) = (ps.table tbl).entries k

/-- A 64-bit linear address is canonical when bits 63:47 are all equal; only those
    are translated, the others fault before any walk. -/
def Canonical (v : Nat) : Prop := v < 2 ^ 47 ∨ (2 ^ 64 - 2 ^ 47 ≤ v ∧ v < 2 ^ 64)

/-- An entry that is present, writable and user-accessible exactly when `user`. -/
def Pwu (user : Bool) (e : Nat) : Prop :=
  Entry.present e = true ∧ Entry.writable e = true ∧ Entry.user e = user

section Fields

variable (e pa : Nat) (user : Bool)

/-- A 4 KiB mapping is present, writable and user-accessible as asked. -/
theorem mapTo_pwu : Pwu user (Entry.mapTo e pa user) := by
  cases user <;> simp [Pwu, Entry.present, Entry.writable, Entry.user, Entry.mapTo, Entry.setPfn, Entry.setPwu,
    Entry.setPresent, Entry.setWritable, Entry.setUser, bit, setBit, bitRange_setBitRange_of_le,
    bitRange_setBitRange_of_ge]

/-- A 2 MiB mapping is present, writable and user-accessible as asked. -/
theorem largePage_pwu : Pwu user (Entry.largePage e pa user) := by
  cases user <;> simp [Pwu, Entry.present, Entry.writable, Entry.user, Entry.largePage, Entry.setPfn, Entry.setLarge,
    Entry.setPwu, Entry.setPresent, Entry.setWritable, Entry.setUser, bit, setBit,
    bitRange_setBitRange_of_le, bitRange_setBitRange_of_ge]

/-- A 4 KiB mapping is present. -/
@[simp] theorem mapTo_present : Entry.present (Entry.mapTo e pa user) = true := (mapTo_pwu e pa user).1

/-- A 2 MiB mapping is present. -/
@[simp] theorem largePage_present : Entry.present (Entry.largePage e pa user) = true :=
  (largePage_pwu e pa user).1

/-- A 4 KiB mapping is not a large page. -/
@[simp] theorem mapTo_large : Entry.large (Entry.mapTo 0 pa user) = false := by
  simp [Entry.large, Entry.mapTo, Entry.setPfn, Entry.setPwu, Entry.setPresent, Entry.setWritable,
    Entry.setUser, bit, setBit, bitRange_setBitRange_of_le, bitRange_setBitRange_of_ge]

/-- A 2 MiB mapping is a large page. -/
@[simp] theorem largePage_large : Entry.large (Entry.largePage e pa user) = true := by
  simp [Entry.large, Entry.largePage, Entry.setPfn, Entry.setLarge, bit, setBit,
    bitRange_setBitRange_of_le]

/-- A 4 KiB mapping's frame is its address. -/
@[simp] theorem mapTo_pfn : Entry.pfn (Entry.mapTo e pa user) = pa / 2 ^ 12 % 2 ^ 40 := by
  simp [Entry.pfn, Entry.mapTo, Entry.setPfn, basePageShift, Nat.shiftRight_eq_div_pow]

/-- A 2 MiB mapping's frame is its address. -/
@[simp] theorem largePage_pfn : Entry.pfn (Entry.largePage e pa user) = pa / 2 ^ 12 % 2 ^ 40 := by
  simp [Entry.pfn, Entry.largePage, Entry.setPfn, basePageShift, Nat.shiftRight_eq_div_pow]

/-- The present bit reads what was written to it. -/
@[simp] theorem setPresent_present (b : Bool) : Entry.present (Entry.setPresent e b) = b :=
  bit_setBit_self e 0 b

/-- A zero entry is not present. -/
@[simp] theorem zero_present : Entry.present 0 = false := by simp [Entry.present, bit]

end Fields

variable (tablePa : PsTable → Nat) (npt : Bool) {mem : Nat → Nat}

/-- The walk for `v < 2^39` over the built tables: through the PT for the host's
    first 2 MiB (where the null page is not present), else to a 2 MiB page. -/
def builtWalk (v : Nat) : Walk :=
  if v < 2 ^ 21 ∧ npt = false then
    if v < 2 ^ 12 then .notPresent 1 (pteAt 0)
    else .page4k (Entry.mapTo 0 (tablePa .pdpt) npt) (Entry.mapTo 0 (tablePa (.pd (Fin.ofNat (v / 2 ^ 30)))) npt)
      (Entry.mapTo 0 (tablePa .pt) false) (Entry.mapTo 0 (v / 2 ^ 12 * basePageSize) false)
  else .page2m (Entry.mapTo 0 (tablePa .pdpt) npt) (Entry.mapTo 0 (tablePa (.pd (Fin.ofNat (v / 2 ^ 30)))) npt)
    (Entry.largePage 0 (v / 2 ^ 21 * largePageSize) npt)

/-- **WALK, BELOW 512 GiB**. -/
theorem walk_built_low (hal : ∀ tbl, tablePa tbl % 4096 = 0) (hbd : ∀ tbl, tablePa tbl < 2 ^ 52)
    (hP : Placed mem tablePa (built tablePa npt 512 (512 * 512))) {v : Nat} (hv : v < 2 ^ 39) :
    walk mem (tablePa .pml4) v = builtWalk tablePa npt v := by
  have e := fun tbl => entryAt_placed (hP tbl) (hal tbl) (hbd tbl)
  have h1 : entryAt mem (bitRange (tablePa .pml4) 12 40) 39 v = Entry.mapTo 0 (tablePa .pdpt) npt := by
    rw [bitRange, e .pml4, show v / 2 ^ 39 % 512 = 0 by omega]
    rfl
  have h2 : entryAt mem (Entry.pfn (Entry.mapTo 0 (tablePa .pdpt) npt)) 30 v
      = Entry.mapTo 0 (tablePa (.pd (Fin.ofNat (v / 2 ^ 30)))) npt := by
    rw [mapTo_pfn, e .pdpt, show v / 2 ^ 30 % 512 = v / 2 ^ 30 by omega]
    exact if_pos (by omega)
  have h3 : entryAt mem (Entry.pfn (Entry.mapTo 0 (tablePa (.pd (Fin.ofNat (v / 2 ^ 30)))) npt)) 21 v
      = pdeAt tablePa npt (v / 2 ^ 21) := by
    rw [mapTo_pfn, e]
    simp only [PagingStructuresRaw.table, built, val_ofNat_512]
    rw [if_pos (by omega), show 512 * (v / 2 ^ 30 % 512) + v / 2 ^ 21 % 512 = v / 2 ^ 21 by omega]
  by_cases hlow : v < 2 ^ 21 ∧ npt = false
  · obtain ⟨hv21, rfl⟩ := hlow
    rw [pdeAt, if_pos ⟨by omega, rfl⟩] at h3
    have h4 : entryAt mem (Entry.pfn (Entry.mapTo 0 (tablePa .pt) false)) 12 v = pteAt (v / 2 ^ 12) := by
      rw [mapTo_pfn, e .pt, show v / 2 ^ 12 % 512 = v / 2 ^ 12 by omega]
      exact if_pos ⟨by omega, by norm_num, rfl⟩
    by_cases h12 : v < 2 ^ 12
    · rw [show v / 2 ^ 12 = 0 by omega] at h4
      rw [builtWalk, if_pos ⟨hv21, rfl⟩, if_pos h12]
      simp only [walk, walk4, h1, h2, h3, h4]
      simp [pteAt]
    · rw [pteAt, if_neg (by omega)] at h4
      rw [builtWalk, if_pos ⟨hv21, rfl⟩, if_neg h12]
      simp only [walk, walk4, h1, h2, h3, h4]
      simp
  · rw [pdeAt_large tablePa npt fun ⟨h, hn⟩ => hlow ⟨by omega, hn⟩] at h3
    rw [builtWalk, if_neg hlow]
    simp only [walk, walk4, h1, h2, h3]
    simp

/-- **WALK, ABOVE 512 GiB**: every other PML4 entry is zero, so the walk of a
    canonical address from `2^39` on stops at the PML4. -/
theorem walk_built_high (hal : ∀ tbl, tablePa tbl % 4096 = 0) (hbd : ∀ tbl, tablePa tbl < 2 ^ 52)
    (hP : Placed mem tablePa (built tablePa npt 512 (512 * 512))) {v : Nat} (hc : Canonical v)
    (hv : 2 ^ 39 ≤ v) : walk mem (tablePa .pml4) v = .notPresent 4 0 := by
  have h1 : entryAt mem (bitRange (tablePa .pml4) 12 40) 39 v = 0 := by
    rw [bitRange, entryAt_placed (hP .pml4) (hal _) (hbd _)]
    simp only [PagingStructuresRaw.table, built, Table.set_entries, Table.zeroed_entries]
    exact if_neg (by unfold Canonical at hc; omega)
  simp [walk, walk4, h1]

/-! ## The identity map -/

/-- The walk for `v` ends at a leaf mapping `v` to itself, every entry on the path
    present, writable, and user-accessible exactly when `user`: a 4 KiB PTE below
    2 MiB, or a 2 MiB PDE with `large` set. -/
def IdentityPath (user : Bool) : Walk → Nat → Prop
  | .page4k pml4e pdpte pde pte, v =>
      v < 2 ^ 21 ∧ Pwu user pml4e ∧ Pwu user pdpte ∧ Pwu user pde ∧ Pwu user pte ∧
        Entry.pfn pte * 2 ^ 12 + v % 2 ^ 12 = v
  | .page2m pml4e pdpte pde, v =>
      Pwu user pml4e ∧ Pwu user pdpte ∧ Pwu user pde ∧ Entry.large pde = true ∧
        Entry.pfn pde * 2 ^ 12 + v % 2 ^ 21 = v
  | _, _ => False

/-- Outside the host's null page, the built walk maps every `v < 2^39` to itself. -/
theorem identityPath_builtWalk {v : Nat} (hv : v < 2 ^ 39) (h : ¬(npt = false ∧ v < 2 ^ 12)) :
    IdentityPath npt (builtWalk tablePa npt v) v := by
  unfold builtWalk
  split_ifs with hlow h12
  · exact absurd ⟨hlow.2, h12⟩ h
  · obtain ⟨hv21, rfl⟩ := hlow
    refine ⟨hv21, mapTo_pwu .., mapTo_pwu .., mapTo_pwu .., mapTo_pwu .., ?_⟩
    simp only [mapTo_pfn, basePageSize]
    omega
  · refine ⟨mapTo_pwu .., mapTo_pwu .., largePage_pwu .., largePage_large .., ?_⟩
    simp only [largePage_pfn, largePageSize]
    omega

/-- The host's null page walks to a non-present PTE. -/
theorem builtWalk_null {v : Nat} (hv : v < 2 ^ 12) :
    builtWalk tablePa false v = .notPresent 1 (pteAt 0) :=
  (if_pos ⟨by omega, rfl⟩).trans (if_pos hv)

/-- The host's PTE for the null page is not present. -/
@[simp] theorem pteAt_zero_present : Entry.present (pteAt 0) = false := setPresent_present _ _

/-- PDE `j` of `pd[i]`: present, writable, user-accessible as `npt`; the host's first
    links the PT, every other one is a 2 MiB page of the identity map. -/
def PdeShape (i j pde : Nat) : Prop :=
  Pwu npt pde ∧
    if i = 0 ∧ j = 0 ∧ npt = false then Entry.large pde = false ∧ Entry.pfn pde * 2 ^ 12 = tablePa .pt
    else Entry.large pde = true ∧ Entry.pfn pde * 2 ^ 12 = (512 * i + j) * 2 ^ 21

theorem pdeShape_built (hal : tablePa .pt % 4096 = 0) (hbd : tablePa .pt < 2 ^ 52) {i j : Nat}
    (hi : i < 512) (hj : j < 512) :
    PdeShape tablePa npt i j (((built tablePa npt 512 (512 * 512)).pd i).entries j) := by
  simp only [built, if_pos (show j < 512 ∧ 512 * i + j < 512 * 512 by omega), PdeShape]
  by_cases h : i = 0 ∧ j = 0 ∧ npt = false
  · obtain ⟨rfl, rfl, rfl⟩ := h
    rw [if_pos ⟨rfl, rfl, rfl⟩, pdeAt, if_pos ⟨rfl, rfl⟩]
    refine ⟨mapTo_pwu .., mapTo_large .., ?_⟩
    simp only [mapTo_pfn]
    omega
  · rw [if_neg h, pdeAt_large tablePa npt fun ⟨hm, hn⟩ => h ⟨by omega, by omega, hn⟩]
    refine ⟨largePage_pwu .., largePage_large .., ?_⟩
    simp only [largePage_pfn, largePageSize]
    omega

/-- **HOST AND NESTED IDENTITY MAP**: for either `npt`, when the tables sit at 4 KiB-
    aligned addresses below 2^52, in any memory holding the tables that
    `build_identity_internal(ps, npt)` leaves, every `v < 2^39` walks to a leaf
    mapping it to itself with every entry present, writable and user-accessible as
    `npt` (save the host's null page, which walks to a non-present PTE), and every
    canonical address from `2^39` on stops at the PML4.  The PT is linked only from
    `pd[0][0]` and only for the host, every other PDE is a 2 MiB page, and
    `pt_apic`, and the PT for NPT, stay zero. -/
theorem build_identity_internal_identity_map (tablePa : PsTable → Nat) (npt : Bool)
    (hal : ∀ tbl, tablePa tbl % 4096 = 0) (hbd : ∀ tbl, tablePa tbl < 2 ^ 52) :
    (∀ mem, Placed mem tablePa (buildIdentityInternal tablePa PagingStructuresRaw.zeroed npt) →
      (∀ v < 2 ^ 39, if npt = false ∧ v < 2 ^ 12
        then ∃ pte, Entry.present pte = false ∧ walk mem (tablePa .pml4) v = .notPresent 1 pte
        else IdentityPath npt (walk mem (tablePa .pml4) v) v) ∧
      ∀ v, Canonical v → 2 ^ 39 ≤ v → walk mem (tablePa .pml4) v = .notPresent 4 0) ∧
    (∀ i < 512, ∀ j < 512, PdeShape tablePa npt i j
      (((buildIdentityInternal tablePa PagingStructuresRaw.zeroed npt).pd i).entries j)) ∧
    (∀ k, (buildIdentityInternal tablePa PagingStructuresRaw.zeroed npt).ptApic.entries k = 0) ∧
    (npt = true → ∀ k, (buildIdentityInternal tablePa PagingStructuresRaw.zeroed npt).pt.entries k = 0) := by
  rw [buildIdentityInternal_eq]
  refine ⟨fun mem hP => ⟨fun v hv => ?_, fun v hc hv => walk_built_high tablePa npt hal hbd hP hc hv⟩,
    fun i hi j hj => pdeShape_built tablePa npt (hal _) (hbd _) hi hj, fun _ => rfl,
    fun hn k => by simp [built, hn]⟩
  rw [walk_built_low tablePa npt hal hbd hP hv]
  split_ifs with h
  · obtain ⟨rfl, h12⟩ := h
    exact ⟨_, pteAt_zero_present, builtWalk_null tablePa h12⟩
  · exact identityPath_builtWalk tablePa npt hv h

/-- The 516 tables in consecutive frames from address 0. -/
def consecutivePa : PsTable → Nat
  | .pml4 => 0
  | .pdpt => 4096
  | .pd i => 4096 * (2 + i)
  | .pt => 4096 * 514
  | .ptApic => 4096 * 515

/-- The table `consecutivePa` puts in frame `f`. -/
def consecutiveTables (ps : PagingStructuresRaw) (f : Nat) : Table :=
  if f = 0 then ps.pml4 else if f = 1 then ps.pdpt else if f < 514 then ps.pd (f - 2)
  else if f = 514 then ps.pt else ps.ptApic

/-- The frames of `consecutivePa` are 4 KiB-aligned and below 2^52. -/
theorem consecutivePa_ok (tbl : PsTable) : consecutivePa tbl % 4096 = 0 ∧ consecutivePa tbl < 2 ^ 52 := by
  cases tbl <;> simp [consecutivePa]
  omega

/-- Memory holding each table in the frame `consecutivePa` gives it places the tables. -/
theorem placed_consecutive (ps : PagingStructuresRaw) :
    Placed (frameMem (consecutiveTables ps)) consecutivePa ps := by
  intro tbl k hk
  cases tbl with
  | pml4 => exact frameMem_entry _ 0 hk
  | pdpt => exact (frameMem_entry _ 1 hk).trans (by simp [consecutiveTables, PagingStructuresRaw.table])
  | pd i =>
    refine (frameMem_entry _ (2 + i) hk).trans ?_
    simp [consecutiveTables, PagingStructuresRaw.table, show 2 + (i : Nat) ≠ 1 by omega,
      show 2 + (i : Nat) < 514 by omega]
  | pt => exact (frameMem_entry _ 514 hk).trans (by simp [consecutiveTables, PagingStructuresRaw.table])
  | ptApic => exact (frameMem_entry _ 515 hk).trans (by simp [consecutiveTables, PagingStructuresRaw.table])

/-- With the tables in consecutive frames, the memory holding the host tables
    `build_identity` fills walks the null page to a non-present PTE, `0x5000` to a
    4 KiB identity leaf, `0x40201234` to a 2 MiB one, and stops `2^39` at the PML4. -/
theorem build_identity_internal_identity_map_host :
    ∃ ps, buildIdentityInternal consecutivePa PagingStructuresRaw.zeroed false = ps ∧
      Placed (frameMem (consecutiveTables ps)) consecutivePa ps ∧
      (∃ pte, Entry.present pte = false ∧
        walk (frameMem (consecutiveTables ps)) (consecutivePa .pml4) 0x10 = .notPresent 1 pte) ∧
      IdentityPath false (walk (frameMem (consecutiveTables ps)) (consecutivePa .pml4) 0x5000) 0x5000 ∧
      IdentityPath false (walk (frameMem (consecutiveTables ps)) (consecutivePa .pml4) 0x40201234)
        0x40201234 ∧
      walk (frameMem (consecutiveTables ps)) (consecutivePa .pml4) (2 ^ 39) = .notPresent 4 0 := by
  have hw := (build_identity_internal_identity_map consecutivePa false
    (fun tbl => (consecutivePa_ok tbl).1) (fun tbl => (consecutivePa_ok tbl).2)).1
  generalize buildIdentityInternal consecutivePa PagingStructuresRaw.zeroed false = ps at hw ⊢
  have hP := placed_consecutive ps
  obtain ⟨hlow, hhigh⟩ := hw _ hP
  have h0 := hlow 0x10 (by omega)
  have h1 := hlow 0x5000 (by omega)
  have h2 := hlow 0x40201234 (by omega)
  rw [if_pos ⟨rfl, by omega⟩] at h0
  rw [if_neg (by omega)] at h1 h2
  exact ⟨ps, rfl, hP, h0, h1, h2, hhigh _ (.inl (by omega)) le_rfl⟩

end PagingStructures
