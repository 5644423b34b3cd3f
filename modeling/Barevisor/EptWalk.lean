import Barevisor.Epts

/-! # What the EPT means — the processor's walk over the built tables

    The processor translates a guest-physical address `g` by reading one entry
    per level, starting at the PML4 named by the EPTP (29.3.2): bits 47:39 of
    `g` index the PML4, 38:30 the PDPT, 29:21 a PD and 20:12 the PT.  An entry
    with bits 2:0 clear stops the walk; `large` at the PDPT or PD level ends it
    at a 1 GiB or 2 MiB page.

    Physical memory is a map from 8-byte-aligned addresses to the `u64` stored
    there, and `Placed` says it holds each table at the address `pa` gave it.
    From the closed form of `Epts.lean` we compute the walk over the built
    tables for every `g` (`walk_built_low`, `walk_built_high`). -/

namespace Ept

open Bitfield Paging Loop

/-- An EPT entry is present when any of bits 2:0 (read, write, execute) is set. -/
def Entry.present (e : Nat) : Bool := Entry.readable e || Entry.writable e || Entry.executable e

/-- The 4-level EPT walk for guest-physical address `g` from the EPT pointer `eptp`. -/
def walk (mem : Nat → Nat) (eptp g : Nat) : Walk :=
  walk4 Entry.present Entry.large Entry.pfn mem (EptPointer.pfn eptp) g

/-- The table an `EptTable` names. -/
def Epts.table (t : Epts) : EptTable → Table
  | .pml4 => t.pml4
  | .pdpt => t.pdpt
  | .pd i => t.pd i
  | .pt => t.pt

/-- Physical memory holds each table of `t` at the address `tablePa` gives it. -/
def Placed (mem : Nat → Nat) (tablePa : EptTable → Nat) (t : Epts) : Prop :=
  ∀ tbl k, k < 512 → mem (tablePa tbl + 8 * k) = (t.table tbl).entries k

/-! ## The entries the builder writes -/

/-- An entry the builder writes is readable, writable and executable. -/
def Rwx (e : Nat) : Prop :=
  Entry.readable e = true ∧ Entry.writable e = true ∧ Entry.executable e = true

section Fields

variable (e p : Nat) (mt : MemoryType)

/-- A table link is readable, writable and executable. -/
theorem link_rwx : Rwx (Entry.link e p) := by
  simp [Rwx, Entry.readable, Entry.writable, Entry.executable, Entry.link, Entry.setRwx,
    Entry.setPfn, Entry.setReadable, Entry.setWritable, Entry.setExecutable, bit, setBit,
    bitRange_setBitRange_of_le, bitRange_setBitRange_of_ge]

/-- A table link is present. -/
@[simp] theorem link_present : Entry.present (Entry.link e p) = true := by
  simp [Entry.present, (link_rwx e p).1]

/-- A link entry is not a large page. -/
@[simp] theorem link_large : Entry.large (Entry.link 0 p) = false := by
  simp [Entry.large, Entry.link, Entry.setRwx, Entry.setPfn, Entry.setReadable, Entry.setWritable,
    Entry.setExecutable, bit, setBit, bitRange_setBitRange_of_le, bitRange_setBitRange_of_ge]

/-- A link entry's frame is the linked table's address. -/
@[simp] theorem link_pfn : Entry.pfn (Entry.link e p) = p / 2 ^ 12 % 2 ^ 40 := by
  simp [Entry.pfn, Entry.link, Entry.setPfn, basePageShift, Nat.shiftRight_eq_div_pow]

/-- Bits 20:12 of an entry are the low 9 bits of its frame number. -/
theorem bitRange_frame_low : bitRange e 12 9 = Entry.pfn e % 2 ^ 9 := by
  rw [Entry.pfn, bitRange, bitRange, Nat.mod_mod_of_dvd _ (by norm_num)]

/-- A table link has bits 7:3 (memory type, ignored, large) clear. -/
theorem link_clear : bitRange (Entry.link 0 p) 3 5 = 0 := by
  simp [Entry.link, Entry.setRwx, Entry.setPfn, Entry.setReadable, Entry.setWritable,
    Entry.setExecutable, setBit, bitRange_setBitRange_of_le, bitRange_setBitRange_of_ge]

/-- A 4 KiB leaf is readable, writable and executable. -/
theorem page_rwx : Rwx (Entry.page e mt p) := by
  simp [Rwx, Entry.readable, Entry.writable, Entry.executable, Entry.page, Entry.setRwx,
    Entry.setPfn, Entry.setMemoryType, Entry.setReadable, Entry.setWritable, Entry.setExecutable,
    bit, setBit, bitRange_setBitRange_of_le, bitRange_setBitRange_of_ge]

/-- A 2 MiB leaf is readable, writable and executable. -/
theorem largePage_rwx : Rwx (Entry.largePage e mt p) := by
  simp [Rwx, Entry.readable, Entry.writable, Entry.executable, Entry.largePage, Entry.setRwx,
    Entry.setPfn, Entry.setMemoryType, Entry.setLarge, Entry.setReadable, Entry.setWritable,
    Entry.setExecutable, bit, setBit, bitRange_setBitRange_of_le, bitRange_setBitRange_of_ge]

/-- A 4 KiB leaf is present. -/
@[simp] theorem page_present : Entry.present (Entry.page e mt p) = true := by
  obtain ⟨h1, -, -⟩ := page_rwx e p mt
  simp [Entry.present, h1]

/-- A 2 MiB leaf is present. -/
@[simp] theorem largePage_present : Entry.present (Entry.largePage e mt p) = true := by
  obtain ⟨h1, -, -⟩ := largePage_rwx e p mt
  simp [Entry.present, h1]

/-- A 4 KiB leaf's frame is its address. -/
@[simp] theorem page_pfn : Entry.pfn (Entry.page e mt p) = p / 2 ^ 12 % 2 ^ 40 := by
  simp [Entry.pfn, Entry.page, Entry.setPfn, basePageShift, Nat.shiftRight_eq_div_pow]

/-- A 2 MiB leaf's frame is its address. -/
@[simp] theorem largePage_pfn : Entry.pfn (Entry.largePage e mt p) = p / 2 ^ 12 % 2 ^ 40 := by
  simp [Entry.pfn, Entry.largePage, Entry.setPfn, basePageShift, Nat.shiftRight_eq_div_pow]

/-- A 4 KiB leaf is not a large page. -/
@[simp] theorem page_large : Entry.large (Entry.page 0 mt p) = false := by
  simp [Entry.large, Entry.page, Entry.setRwx, Entry.setPfn, Entry.setMemoryType, Entry.setReadable,
    Entry.setWritable, Entry.setExecutable, bit, setBit, bitRange_setBitRange_of_le,
    bitRange_setBitRange_of_ge]

/-- A 2 MiB leaf is a large page. -/
@[simp] theorem largePage_large : Entry.large (Entry.largePage e mt p) = true := by
  simp [Entry.large, Entry.largePage, Entry.setPfn, Entry.setLarge, bit, setBit,
    bitRange_setBitRange_of_le]

/-- A 4 KiB leaf carries the code of its memory type. -/
@[simp] theorem page_memoryType : Entry.memoryType (Entry.page e mt p) = mt.code := by
  simp [Entry.memoryType, Entry.page, Entry.setPfn, Entry.setMemoryType,
    bitRange_setBitRange_of_le, Nat.mod_eq_of_lt (MemoryType.code_lt mt)]

/-- A 2 MiB leaf carries the code of its memory type. -/
@[simp] theorem largePage_memoryType : Entry.memoryType (Entry.largePage e mt p) = mt.code := by
  simp [Entry.memoryType, Entry.largePage, Entry.setPfn, Entry.setLarge, Entry.setMemoryType, setBit,
    bitRange_setBitRange_of_le, bitRange_setBitRange_of_ge, Nat.mod_eq_of_lt (MemoryType.code_lt mt)]

/-- A zero entry is not present. -/
@[simp] theorem zero_present : Entry.present 0 = false := by
  simp [Entry.present, Entry.readable, Entry.writable, Entry.executable, bit]

end Fields

variable (tablePa : EptTable → Nat)

/-- `eptp()` as a number: write-back, a 4-level walk, and the PML4's frame. -/
theorem eptp_eq (h : tablePa .pml4 < 2 ^ 52) :
    eptp tablePa = 6 + 3 * 2 ^ 3 + tablePa .pml4 / 2 ^ 12 * 2 ^ 12 := by
  simp only [eptp, EptPointer.setPageLevelsMinusOne, EptPointer.setMemoryType, EptPointer.setPfn,
    setBitRange, MemoryType.code, basePageShift, Nat.shiftRight_eq_div_pow]
  omega

/-- The EPTP's frame is the PML4's. -/
theorem eptp_pfn (h : tablePa .pml4 < 2 ^ 52) :
    EptPointer.pfn (eptp tablePa) = tablePa .pml4 / 2 ^ 12 % 2 ^ 40 := by
  rw [eptp_eq tablePa h, EptPointer.pfn, bitRange]
  omega

variable {mem : Nat → Nat} {t : Epts}

/-- A link to a placed table leads the walk to that table's entry. -/
theorem entryAt_table (hP : Placed mem tablePa t) (tbl : EptTable) (hal : tablePa tbl % 4096 = 0)
    (hbd : tablePa tbl < 2 ^ 52) (shift g : Nat) :
    entryAt mem (tablePa tbl / 2 ^ 12 % 2 ^ 40) shift g = (t.table tbl).entries (g / 2 ^ shift % 512) :=
  entryAt_placed (hP tbl) hal hbd shift g

variable (m4 m2 : Nat → MemoryType)

/-- **WALK, BELOW 512 GiB**: the walk over the built tables reaches the PT for the
    first 2 MiB and a 2 MiB PDE above. -/
theorem walk_built_low (hal : ∀ tbl, tablePa tbl % 4096 = 0) (hbd : ∀ tbl, tablePa tbl < 2 ^ 52)
    (hP : Placed mem tablePa (built tablePa m4 m2 512 (512 * 512))) {g : Nat} (hg : g < 2 ^ 39) :
    walk mem (eptp tablePa) g =
      if g < 2 ^ 21 then
        .page4k (Entry.link 0 (tablePa .pdpt)) (Entry.link 0 (tablePa (.pd (Fin.ofNat (g / 2 ^ 30)))))
          (Entry.link 0 (tablePa .pt)) (Entry.page 0 (m4 (g / 2 ^ 12)) (g / 2 ^ 12 * basePageSize))
      else
        .page2m (Entry.link 0 (tablePa .pdpt)) (Entry.link 0 (tablePa (.pd (Fin.ofNat (g / 2 ^ 30)))))
          (Entry.largePage 0 (m2 (g / 2 ^ 21)) (g / 2 ^ 21 * largePageSize)) := by
  have e := entryAt_table tablePa hP
  have h1 : entryAt mem (EptPointer.pfn (eptp tablePa)) 39 g = Entry.link 0 (tablePa .pdpt) := by
    rw [eptp_pfn tablePa (hbd _), e .pml4 (hal _) (hbd _), show g / 2 ^ 39 % 512 = 0 by omega]
    rfl
  have h2 : entryAt mem (Entry.pfn (Entry.link 0 (tablePa .pdpt))) 30 g
      = Entry.link 0 (tablePa (.pd (Fin.ofNat (g / 2 ^ 30)))) := by
    rw [link_pfn, e .pdpt (hal _) (hbd _), show g / 2 ^ 30 % 512 = g / 2 ^ 30 by omega]
    exact if_pos (by omega)
  have h3 : entryAt mem (Entry.pfn (Entry.link 0 (tablePa (.pd (Fin.ofNat (g / 2 ^ 30)))))) 21 g
      = pdeAt tablePa m2 (g / 2 ^ 21) := by
    rw [link_pfn, e _ (hal _) (hbd _)]
    simp only [Epts.table, built, val_ofNat_512]
    rw [if_pos (by omega), show 512 * (g / 2 ^ 30 % 512) + g / 2 ^ 21 % 512 = g / 2 ^ 21 by omega]
  split_ifs with hlow
  · have h0 : g / 2 ^ 21 = 0 := by omega
    have h4 : entryAt mem (Entry.pfn (Entry.link 0 (tablePa .pt))) 12 g
        = Entry.page 0 (m4 (g / 2 ^ 12)) (g / 2 ^ 12 * basePageSize) := by
      rw [link_pfn, e .pt (hal _) (hbd _), show g / 2 ^ 12 % 512 = g / 2 ^ 12 by omega]
      exact if_pos ⟨by omega, by norm_num⟩
    simp only [walk, walk4, h1, h2, h3, h4, h0, pdeAt, if_true, link_present, link_large, page_present]
    rfl
  · simp only [walk, walk4, h1, h2, h3, pdeAt_of_pos tablePa m2 (show 0 < g / 2 ^ 21 by omega), link_present,
      link_large, largePage_present, largePage_large]
    rfl

/-- **WALK, ABOVE 512 GiB**: every other PML4 entry is zero, so the walk stops at
    the PML4. -/
theorem walk_built_high (hal : ∀ tbl, tablePa tbl % 4096 = 0) (hbd : ∀ tbl, tablePa tbl < 2 ^ 52)
    (hP : Placed mem tablePa (built tablePa m4 m2 512 (512 * 512))) {g : Nat} (hg : 2 ^ 39 ≤ g)
    (hg' : g < 2 ^ 48) : walk mem (eptp tablePa) g = .notPresent 4 0 := by
  have h1 : entryAt mem (EptPointer.pfn (eptp tablePa)) 39 g = 0 := by
    rw [eptp_pfn tablePa (hbd _), entryAt_table tablePa hP .pml4 (hal _) (hbd _)]
    simp only [Epts.table, built, Table.set_entries, Table.zeroed_entries]
    exact if_neg (by omega)
  simp [walk, walk4, h1]

/-! ## The identity map and its memory types -/

/-- The walk for `g` ends at a leaf mapping `g` to itself, every entry on the path
    readable, writable and executable: a 4 KiB PTE exactly below 2 MiB, else a
    2 MiB PDE with `large` set whose frame has bits 20:12 clear; the entries above
    the leaf have bits 7:3 clear. -/
def IdentityLeaf : Walk → Nat → Prop
  | .page4k pml4e pdpte pde pte, g =>
      g < 2 ^ 21 ∧ Rwx pml4e ∧ Rwx pdpte ∧ Rwx pde ∧ Rwx pte ∧ Entry.pfn pte * 2 ^ 12 + g % 2 ^ 12 = g ∧
        bitRange pml4e 3 5 = 0 ∧ bitRange pdpte 3 5 = 0 ∧ bitRange pde 3 5 = 0
  | .page2m pml4e pdpte pde, g =>
      2 ^ 21 ≤ g ∧ Rwx pml4e ∧ Rwx pdpte ∧ Rwx pde ∧ Entry.large pde = true ∧
        bitRange pde 12 9 = 0 ∧ Entry.pfn pde * 2 ^ 12 + g % 2 ^ 21 = g ∧
        bitRange pml4e 3 5 = 0 ∧ bitRange pdpte 3 5 = 0
  | _, _ => False

/-- The leaf the built tables give for `g < 2^39` maps `g` to itself. -/
theorem identityLeaf_built {g : Nat} (hg : g < 2 ^ 39) :
    IdentityLeaf (if g < 2 ^ 21 then
        .page4k (Entry.link 0 (tablePa .pdpt)) (Entry.link 0 (tablePa (.pd (Fin.ofNat (g / 2 ^ 30)))))
          (Entry.link 0 (tablePa .pt)) (Entry.page 0 (m4 (g / 2 ^ 12)) (g / 2 ^ 12 * basePageSize))
      else
        .page2m (Entry.link 0 (tablePa .pdpt)) (Entry.link 0 (tablePa (.pd (Fin.ofNat (g / 2 ^ 30)))))
          (Entry.largePage 0 (m2 (g / 2 ^ 21)) (g / 2 ^ 21 * largePageSize))) g := by
  split_ifs with h21
  · refine ⟨h21, link_rwx .., link_rwx .., link_rwx .., page_rwx .., ?_, link_clear _, link_clear _,
      link_clear _⟩
    simp only [page_pfn, basePageSize]
    omega
  · refine ⟨by omega, link_rwx .., link_rwx .., largePage_rwx .., largePage_large .., ?_, ?_, link_clear _,
      link_clear _⟩
    · rw [bitRange_frame_low, largePage_pfn, largePageSize]
      omega
    · simp only [largePage_pfn, largePageSize]
      omega

/-- **IDENTITY MAP**: when every MTRR lookup succeeds and the 515 tables sit at
    4 KiB-aligned addresses below 2^52, `build_identity` completes; `eptp()` holds
    only the write-back type, the walk length 4 and the PML4's frame; and in any
    physical memory holding the tables, every `g < 2^39` walks to an R/W/X leaf
    mapping it to itself (4 KiB exactly below 2 MiB, 2 MiB above), while every
    `g` in `[2^39, 2^48)` stops at a non-present PML4 entry. -/
theorem build_identity_maps_identity (find : Range → Option MemoryType) (tablePa : EptTable → Nat)
    (hres : Resolves find) (hal : ∀ tbl, tablePa tbl % 4096 = 0)
    (hbd : ∀ tbl, tablePa tbl < 2 ^ 52) :
    ∃ t, buildIdentity find tablePa Epts.zeroed = some t ∧
      eptp tablePa = 6 + 3 * 2 ^ 3 + tablePa .pml4 / 2 ^ 12 * 2 ^ 12 ∧
      ∀ mem, Placed mem tablePa t → ∀ g < 2 ^ 48,
        (g < 2 ^ 39 → IdentityLeaf (walk mem (eptp tablePa) g) g) ∧
        (2 ^ 39 ≤ g → walk mem (eptp tablePa) g = .notPresent 4 0) :=
  ⟨_, buildIdentity_of_resolves find tablePa hres, eptp_eq tablePa (hbd _), fun _ hP _ hg =>
    ⟨fun hlow => by
      rw [walk_built_low tablePa _ _ hal hbd hP hlow]
      exact identityLeaf_built tablePa _ _ hlow,
    fun hhigh => walk_built_high tablePa _ _ hal hbd hP hhigh hg⟩⟩

/-- A placement of the 515 tables in consecutive frames from address 0. -/
def consecutivePa : EptTable → Nat
  | .pml4 => 0
  | .pdpt => 4096
  | .pd i => 4096 * (2 + i)
  | .pt => 4096 * 514

/-- The table `consecutivePa` puts in frame `f`. -/
def consecutiveTables (t : Epts) (f : Nat) : Table :=
  if f = 0 then t.pml4 else if f = 1 then t.pdpt else if f < 514 then t.pd (f - 2) else t.pt

/-- The frames of `consecutivePa` are 4 KiB-aligned and below 2^52. -/
theorem consecutivePa_ok (tbl : EptTable) : consecutivePa tbl % 4096 = 0 ∧ consecutivePa tbl < 2 ^ 52 := by
  cases tbl <;> simp [consecutivePa]
  omega

/-- Memory holding each table in the frame `consecutivePa` gives it places the tables. -/
theorem placed_consecutive (t : Epts) : Placed (frameMem (consecutiveTables t)) consecutivePa t := by
  intro tbl k hk
  cases tbl with
  | pml4 => exact frameMem_entry _ 0 hk
  | pdpt => exact (frameMem_entry _ 1 hk).trans (by simp [consecutiveTables, Epts.table])
  | pd i =>
    refine (frameMem_entry _ (2 + i) hk).trans ?_
    simp [consecutiveTables, Epts.table, show 2 + (i : Nat) ≠ 1 by omega, show 2 + (i : Nat) < 514 by omega]
  | pt => exact (frameMem_entry _ 514 hk).trans (by simp [consecutiveTables, Epts.table])

/-- With every range write-back and the tables in consecutive frames, the memory
    holding them walks `0x1234` to a 4 KiB identity leaf, `0x40201234` to a 2 MiB
    one, and stops `2^39` at the PML4. -/
theorem build_identity_maps_identity_writeBack :
    ∃ t, buildIdentity (fun _ => some .writeBack) consecutivePa Epts.zeroed = some t ∧
      Placed (frameMem (consecutiveTables t)) consecutivePa t ∧
      IdentityLeaf (walk (frameMem (consecutiveTables t)) (eptp consecutivePa) 0x1234) 0x1234 ∧
      IdentityLeaf (walk (frameMem (consecutiveTables t)) (eptp consecutivePa) 0x40201234) 0x40201234 ∧
      walk (frameMem (consecutiveTables t)) (eptp consecutivePa) (2 ^ 39) = .notPresent 4 0 := by
  obtain ⟨t, ht, -, hw⟩ := build_identity_maps_identity (fun _ => some .writeBack) consecutivePa
    ⟨fun _ _ => rfl, fun _ _ _ => rfl⟩ (fun tbl => (consecutivePa_ok tbl).1) (fun tbl => (consecutivePa_ok tbl).2)
  have hP := placed_consecutive t
  exact ⟨t, ht, hP, (hw _ hP _ (by decide)).1 (by decide), (hw _ hP _ (by decide)).1 (by decide),
    (hw _ hP _ (by decide)).2 le_rfl⟩

/-- The leaf the walk for `g` reaches, through entries that are all readable,
    writable and executable, maps exactly the range `find` was asked about for it
    (the 4 KiB page of `g` below 2 MiB, its 2 MiB region above, so a 2 MiB leaf's
    frame has bits 20:12 clear), and carries the code of the type `find` returned
    for that range. -/
def LeafTyped (find : Range → Option MemoryType) : Walk → Nat → Prop
  | .page4k pml4e pdpte pde pte, g =>
      g < 2 ^ 21 ∧ Rwx pml4e ∧ Rwx pdpte ∧ Rwx pde ∧ Rwx pte ∧
        Entry.pfn pte * 2 ^ 12 = (pageRange (g / 2 ^ 12)).start ∧
        ∃ mt, find (pageRange (g / 2 ^ 12)) = some mt ∧ Entry.memoryType pte = mt.code
  | .page2m pml4e pdpte pde, g =>
      2 ^ 21 ≤ g ∧ Rwx pml4e ∧ Rwx pdpte ∧ Rwx pde ∧
        Entry.pfn pde * 2 ^ 12 = (largeRange (g / 2 ^ 21)).start ∧
        ∃ mt, find (largeRange (g / 2 ^ 21)) = some mt ∧ Entry.memoryType pde = mt.code
  | _, _ => False

/-- **MEMORY TYPES**: `build_identity` completes exactly when `find` succeeds on the
    512 PT ranges and the 2 MiB ranges of slots `1 ≤ m < 512 * 512`; and then the
    leaf translating each `g < 2^39` carries the type resolved for the range it maps. -/
theorem build_identity_leaf_memory_types (find : Range → Option MemoryType)
    (tablePa : EptTable → Nat) :
    ((buildIdentity find tablePa Epts.zeroed).isSome ↔ Resolves find) ∧
      ∀ t, buildIdentity find tablePa Epts.zeroed = some t →
        (∀ tbl, tablePa tbl % 4096 = 0) → (∀ tbl, tablePa tbl < 2 ^ 52) →
        ∀ mem, Placed mem tablePa t → ∀ g < 2 ^ 39, LeafTyped find (walk mem (eptp tablePa) g) g := by
  refine ⟨⟨resolves_of_buildIdentity_isSome find tablePa,
    fun hres => by rw [buildIdentity_of_resolves find tablePa hres]; rfl⟩, ?_⟩
  intro t ht hal hbd mem hP g hg
  have hres := resolves_of_buildIdentity_isSome find tablePa (by rw [ht]; rfl)
  rw [buildIdentity_of_resolves find tablePa hres, Option.some_inj] at ht
  subst ht
  rw [walk_built_low tablePa _ _ hal hbd hP hg]
  split_ifs with h21
  · refine ⟨h21, link_rwx .., link_rwx .., link_rwx .., page_rwx .., ?_, pageType find (g / 2 ^ 12),
      (agrees_types find).page_eq find _ _ (hres.1 _ (by omega)), page_memoryType _ _ _⟩
    simp only [page_pfn, pageRange, basePageSize]
    omega
  · refine ⟨by omega, link_rwx .., link_rwx .., largePage_rwx .., ?_, largeType find (g / 2 ^ 21),
      (agrees_types find).large_eq find _ _ (hres.2 _ (by omega) (by omega)),
      largePage_memoryType _ _ _⟩
    simp only [largePage_pfn, largeRange, largePageSize]
    omega

end Ept
