import Mathlib.Tactic.Ring
import Mathlib.Tactic.Positivity

/-! # Bit ranges of register values, and loops over `0..n`

    Every packed record of the hypervisor (`Entry` of the EPT and of the host
    page tables, `EptPointer`, the VMX control words) is a `u64` with fields
    declared through the `bitfield!` macro.  A field `msb, lsb` is read as
    `bit_range(msb, lsb)` and written as `set_bit_range(msb, lsb, v)`; a
    one-bit field through `bit(i)` / `set_bit(i, b)`.

    We model a register value as a `Nat` and a field by its low bit and
    width.  The three rules below say everything the rest of the development
    needs: a write is read back truncated to the width, and leaves the fields
    below and above it alone.

    The table builders are nested `for` loops that may panic; we model a loop
    over `0..n` as `List.foldlM` in `Option` over `List.range n`.  Its two
    rules: a loop whose every iteration steps between closed-form states ends
    in the last one, and a loop that completed took every iteration. -/

namespace Bitfield

/-- `bit_range`: the `width` bits of `x` starting at bit `lsb`. -/
def bitRange (x lsb width : Nat) : Nat := x / 2 ^ lsb % 2 ^ width

/-- `set_bit_range`: the `width` bits of `x` starting at `lsb` replaced by the
    low `width` bits of `v`, all other bits kept. -/
def setBitRange (x lsb width v : Nat) : Nat :=
  x / 2 ^ (lsb + width) * 2 ^ (lsb + width) + v % 2 ^ width * 2 ^ lsb + x % 2 ^ lsb

/-- `bit`: a one-bit field. -/
def bit (x i : Nat) : Bool := bitRange x i 1 = 1

/-- `set_bit`: a one-bit field written with a flag. -/
def setBit (x i : Nat) (b : Bool) : Nat := setBitRange x i 1 b.toNat

/-- `setBitRange` as arithmetic: the bits below, the new field, and the bits above. -/
theorem setBitRange_eq (x l w v : Nat) :
    setBitRange x l w v = x % 2 ^ l + (x / 2 ^ (l + w) * 2 ^ w + v % 2 ^ w) * 2 ^ l := by
  unfold setBitRange; rw [pow_add]; ring

/-- **READ BACK**: a field reads what was written to it, truncated to its width. -/
@[simp] theorem bitRange_setBitRange_self (x l w v : Nat) :
    bitRange (setBitRange x l w v) l w = v % 2 ^ w := by
  rw [bitRange, setBitRange_eq, Nat.add_mul_div_right _ _ (by positivity),
    Nat.div_eq_of_lt (Nat.mod_lt _ (by positivity)), zero_add, Nat.add_comm,
    Nat.add_mul_mod_self_right, Nat.mod_mod]

/-- Writing a field leaves the bits below it. -/
theorem setBitRange_mod (x l w v : Nat) : setBitRange x l w v % 2 ^ l = x % 2 ^ l := by
  rw [setBitRange_eq, Nat.add_mul_mod_self_right, Nat.mod_mod]

/-- `bitRange` as the bits below `l + w`, shifted down by `l`. -/
theorem bitRange_eq_mod_div (y l w : Nat) : bitRange y l w = y % 2 ^ (l + w) / 2 ^ l := by
  rw [bitRange, pow_add, Nat.mod_mul_right_div_self]

/-- **FRAME BELOW**: a write leaves every field below it unchanged. -/
theorem bitRange_setBitRange_of_le {l' w' l : Nat} (x w v : Nat) (h : l' + w' ≤ l) :
    bitRange (setBitRange x l w v) l' w' = bitRange x l' w' := by
  have hd : 2 ^ (l' + w') ∣ 2 ^ l := pow_dvd_pow 2 h
  rw [bitRange_eq_mod_div, bitRange_eq_mod_div, ← Nat.mod_mod_of_dvd _ hd, setBitRange_mod,
    Nat.mod_mod_of_dvd _ hd]

/-- Writing a field leaves the bits above it. -/
theorem setBitRange_div (x l w v : Nat) :
    setBitRange x l w v / 2 ^ (l + w) = x / 2 ^ (l + w) := by
  have hlow : v % 2 ^ w * 2 ^ l + x % 2 ^ l < 2 ^ (l + w) := by
    have h1 : v % 2 ^ w < 2 ^ w := Nat.mod_lt _ (by positivity)
    have h2 : x % 2 ^ l < 2 ^ l := Nat.mod_lt _ (by positivity)
    calc v % 2 ^ w * 2 ^ l + x % 2 ^ l < (v % 2 ^ w + 1) * 2 ^ l := by rw [Nat.succ_mul]; omega
      _ ≤ 2 ^ w * 2 ^ l := Nat.mul_le_mul_right _ h1
      _ = 2 ^ (l + w) := by rw [pow_add, Nat.mul_comm]
  rw [setBitRange, add_assoc, Nat.mul_comm, Nat.mul_add_div (by positivity), Nat.div_eq_of_lt hlow,
    add_zero]

/-- **FRAME ABOVE**: a write leaves every field above it unchanged. -/
theorem bitRange_setBitRange_of_ge {l w l' : Nat} (x v w' : Nat) (h : l + w ≤ l') :
    bitRange (setBitRange x l w v) l' w' = bitRange x l' w' := by
  obtain ⟨d, rfl⟩ := Nat.exists_eq_add_of_le h
  rw [bitRange, bitRange, pow_add, ← Nat.div_div_eq_div_mul, ← Nat.div_div_eq_div_mul,
    setBitRange_div]

/-- Every field of 0 is 0. -/
@[simp] theorem bitRange_zero (l w : Nat) : bitRange 0 l w = 0 := by simp [bitRange]

/-- A bit reads what was written to it. -/
@[simp] theorem bit_setBit_self (x i : Nat) (b : Bool) : bit (setBit x i b) i = b := by
  cases b <;> simp [bit, setBit]

end Bitfield

namespace Loop

variable {σ : Type} (f : σ → Nat → Option σ) (g : Nat → σ)

/-- A monadic loop over `0..n+1` is the loop over `0..n`, then iteration `n`. -/
theorem foldlM_range_succ (n : Nat) (s : σ) :
    (List.range (n + 1)).foldlM f s = ((List.range n).foldlM f s).bind (f · n) := by
  simp [List.range_succ, List.foldlM_append, Option.bind_eq_bind]

/-- **RUN**: iterations that step from the closed form `g k` to `g (k + 1)` make the
    loop end in `g n`. -/
theorem foldlM_range_of_step (n : Nat) (h : ∀ k < n, f (g k) k = some (g (k + 1))) :
    (List.range n).foldlM f (g 0) = some (g n) := by
  induction n with
  | zero => rfl
  | succ n ih =>
      rw [foldlM_range_succ, ih fun k hk => h k (by omega)]
      exact h n (by omega)

/-- **RUN**, for a loop that cannot panic. -/
theorem foldl_range_of_step (f : σ → Nat → σ) (n : Nat) (h : ∀ k < n, f (g k) k = g (k + 1)) :
    (List.range n).foldl f (g 0) = g n := by
  induction n with
  | zero => rfl
  | succ n ih => rw [List.range_succ, List.foldl_append, ih fun k hk => h k (by omega)]; exact h n (by omega)

/-- **NO PANIC**: a loop that completed took every iteration, each from its closed
    form, provided a completed iteration can only reach the next closed form. -/
theorem step_of_foldlM_range_isSome (n : Nat)
    (hdet : ∀ k < n, ∀ s, f (g k) k = some s → s = g (k + 1))
    (h : ((List.range n).foldlM f (g 0)).isSome) : ∀ k < n, f (g k) k = some (g (k + 1)) := by
  induction n with
  | zero => intro k hk; omega
  | succ n ih =>
      intro k hk
      rw [foldlM_range_succ] at h
      cases hp : (List.range n).foldlM f (g 0) with
      | none => simp [hp] at h
      | some s₀ =>
          have hpre : ∀ k < n, f (g k) k = some (g (k + 1)) :=
            ih (fun k hk => hdet k (by omega)) (by simp [hp])
          rw [foldlM_range_of_step f g n hpre, Option.some_bind] at h
          rcases Nat.lt_succ_iff_lt_or_eq.mp hk with hk | rfl
          · exact hpre k hk
          · obtain ⟨s, hs⟩ := Option.isSome_iff_exists.mp h
            rw [hs, hdet k (by omega) s hs]

/-- Writing index `k` of a table written below `k` extends the written prefix. -/
theorem ite_succ {α : Type} (f : Nat → α) (x : α) (k k' : Nat) :
    (if k' = k then f k else if k' < k then f k' else x) = if k' < k + 1 then f k' else x := by
  split_ifs with h1 h2 h3 <;> first | rfl | (subst h1; rfl) | omega

end Loop

namespace Paging

/-- `BASE_PAGE_SHIFT` of `x86::bits64::paging`. -/
def basePageShift : Nat := 12

/-- `BASE_PAGE_SIZE`: a 4 KiB page. -/
def basePageSize : Nat := 0x1000

/-- `LARGE_PAGE_SIZE`: a 2 MiB page. -/
def largePageSize : Nat := 0x200000

/-- `Table`: the 512 entries of a paging structure; the builders and the walks only
    touch indices below 512. -/
@[ext] structure Table where
  entries : Nat → Nat

/-- A table of a zeroed allocation. -/
def Table.zeroed : Table := ⟨fun _ => 0⟩

/-- `table.entries[i] = e`. -/
def Table.set (t : Table) (i e : Nat) : Table := ⟨Function.update t.entries i e⟩

/-- Every entry of a zeroed table is 0. -/
@[simp] theorem Table.zeroed_entries (i : Nat) : Table.zeroed.entries i = 0 := rfl

/-- Entry `j` after writing entry `i`. -/
@[simp] theorem Table.set_entries (t : Table) (i e j : Nat) :
    (t.set i e).entries j = if j = i then e else t.entries j := by
  simp [Table.set, Function.update_apply]

/-- Where a 4-level walk over x86 paging structures ends. -/
inductive Walk
  | notPresent (level entry : Nat)
  | page1g (pml4e pdpte : Nat)
  | page2m (pml4e pdpte pde : Nat)
  | page4k (pml4e pdpte pde pte : Nat)
  deriving DecidableEq, Repr

/-- The entry of the table at frame `pfn` selected by the 9 bits of `a` at `shift`. -/
def entryAt (mem : Nat → Nat) (pfn shift a : Nat) : Nat :=
  mem (pfn * basePageSize + 8 * (a / 2 ^ shift % 512))

/-- A 4-level walk for address `a` from the table at frame `root`, in a physical
    memory mapping 8-byte-aligned addresses to entries.  `present`, `large` and
    `pfn` say how an entry of the structure is read: bits 47:39, 38:30, 29:21 and
    20:12 of `a` index the four levels, and a `large` PDPTE or PDE ends the walk. -/
def walk4 (present large : Nat → Bool) (pfn : Nat → Nat) (mem : Nat → Nat) (root a : Nat) : Walk :=
  let pml4e := entryAt mem root 39 a
  if !present pml4e then .notPresent 4 pml4e else
  let pdpte := entryAt mem (pfn pml4e) 30 a
  if !present pdpte then .notPresent 3 pdpte else
  if large pdpte then .page1g pml4e pdpte else
  let pde := entryAt mem (pfn pdpte) 21 a
  if !present pde then .notPresent 2 pde else
  if large pde then .page2m pml4e pdpte pde else
  let pte := entryAt mem (pfn pde) 12 a
  if !present pte then .notPresent 1 pte else .page4k pml4e pdpte pde pte

/-- **PLACED TABLE**: when memory holds table `t` at the 4 KiB-aligned address `pa`,
    the walk's read through the frame of `pa` is the entry the address selects. -/
theorem entryAt_placed {mem : Nat → Nat} {pa : Nat} {t : Table}
    (hP : ∀ k, k < 512 → mem (pa + 8 * k) = t.entries k) (hal : pa % 4096 = 0) (hbd : pa < 2 ^ 52)
    (shift a : Nat) : entryAt mem (pa / 2 ^ 12 % 2 ^ 40) shift a = t.entries (a / 2 ^ shift % 512) := by
  rw [entryAt, ← hP _ (Nat.mod_lt _ (by norm_num))]
  congr 1
  simp only [basePageSize]
  omega

/-- `Fin.ofNat i` in `Fin 512` is `i` mod 512. -/
@[simp] theorem val_ofNat_512 (i : Nat) : ((Fin.ofNat i : Fin 512) : Nat) = i % 512 := rfl

/-- Physical memory holding the table `tables f` in each 4 KiB frame `f`. -/
def frameMem (tables : Nat → Table) (a : Nat) : Nat := (tables (a / 4096)).entries (a % 4096 / 8)

/-- Entry `k` of frame `f` of `frameMem tables` is entry `k` of `tables f`. -/
theorem frameMem_entry (tables : Nat → Table) (f : Nat) {k : Nat} (hk : k < 512) :
    frameMem tables (4096 * f + 8 * k) = (tables f).entries k := by
  rw [frameMem, show (4096 * f + 8 * k) / 4096 = f by omega, show (4096 * f + 8 * k) % 4096 / 8 = k by omega]

end Paging
