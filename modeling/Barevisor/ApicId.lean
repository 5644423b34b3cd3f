import Mathlib.Data.Fintype.Card
import Mathlib.Data.List.Nodup

/-! # The APIC ID registry — `hypervisor/apic_id.rs`

    `init` runs a callback on every processor in turn; each one reads its 8-bit
    APIC ID, takes the next processor number with `PROCESSOR_COUNT.fetch_add(1)`
    and inserts the pair into `APIC_ID_MAP` under the write lock, asserting the
    ID was absent.  `processor_id_from` reads the map back.

    The registry is the two statics; a run of the callbacks is a `foldlM` in
    `Except`, whose error carries the registry as the failed assertion left it.
    Everything follows from one lemma about that run (`foldlM_register_ok`):
    it completes exactly when the IDs are distinct and unregistered, and then
    equals the fold of the assertion-free update. -/

namespace Apic

/-- `type ApicId = u8`. -/
abbrev ApicId := Fin 256

/-- `APIC_ID_MAP` and `PROCESSOR_COUNT`.  The counter is a `usize`; it never
    passes 257 before an assertion fails, so it does not wrap. -/
structure Registry where
  apicIdMap : ApicId → Option Nat
  processorCount : Nat

/-- The statics at boot: an empty map and a zero counter. -/
def Registry.empty : Registry := ⟨fun _ => none, 0⟩

/-- The callback's effect on the registry: `fetch_add` hands out the old count and
    the map takes `apicId ↦ count`. -/
def Registry.register (s : Registry) (apicId : ApicId) : Registry :=
  ⟨Function.update s.apicIdMap apicId (some s.processorCount), s.processorCount + 1⟩

/-- The callback of `init` on the processor whose APIC ID is `apicId`:
    `assert!(map.insert(get(), PROCESSOR_COUNT.fetch_add(1)).is_none())`. -/
def registerProcessor (s : Registry) (apicId : ApicId) : Except Registry Registry :=
  if (s.apicIdMap apicId).isNone then .ok (s.register apicId) else .error (s.register apicId)

/-- `run_on_all_processors(callback)`: the callback on each processor in index
    order, given by the processors' APIC IDs in that order. -/
def runOnAllProcessors {σ : Type} (apicIds : List ApicId) (callback : σ → ApicId → Except σ σ)
    (s : σ) : Except σ σ :=
  apicIds.foldlM callback s

/-- `init()`: `assert!(PROCESSOR_COUNT.load() == 0)`, then the callback everywhere. -/
def init (apicIds : List ApicId) (s : Registry) : Except Registry Registry :=
  if s.processorCount = 0 then runOnAllProcessors apicIds registerProcessor s else .error s

/-- `processor_id_from(apic_id)`. -/
def processorIdFrom (s : Registry) (apicId : ApicId) : Option Nat := s.apicIdMap apicId

/-- Registering `a` maps it to the current count and leaves every other key. -/
@[simp] theorem register_apicIdMap (s : Registry) (a b : ApicId) :
    (s.register a).apicIdMap b = if b = a then some s.processorCount else s.apicIdMap b :=
  Function.update_apply _ _ _ _

/-- Registering one processor adds one to the count. -/
@[simp] theorem register_processorCount (s : Registry) (a : ApicId) :
    (s.register a).processorCount = s.processorCount + 1 := rfl

/-! ## A run of the callbacks -/

/-- IDs never registered before in `s`. -/
def Fresh (s : Registry) (apicIds : List ApicId) : Prop := ∀ a ∈ apicIds, s.apicIdMap a = none

/-- The IDs still to come stay fresh after registering `a` exactly when `a` is not among them. -/
theorem fresh_register_iff (s : Registry) (a : ApicId) (l : List ApicId) :
    Fresh (s.register a) l ↔ a ∉ l ∧ Fresh s l := by
  simp only [Fresh, register_apicIdMap]
  constructor
  · intro h
    refine ⟨fun ha => by simpa using h a ha, fun b hb => ?_⟩
    by_cases hba : b = a <;> simpa [hba] using h b hb
  · rintro ⟨ha, h⟩ b hb
    rw [if_neg (by rintro rfl; exact ha hb)]
    exact h b hb

/-- **RUN**: the callbacks complete exactly when the IDs are pairwise distinct and
    unregistered, and then leave the fold of `register`. -/
theorem foldlM_register_ok (l : List ApicId) (s s' : Registry) :
    l.foldlM registerProcessor s = .ok s' ↔ (l.Nodup ∧ Fresh s l) ∧ s' = l.foldl Registry.register s := by
  induction l generalizing s with
  | nil =>
    exact ⟨fun h => ⟨⟨List.nodup_nil, fun _ h => absurd h (List.not_mem_nil _)⟩, (Except.ok.inj h).symm⟩,
      fun h => h.2 ▸ rfl⟩
  | cons a l ih =>
    rw [List.foldlM_cons, List.nodup_cons, List.foldl_cons]
    by_cases ha : s.apicIdMap a = none
    · have hstep : registerProcessor s a = .ok (s.register a) := if_pos (by simp [ha])
      have hfresh : Fresh s (a :: l) ↔ Fresh s l := by simp [Fresh, ha]
      rw [hstep, hfresh]
      show l.foldlM registerProcessor (s.register a) = .ok s' ↔ _
      rw [ih, fresh_register_iff]
      tauto
    · have hstep : registerProcessor s a = .error (s.register a) := if_neg (by simpa using ha)
      rw [hstep]
      exact ⟨(fun h => by cases h), fun ⟨⟨_, hf⟩, _⟩ => absurd (hf a (List.mem_cons_self a l)) ha⟩

/-- Registering a list of processors adds its length to the count. -/
theorem foldl_register_processorCount (l : List ApicId) (s : Registry) :
    (l.foldl Registry.register s).processorCount = s.processorCount + l.length := by
  induction l generalizing s with
  | nil => rfl
  | cons a l ih => simp only [List.foldl_cons, ih, register_processorCount, List.length_cons]; omega

/-- An ID the run does not visit keeps its entry. -/
theorem foldl_register_of_not_mem {l : List ApicId} {x : ApicId} (hx : x ∉ l) (s : Registry) :
    (l.foldl Registry.register s).apicIdMap x = s.apicIdMap x := by
  induction l generalizing s with
  | nil => rfl
  | cons a l ih =>
    rw [List.mem_cons, not_or] at hx
    rw [List.foldl_cons, ih hx.2, register_apicIdMap, if_neg hx.1]

/-- The `k`-th visited ID gets processor number `count + k`. -/
theorem foldl_register_get {l : List ApicId} (hl : l.Nodup) (s : Registry) (k : Nat) (hk : k < l.length) :
    (l.foldl Registry.register s).apicIdMap (l.get ⟨k, hk⟩) = some (s.processorCount + k) := by
  induction l generalizing s k with
  | nil => exact absurd hk (Nat.not_lt_zero _)
  | cons a l ih =>
    rw [List.nodup_cons] at hl
    cases k with
    | zero => simp [foldl_register_of_not_mem hl.1]
    | succ k =>
      rw [List.foldl_cons]
      simpa [Nat.add_assoc, Nat.add_comm 1 k] using ih hl.2 (s.register a) k (by simpa using hk)

/-! ## `init` -/

/-- **REGISTRY**: from the boot statics, `init` completes exactly when the APIC IDs
    of the visited processors are pairwise distinct (so there are at most 256);
    then `PROCESSOR_COUNT` is their number, `processor_id_from` sends the `k`-th to
    `k` and every other ID to `None`, and a second `init` panics at its first
    assertion with the registry unchanged. -/
theorem init_registers_bijection (apicIds : List ApicId) :
    ((∃ s, init apicIds Registry.empty = .ok s) ↔ apicIds.Nodup) ∧
    ∀ s, init apicIds Registry.empty = .ok s →
      s.processorCount = apicIds.length ∧ apicIds.length ≤ 256 ∧
      (∀ k (hk : k < apicIds.length), processorIdFrom s (apicIds.get ⟨k, hk⟩) = some k) ∧
      (∀ x, x ∉ apicIds → processorIdFrom s x = none) ∧
      (0 < apicIds.length → ∀ apicIds', init apicIds' s = .error s) := by
  have hrun : ∀ s, init apicIds Registry.empty = .ok s ↔
      apicIds.Nodup ∧ s = apicIds.foldl Registry.register Registry.empty := by
    intro s
    rw [init, if_pos (show Registry.empty.processorCount = 0 from rfl), runOnAllProcessors,
      foldlM_register_ok]
    simp [Fresh, Registry.empty]
  refine ⟨⟨fun ⟨s, hs⟩ => ((hrun s).1 hs).1, fun hnd => ⟨_, (hrun _).2 ⟨hnd, rfl⟩⟩⟩, ?_⟩
  intro s hs
  obtain ⟨hnd, rfl⟩ := (hrun s).1 hs
  have hcount : (apicIds.foldl Registry.register Registry.empty).processorCount = apicIds.length :=
    (foldl_register_processorCount apicIds Registry.empty).trans (Nat.zero_add _)
  refine ⟨hcount, ?_, fun k hk => ?_, fun x hx => ?_, fun hpos _ => if_neg (by omega)⟩
  · have := hnd.length_le_card
    rwa [Fintype.card_fin] at this
  · simpa [Registry.empty] using foldl_register_get hnd Registry.empty k hk
  · exact foldl_register_of_not_mem hx Registry.empty

end Apic
