/-
  File:      NvdecVaapi/Vorrat.lean
  Subject:   `vaapi_driver.c`: the surface and context pools of the minimal encode driver, and what
             its create and destroy calls do to them over whole runs.

  The driver keeps two static arrays, `surface_pool[MAX_SURFACES]` and
  `context_pool[MAX_CONTEXTS]`, and two `int` counters. A create call takes the first entry whose
  `allocated` is clear and gives it the id `next_..._id++`; a destroy call clears `allocated` on
  the first allocated entry with the id, and leaves the id in place. Of an entry the driver reads
  only `allocated` and the id; the sizes, the config and the render targets it stores are read by
  nothing. `vaCreateSurfaces` returns `ALLOCATION_FAILED` in the middle of its loop and keeps the
  entries it has taken; `vaCreateContext` fails before it takes one. No lock guards the statics:
  each call is one step of the runs here.

  * `Eintrag`, `Vorrat`, `vaCreateSurfaces`, `vaDestroySurfaces`, `vaCreateContext`,
    `vaDestroyContext` -- the statics and the four calls as the source computes them, `none` where
    `++` overflows an `int` counter;
  * `lebend`, `frei` -- the ids of the allocated entries, and the number of free entries;
  * `PoolInv`, **`vorrat_inv`** -- in every state a run of the four calls reaches, the allocated
    entries of each pool carry distinct ids, all positive and below the pool's counter;
  * **`vaCreateSurfaces_ergebnis`** -- a call for `k` surfaces overflows the counter exactly when
    it would hand out an id past `INT_MAX`; otherwise it hands out the next `min k frei` ids in
    order and allocates them, and fails, keeping them, when fewer than `k` entries were free;
  * **`vaDestroySurfaces_ergebnis`** -- the live ids lose exactly the listed ones;
    **`surfaces_hin_und_zurueck`** -- destroying what a successful create returned gives back the
    live ids and the free entries the pool had;
  * **`contexte_ergebnis`** -- `vaCreateContext` takes one entry or none, `vaDestroyContext` frees
    exactly the Context asked for and reports an unknown one without changing anything.
-/
import NvdecVaapi.Basis

namespace NvdecVaapi

/-! ## 1. The statics and the four calls -/

/-- `MAX_SURFACES`. Irreducible, as `MAX_CONTEXTS`: the proofs hold for a pool of any size and
    never enumerate one. -/
@[irreducible] def MAX_SURFACES : Nat := 256

/-- `MAX_CONTEXTS`. -/
@[irreducible] def MAX_CONTEXTS : Nat := 16

/-- `INT_MAX`: the counters are `int`s, and `next_surface_id++` on `INT_MAX` is undefined. -/
def INT_MAX : Nat := 2 ^ 31 - 1

/-- An entry of `surface_pool` (`Surface`) or of `context_pool` (`Context`), with the two fields the
    driver reads: the id (`surface_id`, `context_id`) and `allocated`. -/
structure Eintrag where
  id : Nat
  allocated : Bool
  deriving DecidableEq, Repr

/-- The statics of `vaapi_driver.c`. -/
structure Vorrat where
  surface_pool : Fin MAX_SURFACES → Eintrag
  next_surface_id : Nat
  context_pool : Fin MAX_CONTEXTS → Eintrag
  next_context_id : Nat

/-- At load time: zeroed pools, both counters at 1. -/
def Vorrat.anfang : Vorrat := ⟨fun _ => ⟨0, false⟩, 1, fun _ => ⟨0, false⟩, 1⟩

section Pool

variable {n : Nat}

/-- `for (; j < n; j++) if (p(j)) ...`: the first entry from `j` on with `p`, in at most `k`
    rounds. -/
def ersterSlotAb (p : Fin n → Bool) : Nat → Nat → Option (Fin n)
  | 0, _ => none
  | k + 1, j =>
    if h : j < n then if p ⟨j, h⟩ then some ⟨j, h⟩ else ersterSlotAb p k (j + 1) else none

/-- The first entry `j = 0, 1, ...` with `p`, in the order the `for` loops scan. -/
def ersterSlot (p : Fin n → Bool) : Option (Fin n) := ersterSlotAb p n 0

/-- The entry the create loops take: the first one not allocated. -/
def freierSlot (pool : Fin n → Eintrag) : Option (Fin n) :=
  ersterSlot fun j => !(pool j).allocated

/-- The entry the destroy loops free: the first allocated one with the id. -/
def slotMitId (pool : Fin n → Eintrag) (x : Nat) : Option (Fin n) :=
  ersterSlot fun j => (pool j).allocated && (pool j).id == x

/-- `pool[j].allocated = 1; pool[j].id = id`. -/
def belege (pool : Fin n → Eintrag) (j : Fin n) (id : Nat) : Fin n → Eintrag :=
  Function.update pool j ⟨id, true⟩

/-- `pool[j].allocated = 0`; the id stays. -/
def raeume (pool : Fin n → Eintrag) (j : Fin n) : Fin n → Eintrag :=
  Function.update pool j { pool j with allocated := false }

/-- The inner loop of `vaDestroySurfaces` for the id `x`: the first allocated entry with it freed;
    an id no allocated entry has is passed over. -/
def raeumeId (pool : Fin n → Eintrag) (x : Nat) : Fin n → Eintrag :=
  match slotMitId pool x with
  | none => pool
  | some j => raeume pool j

/-- The loop of `vaCreateSurfaces` for `k` more surfaces, on the pool and its counter `next`: each
    takes the first free entry and the id `next++`, written to `surfaces[i]`; with no free entry
    the call returns `ALLOCATION_FAILED` and keeps what it took. `none`: `++` on `INT_MAX`. -/
def nimmSurfaces : Nat → (Fin n → Eintrag) → Nat →
    Option (VAStatus × List Nat × (Fin n → Eintrag) × Nat)
  | 0, pool, next => some (.success, [], pool, next)
  | k + 1, pool, next =>
    match freierSlot pool with
    | none => some (.errorAllocationFailed, [], pool, next)
    | some j =>
      if next = INT_MAX then none
      else (nimmSurfaces k (belege pool j next) (next + 1)).map fun r => (r.1, next :: r.2.1, r.2.2)

end Pool

/-- `vaCreateSurfaces`: the status, the ids written to `surfaces`, the statics after it. -/
def vaCreateSurfaces (v : Vorrat) (surfaces_null : Bool) (num_surfaces : Nat) :
    Option (VAStatus × List Nat × Vorrat) :=
  if surfaces_null then some (.errorInvalidParameter, [], v)
  else (nimmSurfaces num_surfaces v.surface_pool v.next_surface_id).map fun r =>
    (r.1, r.2.1, { v with surface_pool := r.2.2.1, next_surface_id := r.2.2.2 })

/-- `vaDestroySurfaces`; `none` is a `NULL` list. -/
def vaDestroySurfaces (v : Vorrat) : Option (List Nat) → VAStatus × Vorrat
  | none => (.errorInvalidParameter, v)
  | some surfaces => (.success, { v with surface_pool := surfaces.foldl raeumeId v.surface_pool })

/-- `vaCreateContext`: the status, the id written to `*context`, the statics after it. -/
def vaCreateContext (v : Vorrat) (context_null : Bool) :
    Option (VAStatus × Option Nat × Vorrat) :=
  if context_null then some (.errorInvalidParameter, none, v)
  else
    match freierSlot v.context_pool with
    | none => some (.errorAllocationFailed, none, v)
    | some i =>
      if v.next_context_id = INT_MAX then none
      else some (.success, some v.next_context_id,
        { v with context_pool := belege v.context_pool i v.next_context_id,
                 next_context_id := v.next_context_id + 1 })

/-- `vaDestroyContext`. -/
def vaDestroyContext (v : Vorrat) (context : Nat) : VAStatus × Vorrat :=
  match slotMitId v.context_pool context with
  | none => (.errorInvalidContext, v)
  | some i => (.success, { v with context_pool := raeume v.context_pool i })

/-- The calls of `vaapi_driver.c` that change its statics, with the arguments they read. -/
inductive VAufruf where
  | CreateSurfaces (surfaces_null : Bool) (num_surfaces : Nat)
  | DestroySurfaces (surfaces : Option (List Nat))
  | CreateContext (context_null : Bool)
  | DestroyContext (context : Nat)

/-- The statics after a call, if it has no undefined behaviour. -/
def VAufruf.nach (v : Vorrat) : VAufruf → Option Vorrat
  | .CreateSurfaces b k => (vaCreateSurfaces v b k).map fun r => r.2.2
  | .DestroySurfaces l => some (vaDestroySurfaces v l).2
  | .CreateContext b => (vaCreateContext v b).map fun r => r.2.2
  | .DestroyContext c => some (vaDestroyContext v c).2

/-- The states a run of calls reaches from load time. -/
inductive VErreichbar : Vorrat → Prop
  | anfang : VErreichbar .anfang
  | schritt {v v' : Vorrat} (a : VAufruf) : VErreichbar v → a.nach v = some v' → VErreichbar v'

/-! ## 2. The live ids and the free entries -/

section Pool

variable {n : Nat} {pool : Fin n → Eintrag}

/-- The ids of the allocated entries: the handles given out and not taken back. -/
def lebend (pool : Fin n → Eintrag) : Finset Nat :=
  (Finset.univ.filter fun j => (pool j).allocated).image fun j => (pool j).id

/-- The number of entries not allocated. -/
def frei (pool : Fin n → Eintrag) : Nat :=
  (Finset.univ.filter fun j => (pool j).allocated = false).card

/-- The invariant of a pool with the counter `next`: the allocated entries carry distinct ids,
    each positive and below `next`, and `next` lies between 1 and `INT_MAX`. -/
structure PoolInv (pool : Fin n → Eintrag) (next : Nat) : Prop where
  id_lt : ∀ j, (pool j).allocated → 0 < (pool j).id ∧ (pool j).id < next
  eindeutig : ∀ i j, (pool i).allocated → (pool j).allocated → (pool i).id = (pool j).id →
    i = j
  next_pos : 0 < next
  next_le : next ≤ INT_MAX

theorem mem_lebend {x : Nat} :
    x ∈ lebend pool ↔ ∃ j, (pool j).allocated ∧ (pool j).id = x := by
  simp [lebend]

theorem ersterSlotAb_some {p : Fin n → Bool} {j : Fin n} :
    ∀ {k i : Nat}, ersterSlotAb p k i = some j → p j
  | 0, _, h => by cases h
  | k + 1, i, h => by
    simp only [ersterSlotAb] at h
    split_ifs at h with h₁ h₂
    · cases h
      exact h₂
    · exact ersterSlotAb_some h

theorem ersterSlotAb_none {p : Fin n → Bool} :
    ∀ {k i : Nat}, ersterSlotAb p k i = none →
      ∀ j : Fin n, i ≤ j → j < i + k → p j = false
  | 0, _, _, _, h₁, h₂ => by omega
  | k + 1, i, h, j, h₁, h₂ => by
    simp only [ersterSlotAb] at h
    split_ifs at h with h₃ h₄
    · rcases Nat.eq_or_lt_of_le h₁ with e | e
      · rw [show j = ⟨i, h₃⟩ from Fin.ext e.symm]
        simpa using h₄
      · exact ersterSlotAb_none h j e (by omega)
    · omega

theorem ersterSlot_some {p : Fin n → Bool} {j : Fin n} (h : ersterSlot p = some j) : p j :=
  ersterSlotAb_some h

theorem ersterSlot_none {p : Fin n → Bool} (h : ersterSlot p = none) (j : Fin n) : p j = false :=
  ersterSlotAb_none h j (Nat.zero_le _) (by omega)

theorem freierSlot_some {j : Fin n} (h : freierSlot pool = some j) :
    (pool j).allocated = false := by
  simpa using ersterSlot_some h

theorem frei_eq_zero : frei pool = 0 ↔ freierSlot pool = none := by
  constructor
  · intro h
    cases e : freierSlot pool with
    | none => rfl
    | some j =>
      have : j ∈ Finset.univ.filter fun j => (pool j).allocated = false := by
        simpa using freierSlot_some e
      rw [frei, Finset.card_eq_zero] at h
      simp [h] at this
  · intro h
    rw [frei, Finset.card_eq_zero, Finset.filter_eq_empty_iff]
    intro j _
    simpa using ersterSlot_none h j

theorem slotMitId_some {x : Nat} {j : Fin n} (h : slotMitId pool x = some j) :
    (pool j).allocated ∧ (pool j).id = x := by
  simpa using ersterSlot_some h

theorem slotMitId_none {x : Nat} (h : slotMitId pool x = none) : x ∉ lebend pool := by
  rw [mem_lebend]
  rintro ⟨j, ha, rfl⟩
  simpa [ha] using ersterSlot_none h j

theorem lebend_belege {j : Fin n} (hj : (pool j).allocated = false) (id : Nat) :
    lebend (belege pool j id) = insert id (lebend pool) := by
  ext x
  simp only [mem_lebend, Finset.mem_insert, belege, Function.update_apply]
  constructor
  · rintro ⟨i, ha, rfl⟩
    by_cases e : i = j
    · exact .inl (by simp [e])
    · exact .inr ⟨i, by simpa [e] using ha, by simp [e]⟩
  · rintro (rfl | ⟨i, ha, rfl⟩)
    · exact ⟨j, by simp⟩
    · have e : i ≠ j := by rintro rfl; simp [hj] at ha
      exact ⟨i, by simpa [e] using ha, by simp [e]⟩

theorem frei_belege {j : Fin n} (hj : (pool j).allocated = false) (id : Nat) :
    frei (belege pool j id) + 1 = frei pool := by
  have hs : (Finset.univ.filter fun i => (belege pool j id i).allocated = false) =
      (Finset.univ.filter fun i => (pool i).allocated = false).erase j := by
    ext i
    by_cases e : i = j <;> simp [belege, Function.update_apply, e]
  have hm : j ∈ Finset.univ.filter fun i => (pool i).allocated = false := by simpa using hj
  rw [frei, hs, Finset.card_erase_of_mem hm, frei,
    Nat.sub_add_cancel (Finset.card_pos.mpr ⟨j, hm⟩)]

theorem lebend_raeume (hi : PoolInv pool next) {j : Fin n} (hj : (pool j).allocated) :
    lebend (raeume pool j) = (lebend pool).erase (pool j).id := by
  ext x
  simp only [mem_lebend, Finset.mem_erase, raeume, Function.update_apply]
  constructor
  · rintro ⟨i, ha, rfl⟩
    have e : i ≠ j := by rintro rfl; simp at ha
    simp only [e, ↓reduceIte] at ha ⊢
    exact ⟨fun h => e (hi.eindeutig i j ha hj h), i, ha, rfl⟩
  · rintro ⟨hx, i, ha, rfl⟩
    have e : i ≠ j := by rintro rfl; exact hx rfl
    exact ⟨i, by simpa [e] using ha, by simp [e]⟩

theorem PoolInv.belege (hi : PoolInv pool next) {j : Fin n} (hj : (pool j).allocated = false)
    (hn : next < INT_MAX) : PoolInv (belege pool j next) (next + 1) where
  id_lt i ha := by
    by_cases e : i = j
    · subst e
      simp only [NvdecVaapi.belege, Function.update_same]
      exact ⟨hi.next_pos, by omega⟩
    · simp only [NvdecVaapi.belege, Function.update_noteq e] at ha ⊢
      have := hi.id_lt i ha
      omega
  eindeutig i i' ha ha' h := by
    by_cases e : i = j <;> by_cases e' : i' = j
    · rw [e, e']
    · subst e
      simp only [NvdecVaapi.belege, Function.update_same, Function.update_noteq e'] at ha' h
      have := hi.id_lt i' ha'
      omega
    · subst e'
      simp only [NvdecVaapi.belege, Function.update_same, Function.update_noteq e] at ha h
      have := hi.id_lt i ha
      omega
    · simp only [NvdecVaapi.belege, Function.update_noteq e, Function.update_noteq e'] at ha ha' h
      exact hi.eindeutig i i' ha ha' h
  next_pos := by omega
  next_le := hn

theorem PoolInv.raeume (hi : PoolInv pool next) (j : Fin n) : PoolInv (raeume pool j) next where
  id_lt i ha := by
    by_cases e : i = j
    · subst e; simp [NvdecVaapi.raeume] at ha
    · simp only [NvdecVaapi.raeume, Function.update_noteq e] at ha ⊢
      exact hi.id_lt i ha
  eindeutig i i' ha ha' h := by
    have hr : ∀ k, (NvdecVaapi.raeume pool j k).allocated → k ≠ j ∧ (pool k).allocated := by
      intro k hk
      by_cases e : k = j
      · subst e; simp [NvdecVaapi.raeume] at hk
      · simp only [NvdecVaapi.raeume, Function.update_noteq e] at hk
        exact ⟨e, hk⟩
    obtain ⟨e, ha⟩ := hr i ha
    obtain ⟨e', ha'⟩ := hr i' ha'
    simp only [NvdecVaapi.raeume, Function.update_noteq e, Function.update_noteq e'] at h
    exact hi.eindeutig i i' ha ha' h
  next_pos := hi.next_pos
  next_le := hi.next_le

/-- The zeroed pool of load time. -/
theorem poolInv_anfang : PoolInv (fun _ : Fin n => (⟨0, false⟩ : Eintrag)) 1 where
  id_lt _ h := by simp at h
  eindeutig _ _ h := by simp at h
  next_pos := Nat.one_pos
  next_le := by decide

theorem lebend_anfang : lebend (fun _ : Fin n => (⟨0, false⟩ : Eintrag)) = ∅ := by
  simp [lebend]

theorem frei_anfang : frei (fun _ : Fin n => (⟨0, false⟩ : Eintrag)) = n := by
  simp [frei]

end Pool

theorem MAX_SURFACES_eq : MAX_SURFACES = 256 := by
  unfold MAX_SURFACES
  rfl

theorem MAX_CONTEXTS_eq : MAX_CONTEXTS = 16 := by
  unfold MAX_CONTEXTS
  rfl

/-- Load time: both pools empty and all free, both counters at 1. -/
theorem Vorrat.anfang_inv :
    PoolInv Vorrat.anfang.surface_pool Vorrat.anfang.next_surface_id ∧
      PoolInv Vorrat.anfang.context_pool Vorrat.anfang.next_context_id :=
  ⟨poolInv_anfang, poolInv_anfang⟩

theorem Vorrat.anfang_frei :
    frei Vorrat.anfang.surface_pool = 256 ∧ frei Vorrat.anfang.context_pool = 16 := by
  rw [← MAX_SURFACES_eq, ← MAX_CONTEXTS_eq]
  exact ⟨frei_anfang, frei_anfang⟩

/-! ## 3. `vaCreateSurfaces` -/

section Pool

variable {n : Nat} {pool : Fin n → Eintrag} {next : Nat}

theorem nimmSurfaces_voll {k : Nat} (e : freierSlot pool = none) :
    nimmSurfaces (k + 1) pool next = some (.errorAllocationFailed, [], pool, next) := by
  rw [nimmSurfaces, e]

theorem nimmSurfaces_nimm {k : Nat} {j : Fin n} (e : freierSlot pool = some j)
    (hne : next ≠ INT_MAX) :
    nimmSurfaces (k + 1) pool next =
      (nimmSurfaces k (belege pool j next) (next + 1)).map
        fun r => (r.1, next :: r.2.1, r.2.2) := by
  rw [nimmSurfaces, e]
  exact if_neg hne

theorem nimmSurfaces_ueberlauf {k : Nat} {j : Fin n} (e : freierSlot pool = some j)
    (hne : next = INT_MAX) : nimmSurfaces (k + 1) pool next = none := by
  rw [nimmSurfaces, e]
  exact if_pos hne

theorem insert_union_range' (L : Finset Nat) (a m : Nat) :
    insert a L ∪ (List.range' (a + 1) m).toFinset = L ∪ (List.range' a (m + 1)).toFinset := by
  rw [List.range'_succ, List.toFinset_cons, Finset.union_insert, Finset.insert_union]

/-- **The loop of `vaCreateSurfaces`** when no id it hands out passes `INT_MAX`: it hands out the
    next `min k frei` ids in order, allocates them, and succeeds exactly when `k` entries were
    free. -/
theorem nimmSurfaces_some (k : Nat) (pool : Fin n → Eintrag) (next : Nat)
    (hb : next + min k (frei pool) ≤ INT_MAX) :
    ∃ pool', nimmSurfaces k pool next =
        some (if k ≤ frei pool then .success else .errorAllocationFailed,
          List.range' next (min k (frei pool)), pool', next + min k (frei pool)) ∧
      lebend pool' = lebend pool ∪ (List.range' next (min k (frei pool))).toFinset ∧
      frei pool' + min k (frei pool) = frei pool := by
  induction k generalizing pool next with
  | zero =>
    refine ⟨pool, ?_, ?_, ?_⟩ <;>
      simp only [Nat.zero_min, Nat.zero_le, ↓reduceIte, List.range'_zero, List.toFinset_nil,
        Finset.union_empty, Nat.add_zero, nimmSurfaces]
  | succ k ih =>
    rcases e : freierSlot pool with _ | j
    · have h0 := frei_eq_zero.mpr e
      refine ⟨pool, ?_, ?_, ?_⟩ <;>
        simp only [nimmSurfaces_voll e, h0, Nat.min_zero, Nat.le_zero, Nat.add_one_ne_zero,
          ↓reduceIte, List.range'_zero, List.toFinset_nil, Finset.union_empty, Nat.add_zero]
    have hf := frei_belege (freierSlot_some e) next
    obtain ⟨pool', h, hl, hfr⟩ := ih (belege pool j next) (next + 1) (by omega)
    have hm : min (k + 1) (frei pool) = min k (frei (belege pool j next)) + 1 := by omega
    have hs : (k + 1 ≤ frei pool) = (k ≤ frei (belege pool j next)) := propext (by omega)
    refine ⟨pool', ?_, ?_, by omega⟩
    · rw [nimmSurfaces_nimm e (by omega), h, hm, List.range'_succ]
      simp only [Option.map_some', hs, Nat.add_right_comm next 1, Nat.add_assoc]
    · rw [hl, lebend_belege (freierSlot_some e), hm, insert_union_range']

/-- The loop has undefined behaviour once an id it would hand out passes `INT_MAX`. -/
theorem nimmSurfaces_none (k : Nat) (pool : Fin n → Eintrag) (next : Nat) (hn : next ≤ INT_MAX)
    (hb : INT_MAX < next + min k (frei pool)) : nimmSurfaces k pool next = none := by
  induction k generalizing pool next with
  | zero => omega
  | succ k ih =>
    rcases e : freierSlot pool with _ | j
    · rw [frei_eq_zero.mpr e] at hb
      omega
    have hf := frei_belege (freierSlot_some e) next
    by_cases hne : next = INT_MAX
    · exact nimmSurfaces_ueberlauf e hne
    · rw [nimmSurfaces_nimm e hne, ih _ _ (by omega) (by omega)]
      rfl

/-- The loop keeps the pool's invariant. -/
theorem poolInv_nimmSurfaces {k : Nat} {st : VAStatus} {ids : List Nat} {pool' : Fin n → Eintrag}
    {next' : Nat} (hi : PoolInv pool next)
    (h : nimmSurfaces k pool next = some (st, ids, pool', next')) :
    PoolInv pool' next' := by
  induction k generalizing pool next ids with
  | zero =>
    cases h
    exact hi
  | succ k ih =>
    rcases e : freierSlot pool with _ | j
    · rw [nimmSurfaces_voll e] at h
      cases h
      exact hi
    by_cases hne : next = INT_MAX
    · rw [nimmSurfaces_ueberlauf e hne] at h
      cases h
    rw [nimmSurfaces_nimm e hne] at h
    obtain ⟨⟨st₁, ids₁, p₁, n₁⟩, h₁, he⟩ := Option.map_eq_some'.mp h
    cases he
    exact ih (hi.belege (freierSlot_some e) (by have := hi.next_le; omega)) h₁

/-- Under the invariant every live id lies below the counter, so the ids from the counter on are
    fresh. -/
theorem PoolInv.disjoint_range' (hi : PoolInv pool next) (m : Nat) :
    Disjoint (lebend pool) (List.range' next m).toFinset := by
  rw [Finset.disjoint_left]
  intro x hx hx'
  obtain ⟨j, ha, rfl⟩ := mem_lebend.mp hx
  have := hi.id_lt j ha
  rw [List.mem_toFinset, List.mem_range'_1] at hx'
  omega

end Pool

/-- **`vaCreateSurfaces`**, on every pool whose invariant holds: a call for `k` surfaces has
    undefined behaviour exactly when an id it would hand out passes `INT_MAX`. Otherwise it hands
    out the next `min k frei` ids in order, none of them live before and all live after, and it
    returns `ALLOCATION_FAILED`, keeping the entries it took, exactly when fewer than `k` entries
    were free; the contexts are untouched. -/
theorem vaCreateSurfaces_ergebnis {v : Vorrat} (hi : PoolInv v.surface_pool v.next_surface_id)
    (k : Nat) :
    (vaCreateSurfaces v false k = none ↔
      INT_MAX < v.next_surface_id + min k (frei v.surface_pool)) ∧
    (v.next_surface_id + min k (frei v.surface_pool) ≤ INT_MAX →
      ∃ v', vaCreateSurfaces v false k =
          some (if k ≤ frei v.surface_pool then .success else .errorAllocationFailed,
            List.range' v.next_surface_id (min k (frei v.surface_pool)), v') ∧
        lebend v'.surface_pool = lebend v.surface_pool ∪
          (List.range' v.next_surface_id (min k (frei v.surface_pool))).toFinset ∧
        Disjoint (lebend v.surface_pool)
          (List.range' v.next_surface_id (min k (frei v.surface_pool))).toFinset ∧
        frei v'.surface_pool + min k (frei v.surface_pool) = frei v.surface_pool ∧
        v'.context_pool = v.context_pool ∧ v'.next_context_id = v.next_context_id) := by
  have hs : ∀ hb : v.next_surface_id + min k (frei v.surface_pool) ≤ INT_MAX, _ := fun hb =>
    nimmSurfaces_some k v.surface_pool v.next_surface_id hb
  refine ⟨⟨fun h => Nat.lt_of_not_le fun hb => ?_, fun hb => ?_⟩, fun hb => ?_⟩
  · obtain ⟨p', e, -⟩ := hs hb
    simp [vaCreateSurfaces, e] at h
  · simp [vaCreateSurfaces, nimmSurfaces_none k _ _ hi.next_le hb]
  · obtain ⟨p', e, hl, hf⟩ := hs hb
    exact ⟨{ v with surface_pool := p',
                    next_surface_id := v.next_surface_id + min k (frei v.surface_pool) },
      by simp only [vaCreateSurfaces, e, Bool.false_eq_true, ↓reduceIte, Option.map_some'],
      hl, hi.disjoint_range' _, hf, rfl, rfl⟩

theorem vaCreateSurfaces_ergebnis_anfang :
    PoolInv Vorrat.anfang.surface_pool Vorrat.anfang.next_surface_id ∧
      ∃ v', vaCreateSurfaces Vorrat.anfang false 3 = some (.success, [1, 2, 3], v') ∧
        lebend v'.surface_pool = {1, 2, 3} := by
  have hf := Vorrat.anfang_frei.1
  obtain ⟨v', e, hl, -⟩ :=
    (vaCreateSurfaces_ergebnis Vorrat.anfang_inv.1 3).2 (by rw [hf]; decide)
  simp only [hf] at e hl
  refine ⟨Vorrat.anfang_inv.1, v', e, ?_⟩
  rw [hl]
  simp only [Vorrat.anfang, lebend_anfang]
  decide

/-- A call that returns took its result from the loop. -/
theorem vaCreateSurfaces_eq_some {v v₁ : Vorrat} {k : Nat} {st : VAStatus} {ids : List Nat}
    (h : vaCreateSurfaces v false k = some (st, ids, v₁)) :
    ∃ p₁ n₁, nimmSurfaces k v.surface_pool v.next_surface_id = some (st, ids, p₁, n₁) ∧
      v₁ = { v with surface_pool := p₁, next_surface_id := n₁ } := by
  simp only [vaCreateSurfaces, Bool.false_eq_true, ↓reduceIte] at h
  obtain ⟨⟨st', ids', p', n'⟩, h', he⟩ := Option.map_eq_some'.mp h
  cases he
  exact ⟨p', n', h', rfl⟩

/-- The first call of a run: three surfaces from load time get the ids 1, 2 and 3. -/
theorem anfang_drei_surfaces :
    ∃ v₁, vaCreateSurfaces Vorrat.anfang false 3 = some (.success, [1, 2, 3], v₁) ∧
      lebend v₁.surface_pool = {1, 2, 3} ∧ PoolInv v₁.surface_pool v₁.next_surface_id ∧
      v₁.context_pool = Vorrat.anfang.context_pool ∧
      v₁.next_context_id = Vorrat.anfang.next_context_id := by
  have hf := Vorrat.anfang_frei.1
  obtain ⟨p', e, hl, -⟩ := nimmSurfaces_some 3 Vorrat.anfang.surface_pool
    Vorrat.anfang.next_surface_id (by rw [hf]; decide)
  have e' : nimmSurfaces 3 Vorrat.anfang.surface_pool Vorrat.anfang.next_surface_id =
      some (.success, [1, 2, 3], p', 4) := by
    rw [e, hf]
    rfl
  refine ⟨{ Vorrat.anfang with surface_pool := p', next_surface_id := 4 },
    by simp only [vaCreateSurfaces, e', Bool.false_eq_true, ↓reduceIte, Option.map_some'], ?_,
    poolInv_nimmSurfaces Vorrat.anfang_inv.1 e', rfl, rfl⟩
  rw [hl, hf, Vorrat.anfang, lebend_anfang]
  decide

/-! ## 4. `vaDestroySurfaces`, and a create undone -/

section Pool

variable {n : Nat} {pool : Fin n → Eintrag} {next : Nat}

theorem lebend_raeumeId (hi : PoolInv pool next) (x : Nat) :
    lebend (raeumeId pool x) = (lebend pool).erase x := by
  unfold raeumeId
  rcases e : slotMitId pool x with _ | j
  · exact (Finset.erase_eq_of_not_mem (slotMitId_none e)).symm
  · obtain ⟨ha, rfl⟩ := slotMitId_some e
    exact lebend_raeume hi ha

theorem PoolInv.raeumeId (hi : PoolInv pool next) (x : Nat) :
    PoolInv (raeumeId pool x) next := by
  unfold NvdecVaapi.raeumeId
  split
  · exact hi
  · exact hi.raeume _

/-- The loop of `vaDestroySurfaces` takes exactly the listed ids out of the live ones. -/
theorem lebend_foldl_raeumeId (hi : PoolInv pool next) (l : List Nat) :
    lebend (l.foldl raeumeId pool) = lebend pool \ l.toFinset ∧
      PoolInv (l.foldl raeumeId pool) next := by
  induction l generalizing pool with
  | nil => exact ⟨by simp, hi⟩
  | cons x l ih =>
    obtain ⟨h₁, h₂⟩ := ih (hi.raeumeId x)
    refine ⟨?_, h₂⟩
    rw [List.foldl_cons, h₁, lebend_raeumeId hi, List.toFinset_cons, Finset.sdiff_insert,
      Finset.erase_sdiff_comm]

/-- With distinct ids, a pool of `n` entries has as many live ids as allocated entries. -/
theorem PoolInv.card_add_frei (hi : PoolInv pool next) : (lebend pool).card + frei pool = n := by
  have hinj : Set.InjOn (fun j => (pool j).id)
      (Finset.univ.filter fun j => (pool j).allocated = true : Finset (Fin n)) := by
    intro i hi' j hj' h
    simp only [Finset.coe_filter, Finset.mem_univ, true_and, Set.mem_setOf_eq] at hi' hj'
    exact hi.eindeutig i j hi' hj' h
  rw [lebend, Finset.card_image_of_injOn hinj, frei]
  simpa using Finset.filter_card_add_filter_neg_card_eq_card
    (s := (Finset.univ : Finset (Fin n))) fun j => (pool j).allocated = true

end Pool

/-- **`vaDestroySurfaces`**, on every pool whose invariant holds: the call succeeds, the live ids
    lose exactly the listed ones (an id no surface has is passed over), the invariant holds after
    it, and the counter and the contexts are untouched. -/
theorem vaDestroySurfaces_ergebnis {v : Vorrat} (hi : PoolInv v.surface_pool v.next_surface_id)
    (l : List Nat) :
    ∃ v', vaDestroySurfaces v (some l) = (.success, v') ∧
      lebend v'.surface_pool = lebend v.surface_pool \ l.toFinset ∧
      PoolInv v'.surface_pool v'.next_surface_id ∧ v'.next_surface_id = v.next_surface_id ∧
      v'.context_pool = v.context_pool ∧ v'.next_context_id = v.next_context_id :=
  ⟨_, rfl, (lebend_foldl_raeumeId hi l).1, (lebend_foldl_raeumeId hi l).2, rfl, rfl, rfl⟩

/-- Destroying a live and an unknown id after three surfaces were created. -/
theorem vaDestroySurfaces_ergebnis_lauf :
    ∃ v₁, vaCreateSurfaces Vorrat.anfang false 3 = some (.success, [1, 2, 3], v₁) ∧
      PoolInv v₁.surface_pool v₁.next_surface_id ∧
      ∃ v₂, vaDestroySurfaces v₁ (some [2, 7]) = (.success, v₂) ∧
        lebend v₂.surface_pool = {1, 3} ∧ PoolInv v₂.surface_pool v₂.next_surface_id := by
  obtain ⟨v₁, h₁, hl₁, hi₁, -⟩ := anfang_drei_surfaces
  obtain ⟨v₂, e, hl, hi₂, -⟩ := vaDestroySurfaces_ergebnis hi₁ [2, 7]
  refine ⟨v₁, h₁, hi₁, v₂, e, ?_, hi₂⟩
  rw [hl, hl₁]
  decide

/-- **A successful create undone**: destroying the ids a successful `vaCreateSurfaces` returned
    gives back the live ids and the number of free entries the pool had before it; only the
    counter has moved on, by the number of surfaces. -/
theorem surfaces_hin_und_zurueck {v v₁ : Vorrat} {k : Nat} {ids : List Nat}
    (hi : PoolInv v.surface_pool v.next_surface_id)
    (h : vaCreateSurfaces v false k = some (.success, ids, v₁)) :
    ∃ v₂, vaDestroySurfaces v₁ (some ids) = (.success, v₂) ∧
      lebend v₂.surface_pool = lebend v.surface_pool ∧
      frei v₂.surface_pool = frei v.surface_pool ∧
      v₂.next_surface_id = v.next_surface_id + k := by
  obtain ⟨p₁, n₁, h₁, rfl⟩ := vaCreateSurfaces_eq_some h
  have hb : v.next_surface_id + min k (frei v.surface_pool) ≤ INT_MAX :=
    Nat.le_of_not_lt fun hlt => by simp [nimmSurfaces_none k _ _ hi.next_le hlt] at h₁
  obtain ⟨p', e, hl, -⟩ := nimmSurfaces_some k _ _ hb
  rw [h₁, Option.some.injEq, Prod.mk.injEq, Prod.mk.injEq, Prod.mk.injEq] at e
  obtain ⟨hst, hids, rfl, rfl⟩ := e
  have hk : k ≤ frei v.surface_pool := by
    by_contra hk
    simp [hk] at hst
  obtain ⟨hl₂, hi₂⟩ := lebend_foldl_raeumeId (poolInv_nimmSurfaces hi h₁) ids
  have hL : lebend (ids.foldl raeumeId p₁) = lebend v.surface_pool := by
    rw [hl₂, hl, hids, Finset.union_sdiff_cancel_right (hi.disjoint_range' _)]
  refine ⟨_, rfl, hL, ?_, by simp only [Nat.min_eq_left hk]⟩
  show frei (ids.foldl raeumeId p₁) = frei v.surface_pool
  have c₀ := hi.card_add_frei
  have c₂ := hi₂.card_add_frei
  rw [hL] at c₂
  omega

theorem surfaces_hin_und_zurueck_anfang :
    ∃ v₁, PoolInv Vorrat.anfang.surface_pool Vorrat.anfang.next_surface_id ∧
      vaCreateSurfaces Vorrat.anfang false 2 = some (.success, [1, 2], v₁) ∧
      ∃ v₂, vaDestroySurfaces v₁ (some [1, 2]) = (.success, v₂) ∧
        lebend v₂.surface_pool = ∅ ∧ v₂.next_surface_id = 3 := by
  have hf := Vorrat.anfang_frei.1
  obtain ⟨p', e, -⟩ := nimmSurfaces_some 2 Vorrat.anfang.surface_pool
    Vorrat.anfang.next_surface_id (by rw [hf]; decide)
  have e' : nimmSurfaces 2 Vorrat.anfang.surface_pool Vorrat.anfang.next_surface_id =
      some (.success, [1, 2], p', 3) := by
    rw [e, hf]
    rfl
  have h : vaCreateSurfaces Vorrat.anfang false 2 = some (.success, [1, 2],
      { Vorrat.anfang with surface_pool := p', next_surface_id := 3 }) := by
    simp only [vaCreateSurfaces, e', Bool.false_eq_true, ↓reduceIte, Option.map_some']
  obtain ⟨v₂, e₂, hl₂, -, hn₂⟩ := surfaces_hin_und_zurueck Vorrat.anfang_inv.1 h
  exact ⟨_, Vorrat.anfang_inv.1, h, v₂, e₂, by rw [hl₂, Vorrat.anfang, lebend_anfang], hn₂⟩

/-! ## 5. The contexts -/

/-- `vaCreateContext` with a free entry and the counter below `INT_MAX` hands out the counter's id
    and allocates it. -/
theorem vaCreateContext_nimm {v : Vorrat} (hp : 0 < frei v.context_pool)
    (hx : v.next_context_id < INT_MAX) :
    ∃ v', vaCreateContext v false = some (.success, some v.next_context_id, v') ∧
      lebend v'.context_pool = insert v.next_context_id (lebend v.context_pool) ∧
      frei v'.context_pool + 1 = frei v.context_pool ∧ v'.surface_pool = v.surface_pool ∧
      v'.next_surface_id = v.next_surface_id := by
  obtain ⟨i, e⟩ := Option.ne_none_iff_exists'.mp (mt frei_eq_zero.mpr hp.ne')
  exact ⟨{ v with context_pool := belege v.context_pool i v.next_context_id,
                  next_context_id := v.next_context_id + 1 },
    by simp [vaCreateContext, e, hx.ne], lebend_belege (freierSlot_some e) _,
    frei_belege (freierSlot_some e) _, rfl, rfl⟩

/-- **The context calls**, on every pool whose invariant holds: `vaCreateContext` has undefined
    behaviour exactly when an entry is free and the counter stands at `INT_MAX`; with no free
    entry it fails and changes nothing; otherwise it hands out the counter's id, which was not
    live, and allocates it. `vaDestroyContext` reports an id no Context has without changing
    anything, and otherwise takes exactly that id out of the live ones. Neither touches the
    surfaces. -/
theorem contexte_ergebnis {v : Vorrat} (hi : PoolInv v.context_pool v.next_context_id) (c : Nat) :
    (vaCreateContext v false = none ↔ 0 < frei v.context_pool ∧ v.next_context_id = INT_MAX) ∧
    (frei v.context_pool = 0 →
      vaCreateContext v false = some (.errorAllocationFailed, none, v)) ∧
    (0 < frei v.context_pool → v.next_context_id < INT_MAX →
      ∃ v', vaCreateContext v false = some (.success, some v.next_context_id, v') ∧
        v.next_context_id ∉ lebend v.context_pool ∧
        lebend v'.context_pool = insert v.next_context_id (lebend v.context_pool) ∧
        frei v'.context_pool + 1 = frei v.context_pool ∧ v'.surface_pool = v.surface_pool ∧
        v'.next_surface_id = v.next_surface_id) ∧
    (c ∉ lebend v.context_pool → vaDestroyContext v c = (.errorInvalidContext, v)) ∧
    (c ∈ lebend v.context_pool → ∃ v', vaDestroyContext v c = (.success, v') ∧
      lebend v'.context_pool = (lebend v.context_pool).erase c ∧
      v'.surface_pool = v.surface_pool ∧ v'.next_surface_id = v.next_surface_id) := by
  have hfrei : 0 < frei v.context_pool ↔ ∃ i, freierSlot v.context_pool = some i := by
    rw [Nat.pos_iff_ne_zero, Ne, frei_eq_zero]
    exact Option.ne_none_iff_exists'
  have hfresh : v.next_context_id ∉ lebend v.context_pool := fun hx =>
    Finset.disjoint_left.mp (hi.disjoint_range' 1) hx (by simp)
  refine ⟨⟨fun h => ?_, fun ⟨hp, hx⟩ => ?_⟩, fun h0 => ?_, fun hp hx => ?_, fun hc => ?_,
    fun hc => ?_⟩
  · rcases e : freierSlot v.context_pool with _ | i
    · simp [vaCreateContext, e] at h
    · by_cases hx : v.next_context_id = INT_MAX
      · exact ⟨hfrei.mpr ⟨i, e⟩, hx⟩
      · simp [vaCreateContext, e, hx] at h
  · obtain ⟨i, e⟩ := hfrei.mp hp
    simp [vaCreateContext, e, hx]
  · simp [vaCreateContext, frei_eq_zero.mp h0]
  · obtain ⟨v', e, hl, hf, hs, hn⟩ := vaCreateContext_nimm hp hx
    exact ⟨v', e, hfresh, hl, hf, hs, hn⟩
  · have e : slotMitId v.context_pool c = none := by
      rcases e : slotMitId v.context_pool c with _ | i
      · rfl
      · obtain ⟨ha, rfl⟩ := slotMitId_some e
        exact absurd (mem_lebend.mpr ⟨i, ha, rfl⟩) hc
    simp [vaDestroyContext, e]
  · rcases e : slotMitId v.context_pool c with _ | i
    · exact absurd hc (slotMitId_none e)
    · obtain ⟨ha, rfl⟩ := slotMitId_some e
      exact ⟨{ v with context_pool := raeume v.context_pool i }, by simp [vaDestroyContext, e],
        lebend_raeume hi ha, rfl, rfl⟩

theorem contexte_ergebnis_anfang :
    PoolInv Vorrat.anfang.context_pool Vorrat.anfang.next_context_id ∧
      vaDestroyContext Vorrat.anfang 7 = (.errorInvalidContext, Vorrat.anfang) ∧
      ∃ v', vaCreateContext Vorrat.anfang false = some (.success, some 1, v') ∧
        lebend v'.context_pool = {1} := by
  have hc := contexte_ergebnis Vorrat.anfang_inv.2 7
  have hl : lebend Vorrat.anfang.context_pool = ∅ := lebend_anfang
  have hf := Vorrat.anfang_frei.2
  obtain ⟨v', e, -, hl', -⟩ := hc.2.2.1 (by rw [hf]; decide) (by decide)
  exact ⟨Vorrat.anfang_inv.2, hc.2.2.2.1 (by simp [hl]), v', e, by rw [hl', hl]; rfl⟩

/-! ## 6. Every run -/

/-- Every call keeps the invariant of both pools. -/
theorem VAufruf.nach_inv {v v' : Vorrat} {a : VAufruf} (h : a.nach v = some v')
    (hs : PoolInv v.surface_pool v.next_surface_id)
    (hc : PoolInv v.context_pool v.next_context_id) :
    PoolInv v'.surface_pool v'.next_surface_id ∧ PoolInv v'.context_pool v'.next_context_id := by
  cases a with
  | CreateSurfaces b k =>
    obtain ⟨⟨st, ids, v₁⟩, h₁, rfl⟩ := Option.map_eq_some'.mp h
    cases b
    · obtain ⟨p₁, n₁, h₂, rfl⟩ := vaCreateSurfaces_eq_some h₁
      exact ⟨poolInv_nimmSurfaces hs h₂, hc⟩
    · cases h₁
      exact ⟨hs, hc⟩
  | DestroySurfaces l =>
    cases h
    cases l with
    | none => exact ⟨hs, hc⟩
    | some l => exact ⟨(lebend_foldl_raeumeId hs l).2, hc⟩
  | CreateContext b =>
    obtain ⟨⟨st, c, v₁⟩, h₁, rfl⟩ := Option.map_eq_some'.mp h
    cases b
    · rcases e : freierSlot v.context_pool with _ | i
      · simp only [vaCreateContext, e, Bool.false_eq_true, ↓reduceIte, Option.some.injEq,
          Prod.mk.injEq] at h₁
        obtain ⟨-, -, rfl⟩ := h₁
        exact ⟨hs, hc⟩
      · by_cases hx : v.next_context_id = INT_MAX
        · simp [vaCreateContext, e, hx] at h₁
        · simp only [vaCreateContext, e, hx, Bool.false_eq_true, ↓reduceIte, Option.some.injEq,
            Prod.mk.injEq] at h₁
          obtain ⟨-, -, rfl⟩ := h₁
          exact ⟨hs, hc.belege (freierSlot_some e) (Nat.lt_of_le_of_ne hc.next_le hx)⟩
    · cases h₁
      exact ⟨hs, hc⟩
  | DestroyContext c =>
    cases h
    unfold vaDestroyContext
    split
    · exact ⟨hs, hc⟩
    · exact ⟨hs, hc.raeume _⟩

/-- **The pools' invariant holds in every state a run of the four calls reaches**: in each pool the
    allocated entries carry distinct ids, all positive and below the pool's counter, and the
    counter has not passed `INT_MAX`. -/
theorem vorrat_inv {v : Vorrat} (h : VErreichbar v) :
    PoolInv v.surface_pool v.next_surface_id ∧ PoolInv v.context_pool v.next_context_id := by
  induction h with
  | anfang => exact Vorrat.anfang_inv
  | schritt _ _ hs ih => exact VAufruf.nach_inv hs ih.1 ih.2

/-- A run of three calls: three surfaces, the second destroyed, one Context. -/
theorem vorrat_inv_lauf :
    ∃ v, VErreichbar v ∧ lebend v.surface_pool = {1, 3} ∧ lebend v.context_pool = {1} ∧
      (PoolInv v.surface_pool v.next_surface_id ∧ PoolInv v.context_pool v.next_context_id) := by
  obtain ⟨v₁, h₁, hl₁, hi₁, hc₁, hn₁⟩ := anfang_drei_surfaces
  have r₁ : VErreichbar v₁ := .schritt (.CreateSurfaces false 3) .anfang (by rw [VAufruf.nach, h₁]; rfl)
  have r₂ : VErreichbar { v₁ with surface_pool := [2].foldl raeumeId v₁.surface_pool } :=
    .schritt (.DestroySurfaces (some [2])) r₁ rfl
  have hf : 0 < frei v₁.context_pool := by
    rw [hc₁, Vorrat.anfang_frei.2]
    decide
  obtain ⟨v₃, e₃, hl₃, -, hs₃, -⟩ :=
    vaCreateContext_nimm (v := { v₁ with surface_pool := [2].foldl raeumeId v₁.surface_pool }) hf
      (by simp only [hn₁]; decide)
  have r₃ : VErreichbar v₃ := .schritt (.CreateContext false) r₂ (by rw [VAufruf.nach, e₃]; rfl)
  refine ⟨v₃, r₃, ?_, ?_, vorrat_inv r₃⟩
  · rw [hs₃, (lebend_foldl_raeumeId hi₁ [2]).1, hl₁]
    decide
  · simp [hl₃, hn₁, hc₁, Vorrat.anfang, lebend_anfang]

end NvdecVaapi
