/-
  File:      NvdecVaapi/Register.lean
  Subject:   The object registry (`allocateObject`, `getObject`, `getObjectPtr`,
             `getObjectByPtr`, `deleteObject`) and what its ids are worth over a whole run.

  * the five registry functions as `vabackend.c` computes them: the registry is the list
    `drv->objects` in insertion order, a lookup is the linear scan's first hit, a delete removes
    the first hit (`remove_element_at`) and frees its payload; the id is `++drv->nextObjId` on the
    32-bit counter;
  * `RegLauf n` -- the runs of `allocateObject`/`deleteObject` from the zeroed driver with `n`
    allocations; `RegInv` -- the ids are distinct, positive and at most `nextObjId`;
  * **`register_ids_eindeutig`** -- while fewer than `VA_INVALID_ID` objects have been
    allocated, the live ids are distinct and never `VA_INVALID_ID`, `getObject` finds every
    live object by its id, and a deleted id is not found;
  * `register_id_ueberlauf` -- after `2^32 - 1` allocations the newest object carries
    `VA_INVALID_ID` and `getObject` cannot find it.
-/
import NvdecVaapi.Zustand

namespace NvdecVaapi

/-! ## 1. The registry functions -/

/-- `getObject`: the first object of `drv->objects` with the id; `NULL` for `VA_INVALID_ID`. -/
def getObject (drv : NVDriver) (id : Nat) : Option Object :=
  if id = VA_INVALID_ID then none else drv.objects.find? fun o => o.id = id

/-- `getObjectPtr`: the payload pointer of `getObject`. -/
def getObjectPtr (drv : NVDriver) (id : Nat) : Option Nat :=
  if id = VA_INVALID_ID then none else (getObject drv id).map Object.obj

/-- `getObjectByPtr`: the first object whose payload is at `ptr`. -/
def getObjectByPtr (drv : NVDriver) (ptr : Option Nat) : Option Object :=
  match ptr with
  | none => none
  | some a => drv.objects.find? fun o => o.obj = a

/-- `deleteObject`: remove the first object with the id and free its payload. -/
def deleteObject (drv : NVDriver) (id : Nat) : NVDriver :=
  if id = VA_INVALID_ID then drv else
    match drv.objects.find? fun o => o.id = id with
    | none => drv
    | some o =>
      { drv with objects := drv.objects.eraseP (fun o => o.id = id), mem := setMem drv.mem o.obj none }

/-- `allocateObject` with `calloc`'s answer `a` for the payload: the id is `++drv->nextObjId` on
    the 32-bit counter, the object is appended, and the payload (the fields its caller sets right
    after allocation) is stored at `a`. -/
def allocateObject (drv : NVDriver) (type : ObjectType) (payload : Payload) (a : Nat) :
    Object × NVDriver :=
  let id := (drv.nextObjId + 1) % idRaum
  (⟨type, id, a⟩,
    { drv with nextObjId := id, objects := drv.objects ++ [⟨type, id, a⟩],
               mem := setMem drv.mem a (some payload) })

/-- `allocateObject` in a run: `calloc`, then the registry update. -/
def neuesObjekt (type : ObjectType) (payload : Payload) : Prog Object := do
  let a ← calloc
  let drv ← holeDrv
  setzeDrv (allocateObject drv type payload a).2
  pure (allocateObject drv type payload a).1

/-- `deleteObject` in a run. -/
def loescheObjekt (id : Nat) : Prog Unit := aendereDrv fun drv => deleteObject drv id

@[simp] theorem getObject_invalid (drv : NVDriver) : getObject drv VA_INVALID_ID = none := by
  simp [getObject]

theorem getObjectPtr_eq (drv : NVDriver) (id : Nat) :
    getObjectPtr drv id = (getObject drv id).map Object.obj := by
  unfold getObjectPtr
  split <;> simp_all

/-- The lookups read the registry only. -/
theorem getObject_of_objects {drv drv' : NVDriver} (h : drv'.objects = drv.objects) (id : Nat) :
    getObject drv' id = getObject drv id := by
  unfold getObject
  rw [h]

theorem getObjectPtr_of_objects {drv drv' : NVDriver} (h : drv'.objects = drv.objects) (id : Nat) :
    getObjectPtr drv' id = getObjectPtr drv id := by
  rw [getObjectPtr_eq, getObjectPtr_eq, getObject_of_objects h]

@[simp] theorem allocateObject_fst (drv : NVDriver) (t : ObjectType) (p : Payload) (a : Nat) :
    (allocateObject drv t p a).1 = ⟨t, (drv.nextObjId + 1) % idRaum, a⟩ := rfl

/-! ## 2. Lookups on a registry with distinct ids -/

/-- The ids of the live objects. -/
def NVDriver.ids (drv : NVDriver) : List Nat := drv.objects.map Object.id

theorem find?_id_of_nodup {l : List Object} (hl : (l.map Object.id).Nodup) {o : Object}
    (ho : o ∈ l) : l.find? (fun x => x.id = o.id) = some o := by
  induction l with
  | nil => cases ho
  | cons x l ih =>
    rw [List.map_cons, List.nodup_cons] at hl
    rcases List.mem_cons.mp ho with rfl | ho
    · simp
    · have hne : x.id ≠ o.id := fun e => hl.1 (e ▸ List.mem_map_of_mem _ ho)
      simp [hne, ih hl.2 ho]

theorem find?_eraseP_none_of_nodup {l : List Object} (hl : (l.map Object.id).Nodup) (id : Nat) :
    (l.eraseP fun o => o.id = id).find? (fun o => o.id = id) = none := by
  induction l with
  | nil => rfl
  | cons x l ih =>
    rw [List.map_cons, List.nodup_cons] at hl
    by_cases hx : x.id = id
    · have : ∀ y ∈ l, ¬ y.id = id := fun y hy e => hl.1 (hx ▸ e ▸ List.mem_map_of_mem _ hy)
      rw [List.eraseP_cons_of_pos (p := fun o : Object => decide (o.id = id)) (by simpa using hx)]
      exact List.find?_eq_none.mpr fun y hy => by simpa using this y hy
    · simp [List.eraseP_cons_of_neg (p := fun o : Object => decide (o.id = id)) (by simpa using hx),
        hx, ih hl.2]

/-- With distinct ids, `getObject` finds every live object whose id is not `VA_INVALID_ID`. -/
theorem getObject_of_mem {drv : NVDriver} (hn : drv.ids.Nodup) {o : Object}
    (ho : o ∈ drv.objects) (hv : o.id ≠ VA_INVALID_ID) : getObject drv o.id = some o := by
  simp [getObject, hv, find?_id_of_nodup hn ho]

/-- With distinct ids, a deleted id is no longer found. -/
theorem getObject_deleteObject {drv : NVDriver} (hn : drv.ids.Nodup) (id : Nat) :
    getObject (deleteObject drv id) id = none := by
  unfold deleteObject
  split
  · simp_all [getObject]
  · split
    · rename_i h
      simp [getObject, h]
    · simp [getObject, find?_eraseP_none_of_nodup hn]

/-! ## 3. Runs of the registry -/

/-- The zeroed driver `calloc` gives `__vaDriverInit_1_0`. -/
def NVDriver.leer : NVDriver := {}

/-- Runs of `allocateObject` and `deleteObject` from the zeroed driver, indexed by the number of
    allocations; `calloc` answers a free address. -/
inductive RegLauf : Nat → NVDriver → Prop where
  | start : RegLauf 0 NVDriver.leer
  | allocate {n : Nat} {drv : NVDriver} (t : ObjectType) (p : Payload) (a : Nat)
      (h : RegLauf n drv) (hfrei : drv.mem a = none) :
      RegLauf (n + 1) (allocateObject drv t p a).2
  | delete {n : Nat} {drv : NVDriver} (id : Nat) (h : RegLauf n drv) :
      RegLauf n (deleteObject drv id)

/-- **The registry invariant**: distinct ids, each in `[1, nextObjId]`. -/
structure RegInv (drv : NVDriver) : Prop where
  nodup : drv.ids.Nodup
  positiv : ∀ o ∈ drv.objects, 0 < o.id
  le_next : ∀ o ∈ drv.objects, o.id ≤ drv.nextObjId

theorem regInv_leer : RegInv NVDriver.leer :=
  ⟨List.nodup_nil, fun _ h => (List.not_mem_nil _ h).elim, fun _ h => (List.not_mem_nil _ h).elim⟩

theorem deleteObject_objects_sublist (drv : NVDriver) (id : Nat) :
    (deleteObject drv id).objects.Sublist drv.objects := by
  unfold deleteObject
  split
  · exact List.Sublist.refl _
  · split
    · exact List.Sublist.refl _
    · exact List.eraseP_sublist _

@[simp] theorem deleteObject_nextObjId (drv : NVDriver) (id : Nat) :
    (deleteObject drv id).nextObjId = drv.nextObjId := by
  unfold deleteObject
  split
  · rfl
  · split <;> rfl

theorem regInv_delete {drv : NVDriver} (hi : RegInv drv) (id : Nat) :
    RegInv (deleteObject drv id) where
  nodup := (deleteObject_objects_sublist drv id).map Object.id |>.nodup hi.nodup
  positiv o ho := hi.positiv o ((deleteObject_objects_sublist drv id).subset ho)
  le_next o ho := by
    rw [deleteObject_nextObjId]
    exact hi.le_next o ((deleteObject_objects_sublist drv id).subset ho)

/-- An allocation keeps the invariant as long as the counter does not wrap. -/
theorem regInv_allocate {drv : NVDriver} (hi : RegInv drv) (hlt : drv.nextObjId + 1 < idRaum)
    (t : ObjectType) (p : Payload) (a : Nat) : RegInv (allocateObject drv t p a).2 := by
  have hid : (drv.nextObjId + 1) % idRaum = drv.nextObjId + 1 := Nat.mod_eq_of_lt hlt
  refine ⟨?_, ?_, ?_⟩
  · simp only [allocateObject, NVDriver.ids, List.map_append, List.map_cons, List.map_nil]
    refine List.nodup_append.mpr ⟨hi.nodup, List.nodup_singleton _, ?_⟩
    intro x hx hy
    rw [List.mem_singleton, hid] at hy
    obtain ⟨o, ho, rfl⟩ := List.mem_map.mp hx
    have := hi.le_next o ho
    omega
  · intro o ho
    simp only [allocateObject, List.mem_append, List.mem_singleton] at ho
    rcases ho with ho | rfl
    · exact hi.positiv o ho
    · simp only [hid]; omega
  · intro o ho
    simp only [allocateObject, List.mem_append, List.mem_singleton] at ho ⊢
    rw [hid]
    rcases ho with ho | rfl
    · exact Nat.le_succ_of_le (hi.le_next o ho)
    · simp only [hid]; omega

/-- On a run with fewer than `2^32` allocations the counter is the number of allocations and the
    invariant holds. -/
theorem regLauf_inv {n : Nat} {drv : NVDriver} (h : RegLauf n drv) (hn : n < idRaum) :
    drv.nextObjId = n ∧ RegInv drv := by
  induction h with
  | start => exact ⟨rfl, regInv_leer⟩
  | allocate t p a _ _ ih =>
    obtain ⟨he, hi⟩ := ih (by omega)
    refine ⟨?_, regInv_allocate hi (by omega) t p a⟩
    simp only [allocateObject, he]
    exact Nat.mod_eq_of_lt hn
  | delete id _ ih =>
    obtain ⟨he, hi⟩ := ih hn
    exact ⟨by rw [deleteObject_nextObjId, he], regInv_delete hi id⟩

/-- What the registry promises of a state: distinct ids, none of them `VA_INVALID_ID`, every live
    object found by its id, every deleted id not found. -/
def RegZusage (drv : NVDriver) : Prop :=
  drv.ids.Nodup ∧ (∀ o ∈ drv.objects, o.id ≠ VA_INVALID_ID) ∧
    (∀ o ∈ drv.objects, getObject drv o.id = some o) ∧
    ∀ id, getObject (deleteObject drv id) id = none

/-- **Ids identify objects while the counter has not reached `VA_INVALID_ID`.** -/
theorem register_ids_eindeutig {n : Nat} {drv : NVDriver} (h : RegLauf n drv)
    (hn : n < VA_INVALID_ID) : RegZusage drv := by
  obtain ⟨he, hi⟩ := regLauf_inv h (by unfold VA_INVALID_ID idRaum at *; omega)
  have hv : ∀ o ∈ drv.objects, o.id ≠ VA_INVALID_ID := fun o ho e => by
    have := hi.le_next o ho
    omega
  exact ⟨hi.nodup, hv, fun o ho => getObject_of_mem hi.nodup ho (hv o ho),
    getObject_deleteObject hi.nodup⟩

/-- A surface, a config and a buffer allocated, and the config deleted again. -/
theorem register_ids_eindeutig_lauf :
    ∃ drv, RegLauf 3 drv ∧ drv.ids = [1, 3] ∧ (3 < VA_INVALID_ID ∧ RegZusage drv) := by
  have h₁ := RegLauf.allocate .surface (.surface {}) 1 .start rfl
  have h₂ := RegLauf.allocate .config (.config {}) 2 h₁ rfl
  have h₃ := RegLauf.allocate .buffer (.buffer {}) 3 h₂ rfl
  have h₄ := RegLauf.delete 2 h₃
  exact ⟨_, h₄, rfl, by decide, register_ids_eindeutig h₄ (by decide)⟩

/-! ## 4. The wrap of the counter -/

/-- `k` allocations, the `i`-th at address `i + 1`. -/
def allocN : Nat → NVDriver
  | 0 => NVDriver.leer
  | k + 1 => (allocateObject (allocN k) .buffer (.buffer {}) (k + 1)).2

theorem allocN_mem (k a : Nat) (ha : k < a) : (allocN k).mem a = none := by
  induction k with
  | zero => rfl
  | succ k ih =>
    simp only [allocN, allocateObject]
    rw [setMem_other _ _ (by omega)]
    exact ih (by omega)

theorem allocN_next (k : Nat) : (allocN k).nextObjId = k % idRaum := by
  induction k with
  | zero => rfl
  | succ k ih => simp only [allocN, allocateObject, ih, Nat.mod_add_mod]

theorem allocN_lauf (k : Nat) : RegLauf k (allocN k) := by
  induction k with
  | zero => exact .start
  | succ k ih => exact .allocate _ _ _ ih (allocN_mem k (k + 1) (Nat.lt_succ_self k))

theorem allocN_letztes (k : Nat) :
    (⟨.buffer, (k + 1) % idRaum, k + 1⟩ : Object) ∈ (allocN (k + 1)).objects := by
  simp [allocN, allocateObject, allocN_next]

/-- **The counter wraps onto `VA_INVALID_ID`**: after `2^32 - 1` allocations from the zeroed
    driver the newest live object has the id `VA_INVALID_ID`, which `getObject` never finds. -/
theorem register_id_ueberlauf :
    RegLauf VA_INVALID_ID (allocN VA_INVALID_ID) ∧ ¬ RegZusage (allocN VA_INVALID_ID) := by
  refine ⟨allocN_lauf _, fun ⟨_, hv, _, _⟩ => ?_⟩
  have hm := allocN_letztes (VA_INVALID_ID - 1)
  have e : VA_INVALID_ID - 1 + 1 = VA_INVALID_ID := rfl
  rw [e] at hm
  exact hv _ hm (by decide)

end NvdecVaapi
