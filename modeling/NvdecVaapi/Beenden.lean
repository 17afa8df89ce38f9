/-
  File:      NvdecVaapi/Beenden.lean
  Subject:   `deleteAllObjects`, the teardown of `nvTerminate`: the index scan that deletes the
             Context it stands on.

  `deleteAllObjects` holds `objectCreationMutex` for the whole scan, so no other thread creates
  or deletes an object meanwhile; the scan stops only where `destroyContext` waits (for the
  resolve thread, and in its timed join). Deleting the Context at index `o_idx` removes it from
  the array (`remove_element_at`), the next object moves into slot `o_idx`, and the scan goes on
  at `o_idx + 1`: a Context right after a deleted one is passed over, neither destroyed nor
  deleted.

  * `EndeImRegister` -- the ends of a run whose stops resume with the registry unchanged;
    `LaesstRegister` -- runs that leave the registry as they found it on every such end;
    `destroyContext_laesstRegister`;
  * `deleteObject_mitte` -- with distinct ids, deleting an object takes exactly it out;
  * `loescheAlleAb_praefix` -- the scan never changes the objects before its index;
  * **`deleteAllObjects_ueberspringt`** -- for every registry `pre ++ c :: d :: post` with `c`
    and `d` Contexts and no Context in `pre`, every run of `deleteAllObjects` that returns leaves
    the Context `d` registered.
-/
import NvdecVaapi.Schritte

namespace NvdecVaapi

/-! ## 1. Runs under `objectCreationMutex` -/

/-- The ends of a run in which the stopped thread resumes, each time, in a world with the
    registry it stopped with: no other thread creates or deletes an object meanwhile. -/
inductive Ausgang.EndeImRegister : Ausgang α → α → Welt → Prop
  | fertig (a : α) (w : Welt) : EndeImRegister (.fertig a w) a w
  | halt {h : Halt} {w : Welt} {k : Welt → Ausgang α} {a : α} {w' : Welt} (w₀ : Welt) :
      w₀.drv.objects = w.drv.objects → EndeImRegister (k w₀) a w' →
      EndeImRegister (.halt h w k) a w'

/-- Resuming in the very world the thread stopped in. -/
theorem Ausgang.EndeImRegister.weiter {h : Halt} {w : Welt} {k : Welt → Ausgang α} {a : α}
    {w' : Welt} (e : (k w).EndeImRegister a w') : (Ausgang.halt h w k).EndeImRegister a w' :=
  .halt w rfl e

/-- Run on, resuming each stop in the world it stopped in, for at most `n` stops. -/
def Ausgang.weiterImSelben : Nat → Ausgang α → Option (α × Welt)
  | _, .fertig a w => some (a, w)
  | n + 1, .halt _ w k => weiterImSelben n (k w)
  | _, _ => none

theorem Ausgang.endeImRegister_of_weiter {o : Ausgang α} {n : Nat} {a : α} {w : Welt}
    (h : o.weiterImSelben n = some (a, w)) : o.EndeImRegister a w := by
  induction n generalizing o with
  | zero =>
    cases o <;> simp [weiterImSelben] at h
    obtain ⟨rfl, rfl⟩ := h
    exact .fertig _ _
  | succ n ih =>
    cases o with
    | abbruch g => cases h
    | fertig b w' =>
      obtain ⟨rfl, rfl⟩ := Prod.mk.inj (Option.some.inj h)
      exact .fertig _ _
    | halt hh w' k => exact .weiter (ih h)

/-- The end of a composite run is an end of its second part, started at an end of its first. -/
theorem Ausgang.endeImRegister_bind {o : Ausgang α} {f : α → Welt → Ausgang β} {b : β}
    {w'' : Welt} (h : (o.bind f).EndeImRegister b w'') :
    ∃ a w', o.EndeImRegister a w' ∧ (f a w').EndeImRegister b w'' := by
  induction o with
  | abbruch g => cases h
  | fertig a w => exact ⟨a, w, .fertig a w, h⟩
  | halt hh w k ih =>
    cases h with
    | halt w₀ e h =>
      obtain ⟨a, w', h1, h2⟩ := ih w₀ h
      exact ⟨a, w', .halt w₀ e h1, h2⟩

/-- A run that, on every such end, leaves the registry as it found it. -/
def LaesstRegister (x : Prog α) : Prop :=
  ∀ ⦃w a w'⦄, (x w).EndeImRegister a w' → w'.drv.objects = w.drv.objects

section LaesstRegister

/-- A run that stops nowhere and keeps the registry. -/
theorem laesstRegister_of_apply {x : Prog α}
    (h : ∀ w, (∃ g, x w = .abbruch g) ∨ ∃ a w', x w = .fertig a w' ∧ w'.drv.objects = w.drv.objects) :
    LaesstRegister x := by
  intro w a w' he
  rcases h w with ⟨g, hg⟩ | ⟨b, w₁, hb, ho⟩ <;> rw [‹x w = _›] at he
  · cases he
  · cases he
    exact ho

theorem laesstRegister_of_bleibt {x : Prog α} (hx : Bleibt Gleich x) : LaesstRegister x :=
  laesstRegister_of_apply fun w => (hx w).imp id fun ⟨a, w', h, g⟩ => ⟨a, w', h, g.2.2⟩

theorem laesstRegister_bind {x : Prog α} {f : α → Prog β} (hx : LaesstRegister x)
    (hf : ∀ a, LaesstRegister (f a)) : LaesstRegister (x >>= f) := by
  intro w b w'' h
  rw [Prog.bind_apply] at h
  obtain ⟨a, w', h1, h2⟩ := Ausgang.endeImRegister_bind h
  exact (hf a h2).trans (hx h1)

theorem laesstRegister_halte (h : Halt) : LaesstRegister (halte h) := by
  intro w a w' he
  cases he with
  | halt w₀ e he =>
    cases he
    exact e

theorem laesstRegister_aendereContext (p : Option Nat) (f : NVContext → NVContext) :
    LaesstRegister (aendereContext p f) := by
  refine laesstRegister_of_apply fun w => ?_
  rcases e : aendereContext p f w with g | ⟨u, w'⟩ | ⟨h, w', k⟩
  · exact .inl ⟨g, rfl⟩
  · obtain ⟨_, _, _, _, rfl⟩ := aendereContext_fertig e
    exact .inr ⟨u, _, rfl, rfl⟩
  · exact absurd e aendereContext_kein_halt

/-- **`destroyContext` leaves the registry alone**: it stops twice, and changes payloads and
    threads only. -/
theorem destroyContext_laesstRegister (p : Option Nat) : LaesstRegister (destroyContext p) := by
  unfold destroyContext destroyContextNachExiting pruefeRuf
  refine laesstRegister_bind (laesstRegister_of_bleibt (bleibt_gleich_ruf _)) fun b => ?_
  cases b
  · exact laesstRegister_of_bleibt (bleibt_pure Gleich.refl _)
  · exact laesstRegister_bind (laesstRegister_aendereContext _ _) fun _ =>
      laesstRegister_bind (laesstRegister_halte _) fun _ =>
      laesstRegister_bind (laesstRegister_of_apply fun _ => .inr ⟨(), _, rfl, rfl⟩) fun _ =>
      laesstRegister_bind (laesstRegister_halte _) fun _ =>
      laesstRegister_of_bleibt (destroyContextNachJoin_gleich p)

end LaesstRegister

/-! ## 2. Deleting from the registry -/

/-- **With distinct ids, `deleteObject` takes exactly the object out.** -/
theorem deleteObject_mitte {drv : NVDriver} (hn : drv.ids.Nodup) {l₁ l₂ : List Object}
    {o : Object} (hl : drv.objects = l₁ ++ o :: l₂) (hv : o.id ≠ VA_INVALID_ID) :
    (deleteObject drv o.id).objects = l₁ ++ l₂ := by
  have hm : o ∈ drv.objects := by rw [hl]; exact List.mem_append_right _ (List.mem_cons_self _ _)
  have hf := find?_id_of_nodup hn hm
  have h₁ : ∀ x ∈ l₁, ¬ decide (x.id = o.id) = true := by
    intro x hx e
    rw [NVDriver.ids, hl, List.map_append, List.map_cons] at hn
    exact List.disjoint_of_nodup_append hn (List.mem_map_of_mem _ hx)
      (of_decide_eq_true e ▸ List.mem_cons_self _ _)
  simp only [deleteObject, if_neg hv, hf]
  rw [hl, List.eraseP_append_right _ h₁, List.eraseP_cons_of_pos (by simp)]

/-- With distinct ids, deleting the object at index `i` keeps the objects before it. -/
theorem deleteObject_take {drv : NVDriver} (hn : drv.ids.Nodup) {i : Nat} {o : Object}
    (ho : drv.objects.get? i = some o) :
    ∃ r, (deleteObject drv o.id).objects = drv.objects.take i ++ r := by
  by_cases hv : o.id = VA_INVALID_ID
  · exact ⟨drv.objects.drop i, by rw [deleteObject, if_pos hv, List.take_append_drop]⟩
  obtain ⟨hi, hg⟩ := List.getElem?_eq_some_iff.mp (List.get?_eq_getElem? _ _ ▸ ho)
  have hl : drv.objects = drv.objects.take i ++ o :: drv.objects.drop (i + 1) := by
    rw [← hg, ← List.drop_eq_getElem_cons hi, List.take_append_drop]
  exact ⟨_, deleteObject_mitte hn hl hv⟩

theorem ids_deleteObject {drv : NVDriver} (hn : drv.ids.Nodup) (id : Nat) :
    (deleteObject drv id).ids.Nodup :=
  (List.Sublist.map Object.id (deleteObject_objects_sublist drv id)).nodup hn

/-! ## 3. The scan -/

/-- **The scan never changes the objects before its index.** -/
theorem loescheAlleAb_praefix (fuel i : Nat) {w w' : Welt} (hn : w.drv.ids.Nodup)
    (h : ((loescheAlleAb fuel i) w).EndeImRegister () w') :
    ∃ rest, w'.drv.objects = w.drv.objects.take i ++ rest := by
  induction fuel generalizing i w with
  | zero =>
    cases h
    exact ⟨_, (List.take_append_drop i _).symm⟩
  | succ fuel ih =>
    rw [loescheAlleAb, holeDrv_bind] at h
    rcases ho : w.drv.objects.get? i with _ | o <;> rw [ho] at h <;> dsimp only at h
    · cases h
      exact ⟨_, (List.take_append_drop i _).symm⟩
    split at h
    · rw [Prog.bind_apply] at h
      obtain ⟨_, w₁, h₁, h⟩ := Ausgang.endeImRegister_bind h
      have e₁ := destroyContext_laesstRegister _ h₁
      rw [Prog.bind_apply] at h
      obtain ⟨_, w₂, h₂, h⟩ := Ausgang.endeImRegister_bind h
      cases h₂
      have hn₁ : w₁.drv.ids.Nodup := by rwa [NVDriver.ids, e₁]
      obtain ⟨rest, hr⟩ := ih (i + 1) (ids_deleteObject hn₁ o.id) h
      obtain ⟨r, hd⟩ := deleteObject_take hn₁ (e₁ ▸ ho)
      refine ⟨(r.take (i + 1 - (w₁.drv.objects.take i).length)) ++ rest, ?_⟩
      rw [hr]
      dsimp only
      rw [hd, List.take_append_eq_append_take, List.take_take, min_eq_right (Nat.le_succ i),
        List.append_assoc, e₁]
    · obtain ⟨rest, hr⟩ := ih (i + 1) hn h
      rw [List.get?_eq_getElem?] at ho
      exact ⟨o :: rest, by rw [hr, List.take_succ, ho, Option.toList_some, List.append_assoc,
        List.singleton_append]⟩

/-- Up to `c` the scan walks over the objects of `pre`; deleting `c` moves `d` into the slot the
    scan has just passed. -/
theorem loescheAlleAb_ueberspringt {pre post : List Object} {c d : Object} (fuel : Nat) :
    ∀ (i : Nat) {w w' : Welt}, w.drv.objects = pre ++ c :: d :: post → c.type = .context →
      c.id ≠ VA_INVALID_ID → (∀ o ∈ pre, o.type ≠ .context) → i ≤ pre.length →
      pre.length - i < fuel → w.drv.ids.Nodup →
      ((loescheAlleAb fuel i) w).EndeImRegister () w' → d ∈ w'.drv.objects := by
  induction fuel with
  | zero => intro i w w' _ _ _ _ _ hf; omega
  | succ fuel ih =>
    intro i w w' hw hc hv hpre hi hf hn h
    rw [loescheAlleAb, holeDrv_bind, hw] at h
    rcases Nat.lt_or_ge i pre.length with hlt | hge
    · rw [List.get?_eq_getElem?, List.getElem?_append_left hlt, List.getElem?_eq_getElem hlt] at h
      dsimp only at h
      rw [if_neg (hpre _ (List.getElem_mem _))] at h
      exact ih (i + 1) hw hc hv hpre hlt (by omega) hn h
    obtain rfl : i = pre.length := by omega
    rw [List.get?_eq_getElem?, List.getElem?_append_right le_rfl, Nat.sub_self,
      List.getElem?_cons_zero] at h
    dsimp only at h
    rw [if_pos hc, Prog.bind_apply] at h
    obtain ⟨_, w₁, h₁, h⟩ := Ausgang.endeImRegister_bind h
    have e₁ := destroyContext_laesstRegister _ h₁
    rw [Prog.bind_apply] at h
    obtain ⟨_, w₂, h₂, h⟩ := Ausgang.endeImRegister_bind h
    cases h₂
    have hn₁ : w₁.drv.ids.Nodup := by rwa [NVDriver.ids, e₁]
    obtain ⟨rest, hr⟩ := loescheAlleAb_praefix fuel (pre.length + 1) (ids_deleteObject hn₁ c.id) h
    rw [hr]
    dsimp only
    rw [deleteObject_mitte hn₁ (e₁.trans hw) hv]
    simp [List.take_append_eq_append_take]

/-- **Two adjacent Contexts: the second survives `deleteAllObjects`**: for every registry
    `pre ++ c :: d :: post` with distinct ids, `c` and `d` Contexts and no Context in `pre`, every
    run of `deleteAllObjects` that returns leaves a Context registered: `d`, never destroyed. -/
theorem deleteAllObjects_ueberspringt {w w' : Welt} {pre post : List Object} {c d : Object}
    (hw : w.drv.objects = pre ++ c :: d :: post) (hc : c.type = .context)
    (hd : d.type = .context) (hpre : ∀ o ∈ pre, o.type ≠ .context) (hv : c.id ≠ VA_INVALID_ID)
    (hn : w.drv.ids.Nodup) (h : (deleteAllObjects w).EndeImRegister () w') :
    ∃ o ∈ w'.drv.objects, o.type = .context := by
  rw [deleteAllObjects, holeDrv_bind] at h
  exact ⟨d, loescheAlleAb_ueberspringt _ 0 hw hc hv hpre (Nat.zero_le _)
    (by rw [hw]; simp) hn h, hd⟩

/-- Two Contexts, ids 1 and 2 at addresses 1 and 2, next to each other in the registry; every
    external call succeeds. -/
def zweiKontexteNebeneinander : Welt :=
  { leereWelt with drv :=
    { objects := [⟨.context, 1, 1⟩, ⟨.context, 2, 2⟩], nextObjId := 2,
      mem := fun b => if b = 1 ∨ b = 2 then some (.context {}) else none } }

theorem deleteAllObjects_ueberspringt_beispiel :
    ∃ w', (deleteAllObjects zweiKontexteNebeneinander).EndeImRegister () w' ∧
      ∃ o ∈ w'.drv.objects, o.type = .context := by
  have hr : ((deleteAllObjects zweiKontexteNebeneinander).weiterImSelben 2).map
      (fun r => r.2.drv.objects) = some [⟨.context, 2, 2⟩] := by
    simp only [deleteAllObjects, loescheAlleAb, Prog.bind_apply, Ausgang.bind]
    decide
  obtain ⟨⟨u, w'⟩, he, -⟩ := Option.map_eq_some'.mp hr
  have h := Ausgang.endeImRegister_of_weiter he
  have hw : zweiKontexteNebeneinander.drv.objects =
      [] ++ ⟨.context, 1, 1⟩ :: ⟨.context, 2, 2⟩ :: [] := rfl
  exact ⟨w', h, deleteAllObjects_ueberspringt hw rfl rfl nofun (by decide) (by decide) h⟩

end NvdecVaapi
