/-
  File:      NvdecVaapi/Rueckbau.lean
  Subject:   What the destroy calls undo: destroying the ids a create call wrote gives back the
             registry and the heap the call started from.

  `nvCreateSurfaces2`, `nvCreateBuffer`, `nvCreateConfig` and `nvCreateImage` append objects to
  the registry and store their payloads at `calloc`'s fresh addresses; the ids go out through the
  out-parameters, also when the call fails after the allocation (a failed `memalign` in
  `nvCreateBuffer`, a failed `cuCtxPopCurrent` in `nvCreateSurfaces2`). The destroy calls find the
  objects by these ids, the image's buffer by its payload pointer, and delete them. So a create
  followed by the destroy of what it wrote leaves the registry, the heap and the capability flags
  as they were; only the id counter has moved on. This needs distinct ids at or below the counter
  (`RegInv`), a counter that stays below `VA_INVALID_ID`, and for images the typing of
  `Typtreue.lean`, under which no registered object points at a free address.

  * `Zuwachs` -- a driver with objects appended, and what an allocation, a store and a deletion
    do to it;
  * `legeSurfacesAn_zuwachs`, `zerstoereSurfaces_zuwachs` -- the two loops, by induction;
  * **`surfaces_rueckbau`** -- `nvDestroySurfaces` of the ids `nvCreateSurfaces2` wrote;
  * **`puffer_rueckbau`**, **`config_rueckbau`** -- `nvDestroyBuffer` and `nvDestroyConfig` of the
    id the create call wrote, whatever status it returned;
  * **`bild_rueckbau`** -- `nvDestroyImage` of a new image removes its buffer object as well;
  * `Gezaehlt` -- `RegInv` as a `Weltinvariante` of Bewahrung.lean while fewer than `2^32`
    allocations have happened; **`register_erreichbar`** -- so it holds in every reachable state.
-/
import NvdecVaapi.Typtreue

namespace NvdecVaapi

/-! ## 1. A driver with objects appended -/

/-- `d'` is `d` with the objects `L` appended: their ids lie above `d`'s counter and at or below
    `d'`'s, no two alike; their payloads are live, of their types, at distinct addresses that were
    free in `d`; every other address and both capability flags are as in `d`. -/
structure Zuwachs (d d' : NVDriver) (L : List Object) : Prop where
  objects : d'.objects = d.objects ++ L
  zaehler : d.nextObjId ≤ d'.nextObjId
  frisch : ∀ o ∈ L, d.nextObjId < o.id ∧ o.id ≤ d'.nextObjId
  ids : (L.map Object.id).Nodup
  adressen : (L.map Object.obj).Nodup
  frei : ∀ o ∈ L, d.mem o.obj = none
  typ : ∀ o ∈ L, (d'.mem o.obj).map Payload.typ = some o.type
  sonst : ∀ b, (∀ o ∈ L, o.obj ≠ b) → d'.mem b = d.mem b
  flags : d'.supports16BitSurface = d.supports16BitSurface ∧
    d'.supports444Surface = d.supports444Surface

variable {d d' : NVDriver} {L : List Object} {o : Object}

theorem Zuwachs.anfang (d : NVDriver) : Zuwachs d d [] where
  objects := (List.append_nil _).symm
  zaehler := le_rfl
  frisch _ h := (List.not_mem_nil _ h).elim
  ids := List.nodup_nil
  adressen := List.nodup_nil
  frei _ h := (List.not_mem_nil _ h).elim
  typ _ h := (List.not_mem_nil _ h).elim
  sonst _ _ := rfl
  flags := ⟨rfl, rfl⟩

/-- With nothing appended, only the counter and the surface count can differ. -/
theorem Zuwachs.leer (h : Zuwachs d d' []) :
    d' = { d with nextObjId := d'.nextObjId, surfaceCount := d'.surfaceCount } := by
  have hm : d'.mem = d.mem := funext fun b => h.sonst b fun _ h => (List.not_mem_nil _ h).elim
  have ho : d'.objects = d.objects := h.objects.trans (List.append_nil _)
  obtain ⟨h₁, h₂⟩ := h.flags
  cases d
  cases d'
  simp_all

/-- The surface count is not part of it. -/
theorem Zuwachs.surfaceCount (h : Zuwachs d d' L) (c : Int) :
    Zuwachs d { d' with surfaceCount := c } L :=
  ⟨h.objects, h.zaehler, h.frisch, h.ids, h.adressen, h.frei, h.typ, h.sonst, h.flags⟩

/-- `allocateObject` at a free address appends one more object, as long as the counter does not
    wrap. -/
theorem Zuwachs.allocate (h : Zuwachs d d' L) (hn : d'.nextObjId + 1 < idRaum) {a : Nat}
    (ha : d'.mem a = none) {t : ObjectType} {p : Payload} (hp : p.typ = t) :
    Zuwachs d (allocateObject d' t p a).2 (L ++ [(allocateObject d' t p a).1]) := by
  have hid : (d'.nextObjId + 1) % idRaum = d'.nextObjId + 1 := Nat.mod_eq_of_lt hn
  have hL : ∀ o ∈ L, o.obj ≠ a := fun o ho e => by
    have := h.typ o ho
    rw [e, ha] at this
    cases this
  simp only [allocateObject, hid]
  refine ⟨by rw [h.objects, List.append_assoc], by dsimp only; have := h.zaehler; omega, ?_, ?_,
    ?_, ?_, ?_, ?_, h.flags⟩ <;> dsimp only
  · intro o ho
    rcases List.mem_append.mp ho with ho | ho
    · have := h.frisch o ho
      omega
    · rw [List.mem_singleton.mp ho]
      have := h.zaehler
      dsimp only
      omega
  · rw [List.map_append]
    refine List.nodup_append.mpr ⟨h.ids, List.nodup_singleton _, ?_⟩
    simp only [List.map_cons, List.map_nil, List.disjoint_singleton, List.mem_map, not_exists,
      not_and]
    intro o ho e
    have := (h.frisch o ho).2
    omega
  · rw [List.map_append]
    refine List.nodup_append.mpr ⟨h.adressen, List.nodup_singleton _, ?_⟩
    simp only [List.map_cons, List.map_nil, List.disjoint_singleton, List.mem_map, not_exists,
      not_and]
    exact hL
  · intro o ho
    rcases List.mem_append.mp ho with ho | ho
    · exact h.frei o ho
    · rw [List.mem_singleton.mp ho, ← h.sonst a hL]
      exact ha
  · intro o ho
    rcases List.mem_append.mp ho with ho | ho
    · rw [setMem_other _ _ (hL o ho)]
      exact h.typ o ho
    · rw [List.mem_singleton.mp ho]
      simp [hp]
  · intro b hb
    have hba : b ≠ a := fun e => hb _ (List.mem_append_right _ (List.mem_singleton_self _)) e.symm
    rw [setMem_other _ _ hba]
    exact h.sonst b fun o ho => hb o (List.mem_append_left _ ho)

/-- A store of a payload of the same type over one of the appended objects. -/
theorem Zuwachs.speichere (h : Zuwachs d d' L) (ho : o ∈ L) {y : Payload} (hy : y.typ = o.type) :
    Zuwachs d { d' with mem := setMem d'.mem o.obj (some y) } L := by
  refine ⟨h.objects, h.zaehler, h.frisch, h.ids, h.adressen, h.frei, fun x hx => ?_,
    fun b hb => ?_, h.flags⟩
  · by_cases e : x.obj = o.obj
    · have := List.inj_on_of_nodup_map h.adressen hx ho e
      subst this
      simp [hy]
    · dsimp only
      rw [setMem_other _ _ e]
      exact h.typ x hx
  · dsimp only
    rw [setMem_other _ _ (fun e => hb o ho e.symm)]
    exact h.sonst b hb

/-- No object that was there before has the id of an appended one. -/
theorem Zuwachs.alt_ne (hr : RegInv d) (h : Zuwachs d d' L) (ho : o ∈ L) :
    ∀ x ∈ d.objects, ¬ (decide (x.id = o.id) = true) := fun x hx => by
  have := hr.le_next x hx
  have := (h.frisch o ho).1
  simp only [decide_eq_true_eq]
  omega

/-- The first object of `d'` with the id of an appended object is that object. -/
theorem Zuwachs.find?_id (hr : RegInv d) (h : Zuwachs d d' L) (ho : o ∈ L) :
    d'.objects.find? (fun x => x.id = o.id) = some o := by
  rw [h.objects, List.find?_append, List.find?_eq_none.mpr (h.alt_ne hr ho), Option.none_or]
  exact find?_id_of_nodup h.ids ho

theorem Zuwachs.getObjectPtr_neu (hr : RegInv d) (h : Zuwachs d d' L) (ho : o ∈ L)
    (hv : o.id ≠ VA_INVALID_ID) : getObjectPtr d' o.id = some o.obj := by
  simp [getObjectPtr, getObject, hv, h.find?_id hr ho]

/-- The first object of a list with distinct payload addresses whose payload is at `o.obj`. -/
theorem find?_obj_of_nodup {l : List Object} (hl : (l.map Object.obj).Nodup) (ho : o ∈ l) :
    l.find? (fun x => x.obj = o.obj) = some o := by
  induction l with
  | nil => cases ho
  | cons x l ih =>
    rw [List.map_cons, List.nodup_cons] at hl
    rcases List.mem_cons.mp ho with rfl | ho
    · simp
    · have hne : x.obj ≠ o.obj := fun e => hl.1 (e ▸ List.mem_map_of_mem _ ho)
      simp [hne, ih hl.2 ho]

/-- Under the typing no object that was there before points at an appended payload, so the
    lookup by pointer finds the appended object. -/
theorem Zuwachs.getObjectByPtr_neu (hg : Getypt d) (h : Zuwachs d d' L) (ho : o ∈ L) :
    getObjectByPtr d' (some o.obj) = some o := by
  rw [getObjectByPtr, h.objects, List.find?_append, List.find?_eq_none.mpr fun x hx => by
    simpa using hg.obj_ne hx (h.frei o ho), Option.none_or]
  exact find?_obj_of_nodup h.adressen ho

/-- `deleteObject` of an appended id removes that object and frees its payload. -/
theorem Zuwachs.deleteObject_eq (hr : RegInv d) (h : Zuwachs d d' L) (ho : o ∈ L)
    (hv : o.id ≠ VA_INVALID_ID) :
    deleteObject d' o.id = { d' with objects := d.objects ++ L.eraseP (fun x => x.id = o.id),
                                     mem := setMem d'.mem o.obj none } := by
  rw [deleteObject, if_neg hv, h.find?_id hr ho]
  simp only [h.objects, List.eraseP_append_right _ (h.alt_ne hr ho)]

/-- After the deletion the rest of the appended objects is still appended. -/
theorem Zuwachs.delete (hr : RegInv d) (h : Zuwachs d d' L) (ho : o ∈ L)
    (hv : o.id ≠ VA_INVALID_ID) :
    Zuwachs d (deleteObject d' o.id) (L.eraseP fun x => x.id = o.id) := by
  rw [h.deleteObject_eq hr ho hv]
  have hs := List.eraseP_sublist (p := fun x : Object => decide (x.id = o.id)) L
  have hx := eraseP_obj_ne h.adressen (find?_id_of_nodup h.ids ho)
  refine ⟨rfl, h.zaehler, fun x hx => h.frisch x (hs.subset hx), (hs.map _).nodup h.ids,
    (hs.map _).nodup h.adressen, fun x hx => h.frei x (hs.subset hx), fun x hxm => ?_,
    fun b hb => ?_, h.flags⟩
  · dsimp only
    rw [setMem_other _ _ (hx x hxm).2]
    exact h.typ x (hx x hxm).1
  · dsimp only
    by_cases e : b = o.obj
    · rw [e, setMem_same, h.frei o ho]
    · rw [setMem_other _ _ e]
      refine h.sonst b fun x hxL => ?_
      by_cases hi : x.id = o.id
      · rw [List.inj_on_of_nodup_map h.ids hxL ho hi]
        exact fun e' => e e'.symm
      · exact hb x ((List.mem_eraseP_of_neg (by simpa using hi)).mpr hxL)

/-- A read-modify-write through `p` that ended: `p` held a payload the view reads, and the new one
    is stored there. -/
theorem lies_speichere_fertig {p : Option Nat} {view : Payload → Option α} {g : α → Payload}
    {w w' : Welt} {u : Unit}
    (h : (lies p view >>= fun v => speichere (p.getD 0) (g v)) w = .fertig u w') :
    ∃ a v, p = some a ∧
      w' = { w with drv := { w.drv with mem := setMem w.drv.mem a (some (g v)) } } := by
  obtain ⟨v, w₁, h₁, h₂⟩ := Prog.bind_eq_fertig h
  obtain ⟨rfl, a, -, rfl, -, -⟩ := lies_fertig h₁
  cases h₂
  exact ⟨a, v, rfl, rfl⟩

/-- A live payload of the surface type is a surface. -/
theorem Payload.typ_surface {x : Option Payload} (h : x.map Payload.typ = some .surface) :
    ∃ s, x = some (.surface s) := by
  rcases x with _ | ⟨_ | _ | s | _ | _⟩ <;> cases h
  exact ⟨s, rfl⟩

theorem Payload.typ_buffer {x : Option Payload} (h : x.map Payload.typ = some .buffer) :
    ∃ b, x = some (.buffer b) := by
  rcases x with _ | ⟨_ | _ | _ | b | _⟩ <;> cases h
  exact ⟨b, rfl⟩

/-- Deleting the one appended object gives back the registry and the heap. -/
theorem Zuwachs.loesche_eins (hr : RegInv d) (h : Zuwachs d d' [o])
    (hv : o.id ≠ VA_INVALID_ID) :
    deleteObject d' o.id =
      { d with nextObjId := d'.nextObjId, surfaceCount := d'.surfaceCount } := by
  have hz := h.delete hr (.head _) hv
  rw [List.eraseP_cons_of_pos (by simp)] at hz
  exact hz.leer.trans (by rw [h.deleteObject_eq hr (.head _) hv])

/-- An allocation appends one more object of its type. -/
theorem neuesObjekt_zuwachs {t : ObjectType} {p : Payload} {w w₁ : Welt}
    (hz : Zuwachs d w.drv L) (hn : w.drv.nextObjId + 1 < idRaum)
    (h₁ : neuesObjekt t p w = .fertig o w₁) (hp : p.typ = t) :
    o.type = t ∧ Zuwachs d w₁.drv (L ++ [o]) ∧ w₁.aus = w.aus ∧
      w₁.drv.nextObjId = w.drv.nextObjId + 1 ∧ w₁.drv.surfaceCount = w.drv.surfaceCount := by
  obtain ⟨ha, ho, rfl⟩ := neuesObjekt_fertig h₁
  have hz' := hz.allocate hn ha hp
  rw [← ho] at hz'
  exact ⟨congrArg Object.type ho, hz', rfl, Nat.mod_eq_of_lt hn, rfl⟩

/-! ## 2. The loops of the surface calls -/

/-- **The loop of `nvCreateSurfaces2`**: `n` surface objects appended, their ids written out in
    order, the counter moved on by `n`. -/
theorem legeSurfacesAn_zuwachs (s : NVSurface) (n : Nat) {w w' : Welt} {L : List Object}
    (hl : legeSurfacesAn s n w = .fertig () w') (h : Zuwachs d w.drv L)
    (hn : w.drv.nextObjId + n < idRaum) :
    ∃ L', Zuwachs d w'.drv (L ++ L') ∧ (∀ o ∈ L', o.type = .surface) ∧
      w'.aus = w.aus ++ L'.map Object.id ∧ L'.length = n ∧
      w'.drv.nextObjId = w.drv.nextObjId + n ∧ w'.drv.surfaceCount = w.drv.surfaceCount := by
  induction n generalizing w L with
  | zero =>
    cases hl
    exact ⟨[], by simpa using h, by simp, by simp, rfl, rfl, rfl⟩
  | succ n ih =>
    obtain ⟨o, w₁, h₁, hl⟩ := Prog.bind_eq_fertig hl
    obtain ⟨ht₁, hz, haus₁, hnx₁, hsc₁⟩ := neuesObjekt_zuwachs h (by omega) h₁ rfl
    obtain ⟨_, w₂, h₂, hl⟩ := Prog.bind_eq_fertig hl
    cases h₂
    obtain ⟨L', hz', ht, haus, hlen, hnx, hsc⟩ := ih hl hz (by rw [hnx₁]; omega)
    refine ⟨o :: L', by simpa using hz', ?_, by simp [haus, haus₁], by simp [hlen], ?_,
      hsc.trans hsc₁⟩
    · rintro x (_ | ⟨_, hx⟩)
      · exact ht₁
      · exact ht x hx
    · rw [hnx, hnx₁]
      omega

/-- **The loop of `nvDestroySurfaces`**: destroying appended surfaces by their ids, in order,
    removes them and frees their payloads. -/
theorem zerstoereSurfaces_zuwachs (hr : RegInv d) :
    ∀ (L : List Object) {w : Welt}, Zuwachs d w.drv L → (∀ o ∈ L, o.type = .surface) →
      w.drv.nextObjId < VA_INVALID_ID →
      ∃ w', zerstoereSurfaces (L.map Object.id) w = .fertig () w' ∧ Zuwachs d w'.drv [] ∧
        w'.drv.nextObjId = w.drv.nextObjId ∧ w'.drv.surfaceCount = w.drv.surfaceCount ∧
        w'.aus = w.aus
  | [], w, h, _, _ => ⟨w, rfl, h, rfl, rfl, rfl⟩
  | o :: L, w, h, ht, hn => by
    have hv : o.id ≠ VA_INVALID_ID := by
      have := (h.frisch o (.head _)).2
      omega
    obtain ⟨x, hx⟩ := Payload.typ_surface (ht o (.head _) ▸ h.typ o (.head _))
    have h₁ := h.speichere (.head _) (y := .surface { x with backingImage := none })
      (ht o (.head _)).symm
    have h₂ := h₁.delete hr (.head _) hv
    rw [List.eraseP_cons_of_pos (by simp)] at h₂
    obtain ⟨w', e, hz, hnx, hsc, haus⟩ := zerstoereSurfaces_zuwachs hr L
      (w := { w with
        spur := w.spur ++ [(.detachBackingImageFromSurface, w.orakel w.spur.length)],
        drv := deleteObject { w.drv with
          mem := setMem w.drv.mem o.obj (some (.surface { x with backingImage := none })) } o.id })
      h₂ (fun o' ho' => ht o' (.tail _ ho')) (by rw [deleteObject_nextObjId]; exact hn)
    refine ⟨w', ?_, hz, by rw [hnx, deleteObject_nextObjId], ?_, haus⟩
    · rw [← e]
      simp only [List.map_cons, zerstoereSurfaces, holeDrv_apply, Prog.bind_apply,
        h.getObjectPtr_neu hr (.head _) hv, liesSurface, lies_some, hx, Prog.bind_fertig',
        Payload.alsSurface, detachBackingImageFromSurface, ruf_apply, aendereSurface, speichere,
        aendereDrv, loescheObjekt]
      rfl
    · rw [hsc, h₁.deleteObject_eq hr (.head _) hv]

/-! ## 3. Surfaces -/

/-- **What `nvCreateSurfaces2` can do**: return with the driver and the out-parameters untouched
    (unknown format, failed push), or run the loop of `n` surfaces from a world with the same
    driver and outputs and add `n` to `surfaceCount`, whatever the pop answers. -/
theorem nvCreateSurfaces2_fertig {format width height n : Nat} {w w₁ : Welt} {st : VAStatus}
    (h : nvCreateSurfaces2 format width height n w = .fertig st w₁) :
    w₁.drv = w.drv ∧ w₁.aus = w.aus ∨
      ∃ s w₂ w₃, w₂.drv = w.drv ∧ w₂.aus = w.aus ∧ legeSurfacesAn s n w₂ = .fertig () w₃ ∧
        w₁.drv = { w₃.drv with surfaceCount := w₃.drv.surfaceCount + n } ∧ w₁.aus = w₃.aus := by
  unfold nvCreateSurfaces2 pruefeRuf at h
  rcases hs : surfaceArt format with _ | ⟨f, c, b⟩ <;> rw [hs] at h
  · cases h
    exact .inl ⟨rfl, rfl⟩
  dsimp only at h
  obtain ⟨_, w₂, h₂, h⟩ := Prog.bind_eq_fertig h
  obtain ⟨-, rfl⟩ := ruf_fertig h₂
  split at h
  · obtain ⟨_, w₃, h₃, h⟩ := Prog.bind_eq_fertig h
    obtain ⟨_, w₄, h₄, h⟩ := Prog.bind_eq_fertig h
    cases h₄
    obtain ⟨_, w₅, h₅, h⟩ := Prog.bind_eq_fertig h
    obtain ⟨-, rfl⟩ := ruf_fertig h₅
    refine .inr ⟨_, _, w₃, ?_, ?_, h₃, ?_⟩
    · rfl
    · rfl
    · split at h <;> cases h <;> exact ⟨rfl, rfl⟩
  · cases h
    exact .inl ⟨rfl, rfl⟩

/-- Whatever `nvCreateSurfaces2` returns, it has appended surfaces, written their ids out and
    counted them in `surfaceCount`: none when the format or the push fails, `n` otherwise. -/
theorem nvCreateSurfaces2_zuwachs {format width height n : Nat} {w w₁ : Welt} {st : VAStatus}
    (hn : w.drv.nextObjId + n < idRaum)
    (h : nvCreateSurfaces2 format width height n w = .fertig st w₁) :
    ∃ L, Zuwachs w.drv w₁.drv L ∧ (∀ o ∈ L, o.type = .surface) ∧
      w₁.aus = w.aus ++ L.map Object.id ∧ L.length ≤ n ∧
      w₁.drv.nextObjId = w.drv.nextObjId + L.length ∧
      w₁.drv.surfaceCount = w.drv.surfaceCount + L.length := by
  rcases nvCreateSurfaces2_fertig h with ⟨hd, ha⟩ | ⟨s, w₂, w₃, hd, ha, h₃, e₁, e₂⟩
  · exact ⟨[], hd ▸ .anfang _, by simp, by simp [ha], by simp, by simp [hd], by simp [hd]⟩
  · rw [← hd] at hn ⊢
    obtain ⟨L, hz, ht, haus, hlen, hnx, hsc⟩ := legeSurfacesAn_zuwachs s n h₃ (.anfang _) hn
    rw [List.nil_append] at hz
    rw [e₁, e₂, ← ha]
    exact ⟨L, hz.surfaceCount _, ht, haus, hlen.le, by rw [hnx, hlen], by rw [hsc, hlen]⟩

/-- **`nvDestroySurfaces` undoes `nvCreateSurfaces2`**: whatever status the create returned,
    destroying the ids it wrote leaves the registry, the heap and the flags as they were and the
    surface count as `max count 0`; only the id counter has moved on. -/
theorem surfaces_rueckbau {format width height n : Nat} {w w₁ : Welt} {st : VAStatus}
    (hr : RegInv w.drv) (hn : w.drv.nextObjId + n < VA_INVALID_ID)
    (h : nvCreateSurfaces2 format width height n w = .fertig st w₁) :
    ∃ ids w₂, w₁.aus = w.aus ++ ids ∧ nvDestroySurfaces ids w₁ = .fertig .success w₂ ∧
      w₂.drv = { w.drv with nextObjId := w.drv.nextObjId + ids.length,
                            surfaceCount := max w.drv.surfaceCount 0 } := by
  obtain ⟨L, hz, ht, haus, hlen, hnx, hsc⟩ :=
    nvCreateSurfaces2_zuwachs (hn.trans VA_INVALID_ID_lt) h
  obtain ⟨w₂, e, hz₂, hnx₂, hsc₂, -⟩ := zerstoereSurfaces_zuwachs hr L hz ht (by omega)
  refine ⟨L.map Object.id, _, haus, by rw [nvDestroySurfaces, Prog.bind_fertig e]; rfl, ?_⟩
  rw [hz₂.leer]
  simp [hnx₂, hnx, hsc₂, hsc]

theorem surfaces_rueckbau_leer :
    ∃ w₁, nvCreateSurfaces2 VA_RT_FORMAT_YUV420 16 16 2 leereWelt = .fertig .success w₁ ∧
      ∃ ids w₂, w₁.aus = leereWelt.aus ++ ids ∧
        nvDestroySurfaces ids w₁ = .fertig .success w₂ ∧
        w₂.drv = { leereWelt.drv with nextObjId := leereWelt.drv.nextObjId + ids.length,
                                      surfaceCount := max leereWelt.drv.surfaceCount 0 } := by
  obtain ⟨w₁, h⟩ := Ausgang.eq_fertig_of_wert
    (show (nvCreateSurfaces2 VA_RT_FORMAT_YUV420 16 16 2 leereWelt).wert = some .success by decide)
  exact ⟨w₁, h, surfaces_rueckbau regInv_leer (by decide) h⟩

/-! ## 4. Buffers and configs -/

/-- `w₁` is `w` with one object of type `t` appended and its id written out. -/
def EinObjekt (t : ObjectType) (w w₁ : Welt) : Prop :=
  ∃ o : Object, o.type = t ∧ Zuwachs w.drv w₁.drv [o] ∧ w₁.aus = w.aus ++ [o.id] ∧
    w₁.drv.nextObjId = w.drv.nextObjId + 1 ∧ w₁.drv.surfaceCount = w.drv.surfaceCount

/-- What `nvCreateBuffer` did when it ended: nothing when the context lookup failed, and otherwise
    one buffer object appended and its id written out, also when `memalign` failed. -/
theorem nvCreateBuffer_zuwachs {context type size num_elements : Nat} {data : Option Nat}
    {w w₁ : Welt} {st : VAStatus} (hn : w.drv.nextObjId + 1 < idRaum)
    (h : nvCreateBuffer context type size num_elements data w = .fertig st w₁) :
    (w₁.drv = w.drv ∧ w₁.aus = w.aus) ∨ EinObjekt .buffer w w₁ := by
  unfold nvCreateBuffer at h
  rw [holeDrv_bind] at h
  rcases hc : getObjectPtr w.drv context with _ | a <;> simp only [hc] at h
  · cases h
    exact .inl ⟨rfl, rfl⟩
  obtain ⟨_, w₂, h₂, h⟩ := Prog.bind_eq_fertig h
  obtain ⟨rfl, -⟩ := lies_fertig h₂
  obtain ⟨o, w₃, h₃, h⟩ := Prog.bind_eq_fertig h
  obtain ⟨ht, hz, haus, hnx, hsc⟩ := neuesObjekt_zuwachs (.anfang w.drv) hn h₃ rfl
  obtain ⟨_, w₄, h₄, h⟩ := Prog.bind_eq_fertig h
  cases h₄
  obtain ⟨_, w₅, h₅, h⟩ := Prog.bind_eq_fertig h
  obtain ⟨-, rfl⟩ := ruf_fertig h₅
  refine .inr ⟨o, ht, ?_⟩
  split at h
  · obtain ⟨_, w₆, h₆, h⟩ := Prog.bind_eq_fertig h
    cases h
    unfold aendereBuffer liesBuffer at h₆
    obtain ⟨a, v, e, rfl⟩ := lies_speichere_fertig h₆
    cases e
    exact ⟨hz.speichere (.head _) ht.symm, by simp [haus], hnx, hsc⟩
  · cases h
    exact ⟨hz, by simp [haus], hnx, hsc⟩

/-- What `nvCreateConfig` did when it ended: nothing when the profile or the entrypoint is not
    supported, and otherwise one config object appended and its id written out. -/
theorem nvCreateConfig_zuwachs (B : Bau) {profile : VAProfile} {entrypoint : VAEntrypoint}
    {attrib_list : List VAConfigAttrib} {w w₁ : Welt} {st : VAStatus}
    (hn : w.drv.nextObjId + 1 < idRaum)
    (h : nvCreateConfig B profile entrypoint attrib_list w = .fertig st w₁) :
    (w₁.drv = w.drv ∧ w₁.aus = w.aus) ∨ EinObjekt .config w w₁ := by
  unfold nvCreateConfig at h
  split at h
  · cases h
    exact .inl ⟨rfl, rfl⟩
  split at h
  · cases h
    exact .inl ⟨rfl, rfl⟩
  rw [holeDrv_bind] at h
  obtain ⟨o, w₃, h₃, h⟩ := Prog.bind_eq_fertig h
  obtain ⟨ht, hz, haus, hnx, hsc⟩ := neuesObjekt_zuwachs (.anfang w.drv) hn h₃ rfl
  obtain ⟨_, w₄, h₄, h⟩ := Prog.bind_eq_fertig h
  cases h₄
  cases h
  exact .inr ⟨o, ht, hz, by simp [haus], hnx, hsc⟩

/-- The lookup and the deletion of the one appended object. -/
theorem EinObjekt.rueckbau {t : ObjectType} {w w₁ : Welt} (hr : RegInv w.drv)
    (hn : w.drv.nextObjId + 1 < VA_INVALID_ID) (h : EinObjekt t w w₁) :
    ∃ o : Object, o.type = t ∧ w₁.aus = w.aus ++ [o.id] ∧
      getObjectPtr w₁.drv o.id = some o.obj ∧ (w₁.drv.mem o.obj).map Payload.typ = some t ∧
      deleteObject w₁.drv o.id = { w.drv with nextObjId := w.drv.nextObjId + 1 } := by
  obtain ⟨o, ht, hz, haus, hnx, hsc⟩ := h
  have hv : o.id ≠ VA_INVALID_ID := by
    have := (hz.frisch o (.head _)).2
    omega
  refine ⟨o, ht, haus, hz.getObjectPtr_neu hr (.head _) hv, ht ▸ hz.typ o (.head _), ?_⟩
  rw [hz.loesche_eins hr hv, hnx, hsc]

/-- **`nvDestroyBuffer` undoes `nvCreateBuffer`**: whatever status the create returned, it wrote no
    id and left the driver as it was, or it wrote one id, and destroying that id leaves the
    registry, the heap and the flags as they were, with the counter one on. A failed `memalign`
    returns `VA_STATUS_ERROR_ALLOCATION_FAILED` with the buffer registered and its id written. -/
theorem puffer_rueckbau {context type size num_elements : Nat} {data : Option Nat} {w w₁ : Welt}
    {st : VAStatus} (hr : RegInv w.drv) (hn : w.drv.nextObjId + 1 < VA_INVALID_ID)
    (h : nvCreateBuffer context type size num_elements data w = .fertig st w₁) :
    (w₁.drv = w.drv ∧ w₁.aus = w.aus) ∨ ∃ id w₂, w₁.aus = w.aus ++ [id] ∧
      nvDestroyBuffer id w₁ = .fertig .success w₂ ∧
      w₂.drv = { w.drv with nextObjId := w.drv.nextObjId + 1 } := by
  refine (nvCreateBuffer_zuwachs (hn.trans VA_INVALID_ID_lt) h).imp_right fun he => ?_
  obtain ⟨o, -, haus, hp, ht, hd⟩ := he.rueckbau hr hn
  obtain ⟨b, hb⟩ := Payload.typ_buffer ht
  refine ⟨o.id, { w₁ with drv := deleteObject w₁.drv o.id }, haus, ?_, hd⟩
  simp only [nvDestroyBuffer, Prog.bind_apply, holeDrv_apply, Prog.bind_fertig', hp, liesBuffer,
    lies_some, hb, Payload.alsBuffer]
  rfl

/-- A Context (id 1 at address 1), `calloc` answering from address 2 on, and the second external
    call failing: in `nvCreateBuffer` that is `memalign`. -/
def pufferOhneSpeicher : Welt :=
  { drv := { objects := [⟨.context, 1, 1⟩], nextObjId := 1,
             mem := fun b => if b = 1 then some (.context {}) else none },
    orakel := fun k => k ≠ 1, adressen := fun k => k + 2 }

theorem puffer_rueckbau_ohneSpeicher :
    ∃ w₁, nvCreateBuffer 1 0 16 1 none pufferOhneSpeicher =
        .fertig .errorAllocationFailed w₁ ∧
      ((w₁.drv = pufferOhneSpeicher.drv ∧ w₁.aus = pufferOhneSpeicher.aus) ∨
        ∃ id w₂, w₁.aus = pufferOhneSpeicher.aus ++ [id] ∧
          nvDestroyBuffer id w₁ = .fertig .success w₂ ∧
          w₂.drv = { pufferOhneSpeicher.drv with
                     nextObjId := pufferOhneSpeicher.drv.nextObjId + 1 }) := by
  obtain ⟨w₁, h⟩ := Ausgang.eq_fertig_of_wert
    (show (nvCreateBuffer 1 0 16 1 none pufferOhneSpeicher).wert = some .errorAllocationFailed by
      decide)
  exact ⟨w₁, h, puffer_rueckbau ⟨by decide, by decide, by decide⟩ (by decide) h⟩

/-- **`nvDestroyConfig` undoes `nvCreateConfig`**: the create wrote no id and left the driver as it
    was, or it wrote one id, and destroying that id gives back the registry and the heap. -/
theorem config_rueckbau (B : Bau) {profile : VAProfile} {entrypoint : VAEntrypoint}
    {attrib_list : List VAConfigAttrib} {w w₁ : Welt} {st : VAStatus}
    (hr : RegInv w.drv) (hn : w.drv.nextObjId + 1 < VA_INVALID_ID)
    (h : nvCreateConfig B profile entrypoint attrib_list w = .fertig st w₁) :
    (w₁.drv = w.drv ∧ w₁.aus = w.aus) ∨ ∃ id w₂, w₁.aus = w.aus ++ [id] ∧
      nvDestroyConfig id w₁ = .fertig .success w₂ ∧
      w₂.drv = { w.drv with nextObjId := w.drv.nextObjId + 1 } := by
  refine (nvCreateConfig_zuwachs B (hn.trans VA_INVALID_ID_lt) h).imp_right fun he => ?_
  obtain ⟨o, -, haus, -, -, hd⟩ := he.rueckbau hr hn
  exact ⟨o.id, _, haus, rfl, hd⟩

theorem config_rueckbau_leer :
    ∃ w₁, nvCreateConfig beispielBau .HEVCMain .VLD [] leereWelt = .fertig .success w₁ ∧
      ((w₁.drv = leereWelt.drv ∧ w₁.aus = leereWelt.aus) ∨
        ∃ id w₂, w₁.aus = leereWelt.aus ++ [id] ∧
        nvDestroyConfig id w₁ = .fertig .success w₂ ∧
        w₂.drv = { leereWelt.drv with nextObjId := leereWelt.drv.nextObjId + 1 }) := by
  obtain ⟨w₁, h⟩ := Ausgang.eq_fertig_of_wert
    (show (nvCreateConfig beispielBau .HEVCMain .VLD [] leereWelt).wert = some .success by decide)
  exact ⟨w₁, h, config_rueckbau beispielBau regInv_leer (by decide) h⟩

/-! ## 5. Images -/

/-- What a successful `nvCreateImage` did: the image object and its buffer object appended, the
    image's `imageBuffer` pointing at the buffer's payload, the image's id returned. -/
theorem nvCreateImage_zuwachs (B : Bau) {format : Nat} {width height : Int} {w w₁ : Welt}
    {st : VAStatus} {img : VAImage} (hn : w.drv.nextObjId + 2 < idRaum)
    (h : nvCreateImage B format width height w = .fertig (st, some img) w₁) :
    ∃ oi ob : Object, ∃ i : NVImage, ob.type = .buffer ∧ Zuwachs w.drv w₁.drv [oi, ob] ∧
      img.image_id = oi.id ∧ w₁.drv.mem oi.obj = some (.image i) ∧
      i.imageBuffer = some ob.obj ∧
      w₁.drv.nextObjId = w.drv.nextObjId + 2 ∧ w₁.drv.surfaceCount = w.drv.surfaceCount := by
  unfold nvCreateImage at h
  dsimp only at h
  split at h
  · cases h
  obtain ⟨oi, w₂, h₂, h⟩ := Prog.bind_eq_fertig h
  obtain ⟨hti, hz₂, -, hnx₂, hsc₂⟩ :=
    neuesObjekt_zuwachs (.anfang w.drv) (by omega) h₂ rfl
  obtain ⟨ob, w₃, h₃, h⟩ := Prog.bind_eq_fertig h
  obtain ⟨htb, hz₃, -, hnx₃, hsc₃⟩ := neuesObjekt_zuwachs hz₂ (by omega) h₃ rfl
  obtain ⟨_, w₄, h₄, h⟩ := Prog.bind_eq_fertig h
  obtain ⟨-, rfl⟩ := ruf_fertig h₄
  obtain ⟨_, w₅, h₅, h⟩ := Prog.bind_eq_fertig h
  unfold aendereBuffer liesBuffer at h₅
  obtain ⟨a, v, e, rfl⟩ := lies_speichere_fertig h₅
  cases e
  obtain ⟨_, w₆, h₆, h⟩ := Prog.bind_eq_fertig h
  unfold aendereImage liesImage at h₆
  obtain ⟨a, v', e, rfl⟩ := lies_speichere_fertig h₆
  cases e
  cases h
  simp only [List.nil_append, List.singleton_append] at hz₃
  exact ⟨oi, ob, { v' with imageBuffer := some ob.obj }, htb,
    (hz₃.speichere (o := ob) (y := .buffer _) (by simp) htb.symm).speichere (o := oi)
      (y := .image _) (by simp) hti.symm, rfl, by simp, rfl,
    by simp [hnx₃, hnx₂], hsc₃.trans hsc₂⟩

/-- **`nvDestroyImage` undoes `nvCreateImage`**: destroying a new image finds its buffer object by
    the payload pointer and deletes it with the image, so the registry, the heap and the flags are
    as before the create; only the id counter has moved on by two. -/
theorem bild_rueckbau (B : Bau) {format : Nat} {width height : Int} {w w₁ : Welt} {st : VAStatus}
    {img : VAImage} (hr : RegInv w.drv) (hg : Getypt w.drv)
    (hn : w.drv.nextObjId + 2 < VA_INVALID_ID)
    (h : nvCreateImage B format width height w = .fertig (st, some img) w₁) :
    ∃ w₂, nvDestroyImage img.image_id w₁ = .fertig .success w₂ ∧
      w₂.drv = { w.drv with nextObjId := w.drv.nextObjId + 2 } := by
  obtain ⟨oi, ob, i, htb, hz, hid, hi, hib, hnx, hsc⟩ :=
    nvCreateImage_zuwachs B (hn.trans VA_INVALID_ID_lt) h
  have hv : ∀ o ∈ [oi, ob], o.id ≠ VA_INVALID_ID := fun o ho => by
    have := (hz.frisch o ho).2
    omega
  have hne : oi.id ≠ ob.id := by simpa using hz.ids
  obtain ⟨b, hb⟩ := Payload.typ_buffer (htb ▸ hz.typ ob (by simp))
  have hz₁ := hz.delete hr (o := ob) (by simp) (hv ob (by simp))
  rw [show [oi, ob].eraseP (fun x => x.id = ob.id) = [oi] by simp [hne]] at hz₁
  refine ⟨{ w₁ with drv := deleteObject (deleteObject w₁.drv ob.id) oi.id }, ?_, ?_⟩
  · rw [hid]
    simp only [nvDestroyImage, Prog.bind_apply, holeDrv_apply, Prog.bind_fertig',
      hz.getObjectPtr_neu hr (.head _) (hv oi (.head _)), liesImage, lies_some, hi,
      Payload.alsImage, hib, hz.getObjectByPtr_neu hg (o := ob) (by simp), liesBuffer, hb,
      Payload.alsBuffer]
    rfl
  · rw [hz₁.loesche_eins hr (hv oi (.head _)), deleteObject_nextObjId, hnx,
      hz.deleteObject_eq hr (by simp) (hv ob (by simp))]
    simp only [hsc]

theorem bild_rueckbau_leer :
    ∃ img w₁, nvCreateImage beispielBau (fourcc 'N' 'V' '1' '2') 16 16 leereWelt =
        .fertig (.success, some img) w₁ ∧
      ∃ w₂, nvDestroyImage img.image_id w₁ = .fertig .success w₂ ∧
        w₂.drv = { leereWelt.drv with nextObjId := leereWelt.drv.nextObjId + 2 } := by
  obtain ⟨img, himg⟩ : ∃ img, (nvCreateImage beispielBau (fourcc 'N' 'V' '1' '2') 16 16
      leereWelt).wert = some (.success, some img) := ⟨_, rfl⟩
  obtain ⟨w₁, h⟩ := Ausgang.eq_fertig_of_wert himg
  exact ⟨img, w₁, h, bild_rueckbau beispielBau regInv_leer (.leer _ rfl) (by decide) h⟩

/-! ## 6. The id invariant in every reachable state -/

/-- The allocations so far: `calloc` leaves one entry in the trace per allocation. -/
def anzahlCallocs (spur : List (Ruf × Bool)) : Nat := spur.count (.calloc, true)

/-- While fewer than `2^32` allocations have happened, the registry invariant holds and the id
    counter has not run ahead of them. -/
def Gezaehlt (w : Welt) : Prop :=
  anzahlCallocs w.spur < idRaum → RegInv w.drv ∧ w.drv.nextObjId ≤ anzahlCallocs w.spur

theorem RegInv.of_eq {d d' : NVDriver} (hi : RegInv d) (ho : d'.objects = d.objects)
    (hn : d'.nextObjId = d.nextObjId) : RegInv d' where
  nodup := by rw [NVDriver.ids, ho]; exact hi.nodup
  positiv o h := hi.positiv o (ho ▸ h)
  le_next o h := hn ▸ hi.le_next o (ho ▸ h)

theorem anzahlCallocs_append (spur : List (Ruf × Bool)) (e : Ruf × Bool) :
    anzahlCallocs spur ≤ anzahlCallocs (spur ++ [e]) := by
  simp [anzahlCallocs, List.count_append]

instance : Weltinvariante Gezaehlt where
  anfang _ _ _ _ _ _ :=
    ⟨⟨List.nodup_nil, fun _ h => (List.not_mem_nil _ h).elim,
      fun _ h => (List.not_mem_nil _ h).elim⟩, le_rfl⟩
  spur w e h hc := by
    dsimp only at hc ⊢
    have := anzahlCallocs_append w.spur e
    obtain ⟨hi, hn⟩ := h (by omega)
    exact ⟨hi, by omega⟩
  aus _ _ h := h
  faeden _ _ h := h
  neu w t p a h _ _ hc := by
    have e : anzahlCallocs (w.spur ++ [(.calloc, true)]) = anzahlCallocs w.spur + 1 := by
      simp [anzahlCallocs, List.count_append]
    dsimp only at hc ⊢
    rw [e] at hc ⊢
    obtain ⟨hi, hn⟩ := h (by omega)
    have hlt : w.drv.nextObjId + 1 < idRaum := by omega
    refine ⟨regInv_allocate hi hlt t p a, ?_⟩
    simp only [allocateObject, Nat.mod_eq_of_lt hlt]
    omega
  loesche w id h hc := by
    obtain ⟨hi, hn⟩ := h hc
    exact ⟨regInv_delete hi id, by rw [deleteObject_nextObjId]; exact hn⟩
  speichere _ _ _ _ h _ _ hc := ⟨(h hc).1.of_eq rfl rfl, (h hc).2⟩
  zaehler w g ho _ hn h hc := by
    obtain ⟨hi, hn'⟩ := h hc
    exact ⟨hi.of_eq (ho _) (hn _), by dsimp only; rw [hn]; exact hn'⟩

/-- **The ids stay distinct, positive and at or below the counter in every reachable state**,
    whatever the clients call and however they interleave with each other and with the resolve
    threads, as long as fewer than `2^32` allocations have happened; the counter is at most the
    number of allocations. -/
theorem register_erreichbar {zul : Sys → Wahl → Sys → Prop} {s : Sys} (B : Bau)
    (h : Erreichbar B zul s) (hc : anzahlCallocs s.welt.spur < idRaum) :
    RegInv s.welt.drv ∧ s.welt.drv.nextObjId ≤ anzahlCallocs s.welt.spur :=
  h.bewahrt B (I := Gezaehlt) hc

set_option smartUnfolding false in
theorem register_erreichbar_lauf :
    ∃ s, Erreichbar beispielBau (fun _ _ _ => True) s ∧ s.welt.drv.ids = [1, 3, 4, 5, 6] ∧
      anzahlCallocs s.welt.spur < idRaum ∧
      (RegInv s.welt.drv ∧ s.welt.drv.nextObjId ≤ anzahlCallocs s.welt.spur) := by
  have hl : ((laufe beispielBau (Sys.anfang (fun _ => true) (· + 1) false false 2) objekteLauf).map
      fun s => (s.welt.drv.ids, anzahlCallocs s.welt.spur)) = some ([1, 3, 4, 5, 6], 6) := by decide
  obtain ⟨s, hs, e⟩ := Option.map_eq_some'.mp hl
  simp only [Prod.mk.injEq] at e
  have hr := erreichbar_laufe beispielBau (.anfang _ _ _ _ _) hs
  have hc : anzahlCallocs s.welt.spur < idRaum := by
    rw [e.2]
    decide
  exact ⟨s, hr, e.1, hc, register_erreichbar beispielBau hr hc⟩

end NvdecVaapi
