/-
  File:      NvdecVaapi/Typtreue.lean
  Subject:   The typing of the object registry over every run of the whole system: each
             registered object points at a live payload of its own type, and no two objects
             point at the same payload.

  `allocateObject` stores the payload its caller built at `calloc`'s fresh address,
  `deleteObject` frees exactly the payload of the object it removes, and every other store goes
  through a read of the same type at the same address. So the typing holds in every state the
  system reaches, between any two steps of any thread, with clients stopped inside entry points.
  It is not a type check: `getObjectPtr` hands out a payload of any type, and `nvDestroyBuffer`
  reads a surface as a buffer (Pruefung.lean); what the typing makes safe are the lookups that
  check the type, like `nvSurfaceFromSurfaceId`.

  * `Getypt` -- the invariant, with one lemma per registry operation;
  * `Typisiert` -- the invariant as a `Weltinvariante` of Bewahrung.lean;
  * **`getypt_erreichbar`** -- the typing holds in every reachable state of the system;
  * `nvSurfaceFromSurfaceId`, `pictureIdxFromSurfaceId` -- the type-checked lookups `vabackend.c`
    exports to the codecs; **`pictureIdxFromSurfaceId_sicher`** -- in every reachable state the
    lookup ends without undefined behaviour and answers the surface's picture index or -1.
-/
import NvdecVaapi.Bewahrung

namespace NvdecVaapi

variable (B : Bau)

/-! ## 1. The invariant -/

/-- Every object of the registry points at a live payload of its own type, and no two objects at
    the same payload. -/
structure Getypt (d : NVDriver) : Prop where
  typ : ∀ o ∈ d.objects, (d.mem o.obj).map Payload.typ = some o.type
  nodup : (d.objects.map Object.obj).Nodup

/-- The zeroed driver's empty registry. -/
theorem Getypt.leer (d : NVDriver) (h : d.objects = []) : Getypt d where
  typ o ho := by simp [h] at ho
  nodup := by simp [h]

/-- A free address is no object's payload. -/
theorem Getypt.obj_ne {d : NVDriver} (hd : Getypt d) {o : Object} (ho : o ∈ d.objects) {a : Nat}
    (ha : d.mem a = none) : o.obj ≠ a := by
  rintro rfl
  have := hd.typ o ho
  rw [ha] at this
  cases this

/-- `allocateObject` at a free address, with a payload of the object's type. -/
theorem Getypt.allocate {d : NVDriver} (hd : Getypt d) {a : Nat} (ha : d.mem a = none)
    {t : ObjectType} {p : Payload} (hp : p.typ = t) : Getypt (allocateObject d t p a).2 where
  typ o ho := by
    simp only [allocateObject, List.mem_append, List.mem_singleton] at ho ⊢
    rcases ho with ho | rfl
    · rw [setMem_other _ _ (hd.obj_ne ho ha)]
      exact hd.typ o ho
    · simp [hp]
  nodup := by
    simp only [allocateObject, List.map_append, List.map_singleton]
    refine List.nodup_append.mpr ⟨hd.nodup, List.nodup_singleton _, ?_⟩
    simp only [List.disjoint_singleton, List.mem_map, not_exists, not_and]
    intro o ho e
    exact hd.obj_ne ho ha e

/-- With distinct payloads, the objects left when the first hit is removed point elsewhere. -/
theorem eraseP_obj_ne {l : List Object} {p : Object → Bool} {o : Object}
    (hn : (l.map Object.obj).Nodup) (hf : l.find? p = some o) :
    ∀ x ∈ l.eraseP p, x ∈ l ∧ x.obj ≠ o.obj := by
  obtain ⟨a, l₁, l₂, h₁, hpa, rfl, he⟩ :=
    List.exists_of_eraseP (List.mem_of_find?_eq_some hf) (List.find?_some hf)
  rw [List.find?_append, List.find?_eq_none.mpr h₁, Option.none_or,
    List.find?_cons_of_pos _ hpa, Option.some.injEq] at hf
  subst hf
  rw [List.map_append, List.map_cons, List.nodup_middle, List.nodup_cons, ← List.map_append] at hn
  intro x hx
  rw [he] at hx
  refine ⟨List.mem_append.mpr ((List.mem_append.mp hx).imp id (List.mem_cons_of_mem _)), ?_⟩
  rintro e
  exact hn.1 (e ▸ List.mem_map_of_mem _ hx)

/-- `deleteObject` removes an object together with its payload, and nothing else. -/
theorem Getypt.delete {d : NVDriver} (hd : Getypt d) (id : Nat) : Getypt (deleteObject d id) := by
  unfold deleteObject
  split
  · exact hd
  split
  · exact hd
  rename_i o hf
  have hx := eraseP_obj_ne hd.nodup hf
  refine ⟨fun x hxm => ?_, ?_⟩
  · obtain ⟨hx₁, hx₂⟩ := hx x hxm
    dsimp only
    rw [setMem_other _ _ hx₂]
    exact hd.typ x hx₁
  · exact hd.nodup.sublist ((List.eraseP_sublist _).map _)

/-- A store, over a live payload, of one of the same type. -/
theorem Getypt.speichere {d : NVDriver} (hd : Getypt d) {a : Nat} {x y : Payload}
    (ha : d.mem a = some x) (hy : y.typ = x.typ) :
    Getypt { d with mem := setMem d.mem a (some y) } where
  typ o ho := by
    by_cases e : o.obj = a
    · have := hd.typ o ho
      rw [e, ha] at this
      simp only [e, setMem_same, Option.map_some', hy]
      exact this
    · dsimp only
      rw [setMem_other _ _ e]
      exact hd.typ o ho
  nodup := hd.nodup

/-! ## 2. Every reachable state -/

/-- The typing, as a property of the world. -/
def Typisiert (w : Welt) : Prop := Getypt w.drv

instance : Weltinvariante Typisiert where
  anfang _ _ _ _ _ := Getypt.leer _ rfl
  spur _ _ h := h
  aus _ _ h := h
  faeden _ _ h := h
  neu _ _ _ _ h ha hp := Getypt.allocate h ha hp
  loesche _ id h := Getypt.delete h id
  speichere _ _ _ _ h hx hy := Getypt.speichere h hx hy
  zaehler w g ho hm _ h :=
    ⟨fun o ho' => by rw [hm, ho] at *; exact h.typ o ho', by rw [ho]; exact h.nodup⟩

/-- **The registry stays typed in every state the system reaches**: whatever the clients call,
    in whatever interleaving with each other and with the resolve threads, every registered object
    points at a live payload of its own type, and no two objects at the same payload. -/
theorem getypt_erreichbar {zul : Sys → Wahl → Sys → Prop} {s : Sys} (h : Erreichbar B zul s) :
    Getypt s.welt.drv :=
  h.bewahrt B (I := Typisiert)

/-- A run of two clients that leaves a config, a surface with a picture index, a Context, an image
    and its buffer live, and a destroyed surface behind: ids 1, 3, 4, 5 and 6. -/
def objekteLauf : List Wahl :=
  [.rufe 0 (.CreateConfig .HEVCMain .VLD []), .rufe 0 (.CreateSurfaces2 VA_RT_FORMAT_YUV420 16 16 2),
    .rufe 1 (.CreateContext 1 16 16 [2, 3] 2), .rufe 1 (.BeginPicture 4 2),
    .rufe 1 (.BeginPicture 4 3), .rufe 1 (.CreateImage (fourcc 'N' 'V' '1' '2') 16 16),
    .rufe 0 (.DestroySurfaces [2])]

set_option smartUnfolding false in
theorem getypt_erreichbar_lauf :
    ∃ s, Erreichbar beispielBau (fun _ _ _ => True) s ∧ s.welt.drv.ids = [1, 3, 4, 5, 6] ∧
      Getypt s.welt.drv := by
  have hl : ((laufe beispielBau (Sys.anfang (fun _ => true) (· + 1) false false 2) objekteLauf).map
      fun s => s.welt.drv.ids) = some [1, 3, 4, 5, 6] := by decide
  obtain ⟨s, hs, e⟩ := Option.map_eq_some'.mp hl
  have hr := erreichbar_laufe beispielBau (.anfang _ _ _ _ _) hs
  exact ⟨s, hr, e, getypt_erreichbar beispielBau hr⟩

/-! ## 3. The type-checked lookup -/

/-- `nvSurfaceFromSurfaceId`: the payload of the object with the id when it is a surface. -/
def nvSurfaceFromSurfaceId (drv : NVDriver) (surf : Nat) : Option Nat :=
  match getObject drv surf with
  | some o => if o.type = .surface then some o.obj else none
  | none => none

/-- `pictureIdxFromSurfaceId`: the surface's `pictureIdx`, or -1. -/
def pictureIdxFromSurfaceId (surfId : Nat) : Prog Int := do
  let drv ← holeDrv
  match nvSurfaceFromSurfaceId drv surfId with
  | some p => do
    let s ← liesSurface (some p)
    pure s.pictureIdx
  | none => pure (-1)

/-- An object the registry finds points at a live payload of its type. -/
theorem Getypt.payload {d : NVDriver} (hd : Getypt d) {id : Nat} {o : Object}
    (h : getObject d id = some o) : ∃ x, d.mem o.obj = some x ∧ x.typ = o.type := by
  unfold getObject at h
  split at h
  · cases h
  · exact Option.map_eq_some'.mp (hd.typ o (List.mem_of_find?_eq_some h))

/-- What `nvSurfaceFromSurfaceId` hands out is a live surface. -/
theorem Getypt.surface {d : NVDriver} (hd : Getypt d) {id a : Nat}
    (h : nvSurfaceFromSurfaceId d id = some a) : ∃ x, d.mem a = some (.surface x) := by
  unfold nvSurfaceFromSurfaceId at h
  split at h
  · split_ifs at h with ht
    cases h
    obtain ⟨y, hy, hyt⟩ := hd.payload ‹_›
    rw [ht] at hyt
    cases y <;> cases hyt
    exact ⟨_, hy⟩
  · cases h

/-- **The type-checked lookup is safe in every reachable state**: `pictureIdxFromSurfaceId` ends
    without undefined behaviour and changes nothing; it answers the picture index of the surface
    `nvSurfaceFromSurfaceId` finds, and -1 when it finds none. -/
theorem pictureIdxFromSurfaceId_sicher {zul : Sys → Wahl → Sys → Prop} {s : Sys}
    (hs : Erreichbar B zul s) (id : Nat) :
    ∃ v, pictureIdxFromSurfaceId id s.welt = .fertig v s.welt ∧
      (nvSurfaceFromSurfaceId s.welt.drv id = none → v = -1) ∧
      ∀ a, nvSurfaceFromSurfaceId s.welt.drv id = some a →
        ∃ x, s.welt.drv.mem a = some (.surface x) ∧ v = x.pictureIdx := by
  rcases e : nvSurfaceFromSurfaceId s.welt.drv id with _ | a
  · exact ⟨-1, by simp [pictureIdxFromSurfaceId, Prog.bind_apply, holeDrv, e], fun _ => rfl,
      nofun⟩
  obtain ⟨x, hx⟩ := (hs.bewahrt B (I := Typisiert)).surface e
  refine ⟨x.pictureIdx, ?_, nofun, fun a' e' => ⟨x, Option.some.inj e' ▸ hx, rfl⟩⟩
  simp [pictureIdxFromSurfaceId, Prog.bind_apply, holeDrv, e, liesSurface, lies, hx,
    Payload.alsSurface]

set_option smartUnfolding false in
/-- The lookup of the live surface 3, begun second on its Context, after `objekteLauf`. -/
theorem pictureIdxFromSurfaceId_sicher_lauf :
    ∃ s, Erreichbar beispielBau (fun _ _ _ => True) s ∧
      (nvSurfaceFromSurfaceId s.welt.drv 3).isSome ∧ (pictureIdxFromSurfaceId 3 s.welt).wert = some 1 ∧
      ∃ v, pictureIdxFromSurfaceId 3 s.welt = .fertig v s.welt ∧
        (nvSurfaceFromSurfaceId s.welt.drv 3 = none → v = -1) ∧
        ∀ a, nvSurfaceFromSurfaceId s.welt.drv 3 = some a →
          ∃ x, s.welt.drv.mem a = some (.surface x) ∧ v = x.pictureIdx := by
  have hl : ((laufe beispielBau (Sys.anfang (fun _ => true) (· + 1) false false 2) objekteLauf).map
      fun s => ((nvSurfaceFromSurfaceId s.welt.drv 3).isSome, (pictureIdxFromSurfaceId 3 s.welt).wert)) =
      some (true, some 1) := by decide
  obtain ⟨s, hs, e⟩ := Option.map_eq_some'.mp hl
  simp only [Prod.mk.injEq] at e
  have hr := erreichbar_laufe beispielBau (.anfang _ _ _ _ _) hs
  exact ⟨s, hr, e.1, e.2, pictureIdxFromSurfaceId_sicher beispielBau hr 3⟩

end NvdecVaapi
