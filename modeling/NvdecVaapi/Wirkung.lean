/-
  File:      NvdecVaapi/Wirkung.lean
  Subject:   What the decode pipeline reads of the heap, and the runs that leave it alone.

  The pipeline's invariants read, of a surface, `resolving`, `decodeFailed`, the picture index and
  the three field flags the resolve thread hands to `cuvidMapVideoFrame`; of a Context, its render
  target, its ring and `exiting`; and the resolve threads. `Rahmen w w'` says that `w'` agrees
  with `w` on all of that, except that payloads may appear where nothing was (never a Context,
  and a surface only with `resolving` clear), and that every id still finds its object. Most entry
  points keep it on every run; the others are taken one by one in `Schritte.lean`.

  * `SBlick`, `KBlick`, `Blick`, `sicht` -- what the pipeline reads at an address;
  * `KBlick.anzahl`, `KBlick.schlange` -- a ring's pending entries read off its indices, with
    the enqueue and the dequeue on them;
  * `Rahmen` -- the frame relation, reflexive and transitive;
  * `Ruhig` -- runs that never stop and keep the frame, closed under `bind`, with one lemma per
    primitive and one per entry point of the pipeline that keeps it.
-/
import NvdecVaapi.System

namespace NvdecVaapi

/-! ## 1. What the pipeline reads -/

/-- What the pipeline reads of a surface. -/
structure SBlick where
  resolving : Bool
  decodeFailed : Bool
  progressiveFrame : Bool
  topFieldFirst : Bool
  secondField : Bool
  pictureIdx : Int
  deriving DecidableEq

/-- What the pipeline reads of a Context: the render target, the ring, `exiting`. -/
structure KBlick where
  renderTarget : Option Nat
  surfaceQueue : Nat → Option Nat
  readIdx : Nat
  writeIdx : Nat
  exiting : Bool

def NVSurface.sblick (x : NVSurface) : SBlick :=
  ⟨x.resolving, x.decodeFailed, x.progressiveFrame, x.topFieldFirst, x.secondField, x.pictureIdx⟩

def NVContext.kblick (c : NVContext) : KBlick :=
  ⟨c.renderTarget, c.surfaceQueue, c.surfaceQueueReadIdx, c.surfaceQueueWriteIdx, c.exiting⟩

/-- What the pipeline reads at an address: nothing allocated, a surface, a Context, or a payload
    it never looks at. -/
inductive Blick where
  | leer
  | surface (s : SBlick)
  | context (k : KBlick)
  | sonst

def blick : Option Payload → Blick
  | none => .leer
  | some (.surface x) => .surface x.sblick
  | some (.context c) => .context c.kblick
  | some _ => .sonst

/-- The view of the heap at `b`. -/
def sicht (w : Welt) (b : Nat) : Blick := blick (w.drv.mem b)

theorem blick_eq_leer {p : Option Payload} : blick p = .leer ↔ p = none := by
  constructor
  · intro h
    rcases p with _ | (_ | _ | _ | _ | _) <;> first | rfl | cases h
  · rintro rfl
    rfl

/-! ## 2. The pending entries of a ring -/

section Ring

variable (N : Nat)

/-- The number of entries between `readIdx` and `writeIdx` (all pending ones while fewer than
    `N` are). -/
def KBlick.anzahl (k : KBlick) : Nat := (k.writeIdx + N - k.readIdx) % N

/-- The pending entries, oldest first. -/
def KBlick.schlange (k : KBlick) : List (Option Nat) :=
  (List.range (k.anzahl N)).map fun i => k.surfaceQueue ((k.readIdx + i) % N)

/-- Both indices inside the ring. -/
def KBlick.Passt (k : KBlick) : Prop := k.readIdx < N ∧ k.writeIdx < N

/-- A Context with the fields of the view, so that the ring lemmas of `Ring.lean` apply. -/
def KBlick.ctx (k : KBlick) : NVContext :=
  { renderTarget := k.renderTarget, surfaceQueue := k.surfaceQueue, surfaceQueueReadIdx := k.readIdx,
    surfaceQueueWriteIdx := k.writeIdx, exiting := k.exiting }

theorem einreihen_kblick (c : NVContext) (s : Option Nat) :
    (einreihen N c s).kblick = (einreihen N c.kblick.ctx s).kblick := rfl

theorem entnehmen_kblick (c : NVContext) :
    (entnehmen N c).1 = (entnehmen N c.kblick.ctx).1 ∧
      (entnehmen N c).2.kblick = (entnehmen N c.kblick.ctx).2.kblick := ⟨rfl, rfl⟩

theorem ringLeer_kblick (c : NVContext) : ringLeer c = ringLeer c.kblick.ctx := rfl

variable {N}

/-- `anzahl` of indices `j` slots apart is `j`. -/
theorem anzahl_of_abstand {r j : Nat} (hr : r < N) (hj : j < N) :
    ((r + j) % N + N - r) % N = j := by
  by_cases h : r + j < N
  · rw [Nat.mod_eq_of_lt h, show r + j + N - r = j + N by omega, Nat.add_mod_right,
      Nat.mod_eq_of_lt hj]
  · have e : (r + j) % N = r + j - N := by
      rw [Nat.mod_eq_sub_mod (by omega), Nat.mod_eq_of_lt (by omega)]
    rw [e, show r + j - N + N - r = j by omega, Nat.mod_eq_of_lt hj]

/-- `writeIdx` lies `anzahl` slots after `readIdx`. -/
theorem KBlick.schreib_eq {k : KBlick} (hk : k.Passt N) :
    k.writeIdx = (k.readIdx + k.anzahl N) % N := by
  obtain ⟨hr, hw⟩ := hk
  unfold KBlick.anzahl
  by_cases h : k.readIdx ≤ k.writeIdx
  · rw [show k.writeIdx + N - k.readIdx = (k.writeIdx - k.readIdx) + N by omega, Nat.add_mod_right,
      Nat.mod_eq_of_lt (by omega : k.writeIdx - k.readIdx < N),
      show k.readIdx + (k.writeIdx - k.readIdx) = k.writeIdx by omega, Nat.mod_eq_of_lt hw]
  · rw [Nat.mod_eq_of_lt (by omega : k.writeIdx + N - k.readIdx < N),
      show k.readIdx + (k.writeIdx + N - k.readIdx) = k.writeIdx + N by omega, Nat.add_mod_right,
      Nat.mod_eq_of_lt hw]

/-- The resolve thread finds the ring empty exactly when nothing is pending. -/
theorem ringLeer_iff {k : KBlick} (hk : k.Passt N) : ringLeer k.ctx = true ↔ k.anzahl N = 0 := by
  have hs := KBlick.schreib_eq hk
  unfold ringLeer
  rw [beq_iff_eq]
  constructor
  · intro e
    simp only [KBlick.ctx] at e
    rw [KBlick.anzahl, e, Nat.add_sub_cancel_left, Nat.mod_self]
  · intro e
    rw [e, Nat.add_zero, Nat.mod_eq_of_lt hk.1] at hs
    exact hs.symm

/-- **The enqueue of `nvEndPicture`** appends to the pending entries while fewer than `N - 1`
    were pending. -/
theorem kblick_einreihen {k : KBlick} (hk : k.Passt N) (hn : k.anzahl N + 1 < N) (s : Option Nat) :
    (einreihen N k.ctx s).kblick.Passt N ∧
      (einreihen N k.ctx s).kblick.anzahl N = k.anzahl N + 1 ∧
      (einreihen N k.ctx s).kblick.schlange N = k.schlange N ++ [s] := by
  have hs := KBlick.schreib_eq hk
  obtain ⟨hr, hw⟩ := hk
  have hw' : weiter N k.writeIdx = (k.readIdx + (k.anzahl N + 1)) % N := by
    rw [weiter_eq_mod hw, hs, Nat.mod_add_mod, Nat.add_assoc]
  have ha : (einreihen N k.ctx s).kblick.anzahl N = k.anzahl N + 1 := by
    change (weiter N k.writeIdx + N - k.readIdx) % N = _
    rw [hw']
    exact anzahl_of_abstand hr hn
  refine ⟨⟨hr, ?_⟩, ha, ?_⟩
  · change weiter N k.writeIdx < N
    rw [weiter_eq_mod hw]
    exact Nat.mod_lt _ (by omega)
  · change ausstehend N (einreihen N k.ctx s) _ = ausstehend N k.ctx _ ++ [s]
    rw [ha]
    exact ausstehend_einreihen (by omega) hs s

/-- **The dequeue of the resolve thread** takes the oldest pending entry. -/
theorem kblick_entnehmen {k : KBlick} (hk : k.Passt N) (hn : 0 < k.anzahl N) :
    (entnehmen N k.ctx).2.kblick.Passt N ∧
      (entnehmen N k.ctx).2.kblick.anzahl N + 1 = k.anzahl N ∧
      k.schlange N = (entnehmen N k.ctx).1 :: (entnehmen N k.ctx).2.kblick.schlange N := by
  have hs := KBlick.schreib_eq hk
  obtain ⟨hr, hw⟩ := hk
  obtain ⟨j, hj⟩ : ∃ j, k.anzahl N = j + 1 := ⟨_, (Nat.succ_pred_eq_of_pos hn).symm⟩
  have hlt : k.anzahl N < N := Nat.mod_lt _ (by omega)
  have ha : (entnehmen N k.ctx).2.kblick.anzahl N = j := by
    change (k.writeIdx + N - weiter N k.readIdx) % N = j
    rw [weiter_eq_mod hr, hs, hj,
      show k.readIdx + (j + 1) = (k.readIdx + 1) + j by omega, ← Nat.mod_add_mod]
    exact anzahl_of_abstand (Nat.mod_lt _ (by omega)) (by omega)
  refine ⟨⟨?_, hw⟩, by rw [ha, hj], ?_⟩
  · change weiter N k.readIdx < N
    rw [weiter_eq_mod hr]
    exact Nat.mod_lt _ (by omega)
  · change ausstehend N k.ctx _ = _ :: ausstehend N (entnehmen N k.ctx).2 _
    rw [ha, hj]
    exact ausstehend_entnehmen hr j

end Ring

/-! ## 3. The frame -/

/-- What may appear where nothing was allocated: no Context, and a surface only with `resolving`
    clear. -/
def Blick.Frisch : Blick → Prop
  | .sonst => True
  | .surface s => s.resolving = false
  | _ => False

/-- **The frame**: `w'` reads like `w` to the pipeline, up to fresh payloads, and every id still
    finds its object. -/
structure Rahmen (w w' : Welt) : Prop where
  heap : ∀ b, sicht w' b = sicht w b ∨ (sicht w b = .leer ∧ (sicht w' b).Frisch)
  faeden : w'.faeden = w.faeden
  objekte : ∀ id o, getObject w.drv id = some o → getObject w'.drv id = some o

theorem Rahmen.refl (w : Welt) : Rahmen w w := ⟨fun _ => .inl rfl, rfl, fun _ _ h => h⟩

theorem Rahmen.trans {w w' w'' : Welt} (h₁ : Rahmen w w') (h₂ : Rahmen w' w'') : Rahmen w w'' := by
  refine ⟨fun b => ?_, h₂.faeden.trans h₁.faeden, fun id o h => h₂.objekte id o (h₁.objekte id o h)⟩
  rcases h₂.heap b with e₂ | ⟨l₂, f₂⟩ <;> rcases h₁.heap b with e₁ | ⟨l₁, f₁⟩
  · exact .inl (e₂.trans e₁)
  · exact .inr ⟨l₁, e₂ ▸ f₁⟩
  · exact .inr ⟨e₁ ▸ l₂, f₂⟩
  · rw [l₂] at f₁
    cases f₁

/-- A surface seen after a frame step was there before with the same view, or is fresh and not
    resolving. -/
theorem Rahmen.surface_rueck {w w' : Welt} (h : Rahmen w w') {b : Nat} {s : SBlick}
    (hs : sicht w' b = .surface s) : sicht w b = .surface s ∨ s.resolving = false := by
  rcases h.heap b with e | ⟨-, f⟩
  · exact .inl (e ▸ hs)
  · rw [hs] at f
    exact .inr f

theorem Rahmen.context_rueck {w w' : Welt} (h : Rahmen w w') {b : Nat} {k : KBlick}
    (hk : sicht w' b = .context k) : sicht w b = .context k := by
  rcases h.heap b with e | ⟨-, f⟩
  · exact e ▸ hk
  · rw [hk] at f
    cases f

/-- What was allocated before a frame step reads the same after it. -/
theorem Rahmen.bleibt {w w' : Welt} (h : Rahmen w w') {b : Nat} (hb : sicht w b ≠ .leer) :
    sicht w' b = sicht w b := by
  rcases h.heap b with e | ⟨l, -⟩
  · exact e
  · exact absurd l hb

/-! ## 4. Runs that keep a relation -/

/-- Every run of `x` ends without stopping, in a world related to its start by `R`, unless it has
    undefined behaviour. -/
def Bleibt (R : Welt → Welt → Prop) (x : Prog α) : Prop :=
  ∀ w, (∃ g, x w = .abbruch g) ∨ ∃ a w', x w = .fertig a w' ∧ R w w'

section Bleibt

variable {R : Welt → Welt → Prop}

theorem bleibt_pure (hr : ∀ w, R w w) (a : α) : Bleibt R (pure a : Prog α) :=
  fun w => .inr ⟨a, w, rfl, hr w⟩

theorem bleibt_bind (ht : ∀ w₁ w₂ w₃, R w₁ w₂ → R w₂ w₃ → R w₁ w₃) {x : Prog α}
    {f : α → Prog β} (hx : Bleibt R x) (hf : ∀ a, Bleibt R (f a)) : Bleibt R (x >>= f) := by
  intro w
  rw [Prog.bind_apply]
  rcases hx w with ⟨g, hg⟩ | ⟨a, w₁, h₁, r₁⟩
  · exact .inl ⟨g, by rw [hg]; rfl⟩
  · rw [h₁, Prog.bind_fertig']
    rcases hf a w₁ with hg | ⟨b, w₂, h₂, r₂⟩
    · exact .inl hg
    · exact .inr ⟨b, w₂, h₂, ht _ _ _ r₁ r₂⟩

theorem bleibt_ite {c : Prop} [Decidable c] {x y : Prog α} (hx : Bleibt R x) (hy : Bleibt R y) :
    Bleibt R (if c then x else y) := by
  split
  · exact hx
  · exact hy

theorem bleibt_abbrechen (g : Abbruch) : Bleibt R (abbrechen g : Prog α) := fun _ => .inl ⟨g, rfl⟩

/-- A run that ends where it started, up to the trace and the out-parameters. -/
theorem bleibt_of_drv {x : Prog α} (hr : ∀ w w', w'.drv = w.drv → w'.faeden = w.faeden → R w w')
    (h : ∀ w, (∃ g, x w = .abbruch g) ∨
      ∃ a w', x w = .fertig a w' ∧ w'.drv = w.drv ∧ w'.faeden = w.faeden) : Bleibt R x := by
  intro w
  rcases h w with hg | ⟨a, w', hx, hd, hf⟩
  · exact .inl hg
  · exact .inr ⟨a, w', hx, hr w w' hd hf⟩

theorem bleibt_ruf (hr : ∀ w w', w'.drv = w.drv → w'.faeden = w.faeden → R w w') (r : Ruf) :
    Bleibt R (ruf r) := bleibt_of_drv hr fun _ => .inr ⟨_, _, rfl, rfl, rfl⟩

theorem bleibt_lies (hr : ∀ w, R w w) (p : Option Nat) (f : Payload → Option α) :
    Bleibt R (lies p f) := by
  intro w
  unfold lies
  split
  · exact .inl ⟨_, rfl⟩
  · split
    · exact .inl ⟨_, rfl⟩
    · split
      · exact .inl ⟨_, rfl⟩
      · exact .inr ⟨_, _, rfl, hr w⟩

end Bleibt

/-! ## 5. Runs that keep the frame -/

/-- `x` never stops at a `Halt` and keeps the frame. -/
def Ruhig (x : Prog α) : Prop := Bleibt Rahmen x

/-- Worlds with one driver and one set of threads are in the frame. -/
theorem rahmen_of_drv {w w' : Welt} (hd : w'.drv = w.drv) (hf : w'.faeden = w.faeden) :
    Rahmen w w' :=
  ⟨fun b => .inl (by simp only [sicht, hd]), hf, fun id o ho => by rwa [hd]⟩

theorem ruhig_pure (a : α) : Ruhig (pure a : Prog α) := bleibt_pure Rahmen.refl a

theorem ruhig_bind {x : Prog α} {f : α → Prog β} (hx : Ruhig x) (hf : ∀ a, Ruhig (f a)) :
    Ruhig (x >>= f) := bleibt_bind (R := Rahmen) (fun _ _ _ => Rahmen.trans) hx hf

theorem ruhig_ite {c : Prop} [Decidable c] {x y : Prog α} (hx : Ruhig x) (hy : Ruhig y) :
    Ruhig (if c then x else y) := bleibt_ite hx hy

theorem ruhig_map {x : Prog α} (f : α → β) (hx : Ruhig x) : Ruhig (f <$> x) :=
  ruhig_bind hx fun _ => ruhig_pure _

theorem ruhig_abbrechen (g : Abbruch) : Ruhig (abbrechen g : Prog α) := bleibt_abbrechen g

theorem ruhig_ruf (r : Ruf) : Ruhig (ruf r) := bleibt_ruf (fun _ _ => rahmen_of_drv) r

theorem ruhig_holeDrv : Ruhig holeDrv := fun w => .inr ⟨_, _, rfl, .refl w⟩

theorem ruhig_gibAus (v : Nat) : Ruhig (gibAus v) := fun _ => .inr ⟨_, _, rfl, rahmen_of_drv rfl rfl⟩

theorem ruhig_lies (p : Option Nat) (f : Payload → Option α) : Ruhig (lies p f) :=
  bleibt_lies Rahmen.refl p f

theorem ruhig_pruefeRuf {k : Prog α} (r : Ruf) (ret : α) (hk : Ruhig k) :
    Ruhig (pruefeRuf r ret k) :=
  ruhig_bind (ruhig_ruf r) fun _ => ruhig_ite hk (ruhig_pure ret)

/-- A change of the driver's counters and flags, not of the heap or the registry. -/
theorem ruhig_aendereDrv {f : NVDriver → NVDriver} (hm : ∀ d, (f d).mem = d.mem)
    (ho : ∀ d, (f d).objects = d.objects) : Ruhig (aendereDrv f) := by
  intro w
  refine .inr ⟨(), _, rfl, fun b => .inl ?_, rfl, fun id o h => ?_⟩
  · simp only [sicht, hm]
  · simpa only [getObject, ho] using h

/-- A store that the pipeline cannot tell from the payload it replaces. -/
theorem rahmen_speichere {w : Welt} {a : Nat} {p : Payload} (h : blick (some p) = sicht w a) :
    Rahmen w { w with drv := { w.drv with mem := setMem w.drv.mem a (some p) } } := by
  refine ⟨fun b => .inl ?_, rfl, fun _ _ h => h⟩
  by_cases hb : b = a
  · subst hb
    simpa [sicht] using h
  · simp [sicht, hb]

/-- A read of a payload and a store of one the pipeline cannot tell from it. -/
theorem ruhig_lies_speichere {p : Option Nat} {view : Payload → Option β} {g : β → Payload}
    (hg : ∀ x v, view x = some v → blick (some (g v)) = blick (some x)) :
    Ruhig (lies p view >>= fun v => speichere (p.getD 0) (g v)) := by
  intro w
  rw [Prog.bind_apply]
  unfold lies
  split
  · exact .inl ⟨_, rfl⟩
  · split
    · exact .inl ⟨_, rfl⟩
    · rename_i a x hx
      split
      · exact .inl ⟨_, rfl⟩
      · rename_i v hv
        exact .inr ⟨(), _, rfl, rahmen_speichere (by simp only [sicht, Option.getD_some, hx]; exact hg x v hv)⟩

theorem ruhig_aendereSurface {p : Option Nat} {f : NVSurface → NVSurface}
    (hf : ∀ x, (f x).sblick = x.sblick) : Ruhig (aendereSurface p f) :=
  ruhig_lies_speichere fun x v hv => by
    cases x <;> cases hv
    simp [blick, hf]

theorem ruhig_aendereContext {p : Option Nat} {f : NVContext → NVContext}
    (hf : ∀ c, (f c).kblick = c.kblick) : Ruhig (aendereContext p f) :=
  ruhig_lies_speichere fun x v hv => by
    cases x <;> cases hv
    simp [blick, hf]

theorem ruhig_aendereConfig (p : Option Nat) (f : NVConfig → NVConfig) :
    Ruhig (aendereConfig p f) :=
  ruhig_lies_speichere fun x v hv => by cases x <;> cases hv; rfl

theorem ruhig_aendereBuffer (p : Option Nat) (f : NVBuffer → NVBuffer) :
    Ruhig (aendereBuffer p f) :=
  ruhig_lies_speichere fun x v hv => by cases x <;> cases hv; rfl

theorem ruhig_aendereImage (p : Option Nat) (f : NVImage → NVImage) :
    Ruhig (aendereImage p f) :=
  ruhig_lies_speichere fun x v hv => by cases x <;> cases hv; rfl

/-- An allocation appends to the registry: every id finds what it found before. -/
theorem getObject_allocate {drv : NVDriver} {id : Nat} {o : Object} (t : ObjectType) (p : Payload)
    (a : Nat) (h : getObject drv id = some o) : getObject (allocateObject drv t p a).2 id = some o := by
  unfold getObject at h ⊢
  split at h
  · cases h
  · rw [if_neg ‹_›]
    simp only [allocateObject, List.find?_append, h]
    rfl

/-- **`allocateObject` keeps the frame** when its payload is fresh. -/
theorem ruhig_neuesObjekt {t : ObjectType} {p : Payload} (hp : (blick (some p)).Frisch) :
    Ruhig (neuesObjekt t p) := by
  intro w
  unfold neuesObjekt calloc
  simp only [Prog.bind_apply]
  split
  · rename_i hl
    refine .inr ⟨_, _, rfl, ⟨fun b => ?_, rfl, fun id o h => getObject_allocate t p _ h⟩⟩
    by_cases hb : b = w.adressen w.spur.length
    · subst hb
      refine .inr ⟨?_, ?_⟩
      · simpa [sicht, blick_eq_leer] using hl
      · simpa [sicht, allocateObject] using hp
    · exact .inl (by simp [sicht, allocateObject, hb])
  · exact .inl ⟨_, rfl⟩

/-! ## 6. Entry points that keep the frame -/

variable (B : Bau)

theorem nvCreateConfig_ruhig (p : VAProfile) (e : VAEntrypoint) (l : List VAConfigAttrib) :
    Ruhig (nvCreateConfig B p e l) := by
  unfold nvCreateConfig
  refine ruhig_ite (ruhig_pure _) (ruhig_ite (ruhig_pure _) ?_)
  exact ruhig_bind ruhig_holeDrv fun _ => ruhig_bind (ruhig_neuesObjekt trivial) fun _ =>
    ruhig_bind (ruhig_gibAus _) fun _ => ruhig_pure _

theorem legeSurfacesAn_ruhig {s : NVSurface} (hs : s.resolving = false) (n : Nat) :
    Ruhig (legeSurfacesAn s n) := by
  induction n with
  | zero => exact ruhig_pure ()
  | succ n ih =>
    exact ruhig_bind (ruhig_neuesObjekt hs) fun _ => ruhig_bind (ruhig_gibAus _) fun _ => ih

theorem nvCreateSurfaces2_ruhig (format width height n : Nat) :
    Ruhig (nvCreateSurfaces2 format width height n) := by
  unfold nvCreateSurfaces2
  split
  · exact ruhig_pure _
  · exact ruhig_pruefeRuf _ _ <| ruhig_bind (legeSurfacesAn_ruhig rfl n) fun _ =>
      ruhig_bind (ruhig_aendereDrv (fun _ => rfl) fun _ => rfl) fun _ =>
        ruhig_pruefeRuf _ _ (ruhig_pure _)

theorem nvMapBuffer_ruhig (b : Nat) : Ruhig (nvMapBuffer b) := by
  unfold nvMapBuffer
  refine ruhig_bind ruhig_holeDrv fun drv => ?_
  split
  · exact ruhig_pure _
  · exact ruhig_bind (ruhig_lies _ _) fun _ => ruhig_bind (ruhig_gibAus _) fun _ => ruhig_pure _

theorem wendeAn_kblick (f : HandlerFunc) (b : NVBuffer) (c : NVContext) :
    (wendeAn f b c).kblick = c.kblick := rfl

theorem rendereBuffers_ruhig (p : Option Nat) (l : List Nat) : Ruhig (rendereBuffers B p l) := by
  induction l with
  | nil => exact ruhig_pure ()
  | cons id ids ih =>
    unfold rendereBuffers
    refine ruhig_bind ruhig_holeDrv fun drv => ?_
    split
    · exact ruhig_abbrechen _
    · refine ruhig_bind (ruhig_lies _ _) fun buf => ruhig_ite ih ?_
      refine ruhig_bind (ruhig_lies _ _) fun c => ?_
      split
      · exact ruhig_abbrechen _
      · split
        · exact ruhig_abbrechen _
        · exact ih
        · exact ruhig_bind (ruhig_aendereContext (wendeAn_kblick _ _)) fun _ => ih

theorem nvRenderPicture_ruhig (c : Nat) (l : List Nat) : Ruhig (nvRenderPicture B c l) := by
  unfold nvRenderPicture
  refine ruhig_bind ruhig_holeDrv fun drv => ?_
  split
  · exact ruhig_pure _
  · exact ruhig_bind (rendereBuffers_ruhig B _ l) fun _ => ruhig_pure _

theorem nvCreateBuffer_ruhig (c t s n : Nat) (d : Option Nat) : Ruhig (nvCreateBuffer c t s n d) := by
  unfold nvCreateBuffer
  refine ruhig_bind ruhig_holeDrv fun drv => ?_
  split
  · exact ruhig_pure _
  · exact ruhig_bind (ruhig_lies _ _) fun _ => ruhig_bind (ruhig_neuesObjekt trivial) fun _ =>
      ruhig_bind (ruhig_gibAus _) fun _ => ruhig_bind (ruhig_ruf _) fun _ =>
        ruhig_ite (ruhig_bind (ruhig_aendereBuffer _ _) fun _ => ruhig_pure _) (ruhig_pure _)

theorem nvCreateImage_ruhig (f : Nat) (wd ht : Int) : Ruhig (nvCreateImage B f wd ht) := by
  unfold nvCreateImage
  dsimp only
  split
  · exact ruhig_pure _
  · exact ruhig_bind (ruhig_neuesObjekt trivial) fun _ => ruhig_bind (ruhig_neuesObjekt trivial) fun _ =>
      ruhig_bind (ruhig_ruf _) fun _ => ruhig_bind (ruhig_aendereBuffer _ _) fun _ =>
        ruhig_bind (ruhig_aendereImage _ _) fun _ => ruhig_pure _

theorem kopiereEbenen_ruhig (s : NVSurface) (img : NVImage) :
    ∀ ds : List CUDA_MEMCPY2D, Ruhig (kopiereEbenen s img ds)
  | [] => ruhig_pure _
  | _ :: ds => by
    unfold kopiereEbenen
    split
    · exact ruhig_abbrechen _
    · exact ruhig_bind (ruhig_lies _ _) fun _ => ruhig_bind (ruhig_ruf _) fun _ =>
        ruhig_ite (kopiereEbenen_ruhig s img ds) (ruhig_pure _)

variable (B : Bau) in
theorem kopiereBild_ruhig (so : Object) (img : NVImage) (width height : Nat) :
    Ruhig (kopiereBild B so img width height) :=
  ruhig_pruefeRuf _ _ <| ruhig_bind (ruhig_lies _ _) fun _ => ruhig_bind (kopiereEbenen_ruhig _ _ _)
    fun _ => ruhig_ite (ruhig_pruefeRuf _ _ (ruhig_pure _)) (ruhig_pure _)

/-! ## 7. Runs that wait on a surface -/

theorem lies_some (a : Nat) (view : Payload → Option α) (w : Welt) :
    lies (some a) view w =
      match w.drv.mem a with
      | none => .abbruch .useAfterFree
      | some x =>
        match view x with
        | none => .abbruch .typVerwechslung
        | some v => .fertig v w := rfl

/-- `x` keeps the frame and stops at most once, at the condition of a surface whose `resolving` is
    set; from there it runs to its end without another stop, keeping the frame. -/
def Wartet (x : Prog α) : Prop :=
  ∀ w, (∃ g, x w = .abbruch g) ∨ (∃ a w', x w = .fertig a w' ∧ Rahmen w w') ∨
    ∃ a w' k, x w = .halt (.bedingung a) w' k ∧ Rahmen w w' ∧
      (∃ s, sicht w' a = .surface s ∧ s.resolving = true) ∧ Ruhig k

theorem wartet_of_ruhig {x : Prog α} (hx : Ruhig x) : Wartet x := fun w =>
  (hx w).elim .inl fun h => .inr (.inl h)

theorem wartet_bind {x : Prog α} {f : α → Prog β} (hx : Wartet x) (hf : ∀ a, Ruhig (f a)) :
    Wartet (x >>= f) := by
  intro w
  rw [Prog.bind_apply]
  rcases hx w with ⟨g, hg⟩ | ⟨a, w₁, h₁, r₁⟩ | ⟨a, w₁, k, h₁, r₁, hs, hk⟩
  · exact .inl ⟨g, by rw [hg]; rfl⟩
  · rw [h₁, Prog.bind_fertig']
    rcases hf a w₁ with hg | ⟨b, w₂, h₂, r₂⟩
    · exact .inl hg
    · exact .inr (.inl ⟨b, w₂, h₂, r₁.trans r₂⟩)
  · rw [h₁, Prog.bind_halt']
    exact .inr (.inr ⟨a, w₁, _, rfl, r₁, hs, ruhig_bind hk hf⟩)

theorem ruhig_bind_wartet {x : Prog α} {f : α → Prog β} (hx : Ruhig x) (hf : ∀ a, Wartet (f a)) :
    Wartet (x >>= f) := by
  intro w
  rw [Prog.bind_apply]
  rcases hx w with ⟨g, hg⟩ | ⟨a, w₁, h₁, r₁⟩
  · exact .inl ⟨g, by rw [hg]; rfl⟩
  · rw [h₁, Prog.bind_fertig']
    rcases hf a w₁ with hg | ⟨b, w₂, h₂, r₂⟩ | ⟨b, w₂, k, h₂, r₂, hs, hk⟩
    · exact .inl hg
    · exact .inr (.inl ⟨b, w₂, h₂, r₁.trans r₂⟩)
    · exact .inr (.inr ⟨b, w₂, k, h₂, r₁.trans r₂, hs, hk⟩)

/-- Reading a surface and waiting on its condition when `resolving` is set. -/
theorem wartet_liesSurface_halte (a : Nat) {k : Unit → Prog α} (hk : Ruhig (k ())) :
    Wartet (liesSurface (some a) >>= fun s =>
      if s.resolving = true then halte (.bedingung a) >>= k else pure () >>= k) := by
  intro w
  unfold liesSurface
  rw [Prog.bind_apply, lies_some]
  rcases hx : w.drv.mem a with _ | x
  · exact .inl ⟨_, rfl⟩
  rcases x with _ | _ | s | _ | _
  any_goals exact .inl ⟨_, rfl⟩
  dsimp only [Payload.alsSurface]
  rw [Prog.bind_fertig']
  cases hr : s.resolving
  · exact wartet_of_ruhig hk w
  · refine .inr (.inr ⟨a, w, _, rfl, .refl w, ⟨s.sblick, by simp [sicht, hx, blick], hr⟩, ?_⟩)
    exact fun w' => hk w'

/-- **`nvSyncSurface` waits only on a surface whose `resolving` is set**, and keeps the frame. -/
theorem nvSyncSurface_wartet (sid : Nat) : Wartet (nvSyncSurface sid) := by
  unfold nvSyncSurface
  refine ruhig_bind_wartet ruhig_holeDrv fun drv => ?_
  split
  · exact wartet_of_ruhig (ruhig_pure _)
  · exact wartet_liesSurface_halte _ (ruhig_pure _)

variable (B : Bau) in
theorem nvGetImage_wartet (s : Nat) (x y : Int) (width height i : Nat) :
    Wartet (nvGetImage B s x y width height i) := by
  unfold nvGetImage
  refine ruhig_bind_wartet ruhig_holeDrv fun drv => ?_
  split
  · exact wartet_of_ruhig (ruhig_abbrechen _)
  · exact wartet_of_ruhig (ruhig_abbrechen _)
  refine ruhig_bind_wartet (ruhig_lies _ _) fun _ => ruhig_bind_wartet (ruhig_lies _ _) fun _ => ?_
  split
  · exact wartet_of_ruhig (ruhig_pure _)
  · exact wartet_bind (nvSyncSurface_wartet s) fun _ => kopiereBild_ruhig B _ _ _ _

end NvdecVaapi
