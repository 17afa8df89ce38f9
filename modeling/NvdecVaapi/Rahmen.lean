/-
  File:      NvdecVaapi/Rahmen.lean
  Subject:   What a run of driver code leaves alone and what it may return: the frame facts the
             entry-point theorems are assembled from, one closure lemma per way of building a
             `Prog`.

  * `Ausgang.wert`, `Ausgang.welt` -- the value and the world a finished run ends with;
  * `HaeltDrv` -- a run that never changes the driver (reads, external calls, out-parameters,
    signals), closed under `bind` and `pruefeRuf`;
  * `VAStatus.istPruefung` -- the statuses an entry point returns when a check of its arguments
    fails; `PrueftZuerst`: such a status comes only from a run that kept the driver;
    `OhnePruefung`: a run that never returns one;
  * `stapelSaldo` -- how a list of external calls changes the calling thread's CUDA context
    stack;
  * `beispielBau`, `leereWelt`, `eineOberflaeche` -- a build with one codec, an empty driver and
    a driver with one surface, to run examples in.
-/
import NvdecVaapi.Einstieg.Weitere

namespace NvdecVaapi

/-! ## 1. The end of a run -/

/-- The value a run returned, if it finished without stopping. -/
def Ausgang.wert : Ausgang α → Option α
  | .fertig a _ => some a
  | _ => none

/-- The world a run ended in, if it finished without stopping. -/
def Ausgang.welt : Ausgang α → Option Welt
  | .fertig _ w => some w
  | _ => none

theorem Ausgang.eq_fertig_of_wert {o : Ausgang α} {a : α} (h : o.wert = some a) :
    ∃ w, o = .fertig a w := by
  cases o with
  | fertig b w => exact ⟨w, by cases h; rfl⟩
  | _ => cases h

/-- The ends a run can reach: its value and last world, resumed after each stop in any world. -/
inductive Ausgang.Ende : Ausgang α → α → Welt → Prop
  | fertig (a : α) (w : Welt) : Ende (.fertig a w) a w
  | halt {h : Halt} {w : Welt} {k : Welt → Ausgang α} {a : α} {w' : Welt} (w₀ : Welt) :
      Ende (k w₀) a w' → Ende (.halt h w k) a w'

theorem Ausgang.ende_fertig_iff {a b : α} {w w' : Welt} :
    (Ausgang.fertig a w).Ende b w' ↔ a = b ∧ w = w' := by
  constructor
  · rintro ⟨⟩
    exact ⟨rfl, rfl⟩
  · rintro ⟨rfl, rfl⟩
    exact .fertig a w

/-- **The end of a composite run** is an end of its second part, started at an end of its
    first part. -/
theorem Ausgang.ende_bind {o : Ausgang α} {f : α → Welt → Ausgang β} {b : β} {w'' : Welt}
    (h : (o.bind f).Ende b w'') : ∃ a w', o.Ende a w' ∧ (f a w').Ende b w'' := by
  induction o with
  | abbruch g => cases h
  | fertig a w => exact ⟨a, w, .fertig a w, h⟩
  | halt hh w k ih =>
    cases h with
    | halt w₀ h =>
      obtain ⟨a, w', h1, h2⟩ := ih w₀ h
      exact ⟨a, w', .halt w₀ h1, h2⟩

@[simp] theorem holeDrv_apply (w : Welt) : holeDrv w = .fertig w.drv w := rfl

@[simp] theorem holeDrv_bind (f : NVDriver → Prog α) (w : Welt) :
    (holeDrv >>= f) w = f w.drv w := rfl

theorem ruf_apply (r : Ruf) (w : Welt) :
    ruf r w = .fertig (w.orakel w.spur.length)
      { w with spur := w.spur ++ [(r, w.orakel w.spur.length)] } := rfl

theorem map_eq_bind (f : α → β) (x : Prog α) : f <$> x = x >>= fun a => pure (f a) := rfl

/-! ## 2. Runs that keep the driver -/

/-- `x` ends only without stopping, and keeps the driver. -/
def HaeltDrv (x : Prog α) : Prop :=
  ∀ ⦃w a w'⦄, (x w).Ende a w' → x w = .fertig a w' ∧ w'.drv = w.drv

/-- A run that ends at once in a world with the same driver keeps the driver. -/
theorem haeltDrv_of_apply {x : Prog α}
    (h : ∀ w, (∃ g, x w = .abbruch g) ∨ ∃ a w', x w = .fertig a w' ∧ w'.drv = w.drv) :
    HaeltDrv x := by
  intro w a w' he
  rcases h w with ⟨g, hg⟩ | ⟨b, w₁, hb, hd⟩
  · rw [hg] at he
    cases he
  · rw [hb] at he ⊢
    obtain ⟨rfl, rfl⟩ := Ausgang.ende_fertig_iff.mp he
    exact ⟨rfl, hd⟩

theorem haeltDrv_pure (a : α) : HaeltDrv (pure a : Prog α) :=
  haeltDrv_of_apply fun w => .inr ⟨a, w, rfl, rfl⟩

theorem haeltDrv_bind {x : Prog α} {f : α → Prog β} (hx : HaeltDrv x)
    (hf : ∀ a, HaeltDrv (f a)) : HaeltDrv (x >>= f) := by
  intro w b w'' h
  rw [Prog.bind_apply] at h ⊢
  obtain ⟨a, w', h1, h2⟩ := Ausgang.ende_bind h
  obtain ⟨hx1, hx2⟩ := hx h1
  obtain ⟨hf1, hf2⟩ := hf a h2
  rw [hx1]
  exact ⟨hf1, hf2.trans hx2⟩

theorem haeltDrv_ite {c : Prop} [Decidable c] {x y : Prog α} (hx : HaeltDrv x) (hy : HaeltDrv y) :
    HaeltDrv (if c then x else y) := by
  split
  · exact hx
  · exact hy

theorem haeltDrv_abbrechen (g : Abbruch) : HaeltDrv (abbrechen g : Prog α) :=
  haeltDrv_of_apply fun _ => .inl ⟨g, rfl⟩

theorem haeltDrv_ruf (r : Ruf) : HaeltDrv (ruf r) :=
  haeltDrv_of_apply fun _ => .inr ⟨_, _, rfl, rfl⟩

theorem haeltDrv_holeDrv : HaeltDrv holeDrv :=
  haeltDrv_of_apply fun _ => .inr ⟨_, _, rfl, rfl⟩

theorem haeltDrv_gibAus (v : Nat) : HaeltDrv (gibAus v) :=
  haeltDrv_of_apply fun _ => .inr ⟨_, _, rfl, rfl⟩

theorem haeltDrv_signalResolve (a : Nat) : HaeltDrv (signalResolve a) :=
  haeltDrv_of_apply fun _ => .inr ⟨_, _, rfl, rfl⟩

theorem haeltDrv_lies (p : Option Nat) (sicht : Payload → Option α) : HaeltDrv (lies p sicht) := by
  refine haeltDrv_of_apply fun w => ?_
  unfold lies
  split
  · exact .inl ⟨_, rfl⟩
  · split
    · exact .inl ⟨_, rfl⟩
    · split
      · exact .inl ⟨_, rfl⟩
      · exact .inr ⟨_, _, rfl, rfl⟩

theorem haeltDrv_pruefeRuf {k : Prog α} (r : Ruf) (ret : α) (hk : HaeltDrv k) :
    HaeltDrv (pruefeRuf r ret k) :=
  haeltDrv_bind (haeltDrv_ruf r) fun _ => haeltDrv_ite hk (haeltDrv_pure ret)

/-! ## 3. Statuses of a failed check -/

/-- The statuses an entry point returns when a check of its arguments fails. -/
def VAStatus.istPruefung : VAStatus → Bool
  | .errorInvalidConfig | .errorInvalidContext | .errorInvalidSurface | .errorInvalidBuffer
  | .errorInvalidImage | .errorInvalidParameter | .errorInvalidImageFormat
  | .errorUnsupportedProfile | .errorUnsupportedEntrypoint | .errorUnsupportedRtFormat
  | .errorUnsupportedMemoryType | .errorUnimplemented => true
  | _ => false

/-- A status of a failed check (read through `st`) ends only a run that did not stop and kept the
    driver. -/
def PrueftZuerst (st : α → VAStatus) (x : Prog α) : Prop :=
  ∀ ⦃w a w'⦄, (x w).Ende a w' → (st a).istPruefung = true → x w = .fertig a w' ∧ w'.drv = w.drv

/-- `x` never ends with a status of a failed check. -/
def OhnePruefung (st : α → VAStatus) (x : Prog α) : Prop :=
  ∀ ⦃w a w'⦄, (x w).Ende a w' → (st a).istPruefung = false

section Pruefung

variable {st : α → VAStatus}

theorem prueftZuerst_of_haeltDrv {x : Prog α} (h : HaeltDrv x) : PrueftZuerst st x :=
  fun _ _ _ hx _ => h hx

theorem prueftZuerst_of_ohne {x : Prog α} (h : OhnePruefung st x) : PrueftZuerst st x := by
  intro w a w' hx hp
  rw [h hx] at hp
  cases hp

theorem prueftZuerst_pure (a : α) : PrueftZuerst st (pure a) :=
  prueftZuerst_of_haeltDrv (haeltDrv_pure a)

/-- Reading before deciding keeps the property. -/
theorem prueftZuerst_bind {x : Prog β} {f : β → Prog α} (hx : HaeltDrv x)
    (hf : ∀ b, PrueftZuerst st (f b)) : PrueftZuerst st (x >>= f) := by
  intro w a w'' h hp
  rw [Prog.bind_apply] at h ⊢
  obtain ⟨b, w', h1, h2⟩ := Ausgang.ende_bind h
  obtain ⟨hx1, hx2⟩ := hx h1
  obtain ⟨hf1, hf2⟩ := hf b h2 hp
  rw [hx1]
  exact ⟨hf1, hf2.trans hx2⟩

theorem prueftZuerst_map {x : Prog β} {f : β → α} (h : PrueftZuerst (st ∘ f) x) :
    PrueftZuerst st (f <$> x) := by
  intro w a w'' hx hp
  rw [map_eq_bind, Prog.bind_apply] at hx ⊢
  obtain ⟨b, w', h1, h2⟩ := Ausgang.ende_bind hx
  obtain ⟨rfl, rfl⟩ := Ausgang.ende_fertig_iff.mp h2
  obtain ⟨hx1, hx2⟩ := h h1 hp
  rw [hx1]
  exact ⟨rfl, hx2⟩

theorem ohnePruefung_pure {a : α} (h : (st a).istPruefung = false) : OhnePruefung st (pure a) := by
  intro w b w' hx
  obtain ⟨rfl, -⟩ := Ausgang.ende_fertig_iff.mp hx
  exact h

/-- Whatever a run does first, its status is the one the rest returns. -/
theorem ohnePruefung_bind {x : Prog β} {f : β → Prog α} (hf : ∀ b, OhnePruefung st (f b)) :
    OhnePruefung st (x >>= f) := by
  intro w a w'' h
  obtain ⟨b, w', -, h2⟩ := Ausgang.ende_bind h
  exact hf b h2

theorem ohnePruefung_ite {c : Prop} [Decidable c] {x y : Prog α} (hx : OhnePruefung st x)
    (hy : OhnePruefung st y) : OhnePruefung st (if c then x else y) := by
  split
  · exact hx
  · exact hy

theorem ohnePruefung_abbrechen (g : Abbruch) : OhnePruefung st (abbrechen g) := by
  intro w a w' h
  cases h

theorem ohnePruefung_pruefeRuf {k : Prog α} (r : Ruf) {ret : α} (hret : (st ret).istPruefung = false)
    (hk : OhnePruefung st k) : OhnePruefung st (pruefeRuf r ret k) :=
  ohnePruefung_bind fun _ => ohnePruefung_ite hk (ohnePruefung_pure hret)

end Pruefung

/-! ## 4. The calling thread's context stack -/

/-- How a list of external calls changes the calling thread's CUDA context stack: a successful
    `cuCtxPushCurrent` pushes the driver's context, a successful `cuCtxPopCurrent` pops one. -/
def stapelSaldo : List (Ruf × Bool) → Int
  | [] => 0
  | (.cuCtxPushCurrent, true) :: l => stapelSaldo l + 1
  | (.cuCtxPopCurrent, true) :: l => stapelSaldo l - 1
  | _ :: l => stapelSaldo l

/-! ## 5. A build and a world to run examples in -/

/-- A codec that decodes `VAProfileHEVCMain` only, with an empty handler table. -/
def beispielCodec : NVCodec :=
  ⟨[.HEVCMain], fun p => if p = .HEVCMain then .HEVC else .NONE, []⟩

/-- A build with that codec and a ring of four entries. -/
def beispielBau : Bau := ⟨[beispielCodec], 4, false⟩

/-- An empty driver whose external calls all succeed and whose `calloc`s answer fresh addresses. -/
def leereWelt : Welt := { drv := NVDriver.leer, orakel := fun _ => true, adressen := fun k => k + 1 }

/-- A driver holding one surface, id 1, at address 1. -/
def eineOberflaeche : NVDriver :=
  { objects := [⟨.surface, 1, 1⟩], nextObjId := 1,
    mem := fun b => if b = 1 then some (.surface {}) else none }

end NvdecVaapi
