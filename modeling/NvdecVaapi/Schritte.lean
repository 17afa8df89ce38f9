/-
  File:      NvdecVaapi/Schritte.lean
  Subject:   The steps of the decode pipeline that change what it reads: `nvBeginPicture`, the two
             halves of `nvEndPicture`, the three phases of `nvDestroyContext`, `nvCreateContext`,
             and the steps of the resolve thread.

  One lemma per step says all a step can do to the view of `Wirkung.lean`; the pipeline's
  invariants cite these lemmas and never unfold an entry point.

  * `Prog.bind_eq_halt`, `lies_fertig`, `ruf_fertig`, `neuesObjekt_fertig`, ... -- what a run
    that returned or stopped did, one primitive at a time;
  * `Gleich`, `NurAn` -- worlds the pipeline cannot tell apart; worlds that differ only in the
    surface at one address, which keeps its `resolving`;
  * `nvBeginPicture_wirkung` -- a successful begin sets `resolving` of the target and makes it
    the Context's render target; a failed one touches the target's picture index only;
  * `nvEndPicture_fertig`, `nvEndPicture_halt`, `reiheEinUnterMutex_fertig` -- the decode half
    stops at `resolveMutex` (or fails at the push or the pop), the half under the mutex enqueues
    the render target and signals;
  * `nvDestroyContext_fertig`, `nvDestroyContext_halt`, `destroyContextNachExiting_apply`,
    `destroyContextNachJoin_fertig`, `loescheContext_fertig` -- `exiting`, the signal, the join,
    the deletion;
  * `nvCreateContext_wirkung` -- a new Context with an empty ring and a new resolve thread, or the
    frame;
  * `resolveSchritt_start`, ..., `resolveSchritt_loest` -- each step of the resolve thread.
-/
import NvdecVaapi.Wirkung

namespace NvdecVaapi

/-! ## 1. Tools -/

/-- **The bind inversion for a stop**: a composite run stopped in its first part or after it. -/
theorem Prog.bind_eq_halt {x : Prog α} {f : α → Prog β} {w w' : Welt} {h : Halt}
    {k : Welt → Ausgang β} (e : (x >>= f) w = .halt h w' k) :
    (∃ k₀, x w = .halt h w' k₀ ∧ k = fun w'' => (k₀ w'').bind f) ∨
      ∃ a w₁, x w = .fertig a w₁ ∧ f a w₁ = .halt h w' k := by
  rw [Prog.bind_apply] at e
  cases hx : x w with
  | abbruch g => rw [hx] at e; cases e
  | fertig a w₁ => rw [hx] at e; exact .inr ⟨a, w₁, rfl, e⟩
  | halt h₀ w₀ k₀ =>
    rw [hx] at e
    cases e
    exact .inl ⟨k₀, rfl, rfl⟩

@[simp] theorem sicht_setMem (w : Welt) (a : Nat) (p : Option Payload) (b : Nat) :
    sicht { w with drv := { w.drv with mem := setMem w.drv.mem a p } } b =
      if b = a then blick p else sicht w b := by
  by_cases hb : b = a <;> simp [sicht, setMem, hb]

theorem lies_fertig {p : Option Nat} {view : Payload → Option α} {w w' : Welt} {v : α}
    (h : lies p view w = .fertig v w') :
    w = w' ∧ ∃ a x, p = some a ∧ w.drv.mem a = some x ∧ view x = some v := by
  unfold lies at h
  split at h
  · cases h
  · split at h
    · cases h
    · split at h
      · cases h
      · cases h
        exact ⟨rfl, _, _, rfl, ‹_›, ‹_›⟩

theorem aendereSurface_fertig {p : Option Nat} {f : NVSurface → NVSurface} {w w' : Welt}
    {u : Unit} (h : aendereSurface p f w = .fertig u w') :
    ∃ a x, p = some a ∧ w.drv.mem a = some (.surface x) ∧
      w' = { w with drv := { w.drv with mem := setMem w.drv.mem a (some (.surface (f x))) } } := by
  obtain ⟨x, w₁, h₁, h₂⟩ := Prog.bind_eq_fertig h
  obtain ⟨rfl, a, y, rfl, hy, hv⟩ := lies_fertig h₁
  cases y <;> cases hv
  cases h₂
  exact ⟨a, x, rfl, hy, rfl⟩

theorem aendereContext_fertig {p : Option Nat} {f : NVContext → NVContext} {w w' : Welt}
    {u : Unit} (h : aendereContext p f w = .fertig u w') :
    ∃ a c, p = some a ∧ w.drv.mem a = some (.context c) ∧
      w' = { w with drv := { w.drv with mem := setMem w.drv.mem a (some (.context (f c))) } } := by
  obtain ⟨x, w₁, h₁, h₂⟩ := Prog.bind_eq_fertig h
  obtain ⟨rfl, a, y, rfl, hy, hv⟩ := lies_fertig h₁
  cases y <;> cases hv
  cases h₂
  exact ⟨a, x, rfl, hy, rfl⟩

/-- A run that keeps a relation never stops. -/
theorem Bleibt.kein_halt {R : Welt → Welt → Prop} {x : Prog α} (hx : Bleibt R x) {w w' : Welt}
    {h : Halt} {k : Welt → Ausgang α} : x w ≠ .halt h w' k := by
  rcases hx w with ⟨g, hg⟩ | ⟨a, w'', hg, -⟩ <;> rw [hg] <;> exact fun e => by cases e

/-- An end of a run that never stops is the end it finishes with. -/
theorem Bleibt.ende {R : Welt → Welt → Prop} {x : Prog α} (hx : Bleibt R x) {w w' : Welt} {a : α}
    (h : (x w).Ende a w') : x w = .fertig a w' := by
  rcases hx w with ⟨g, hg⟩ | ⟨b, w'', hg, -⟩ <;> rw [hg] at h ⊢
  · cases h
  · obtain ⟨rfl, rfl⟩ := Ausgang.ende_fertig_iff.mp h
    rfl

/-- `x` never stops at a `Halt`: it ends, or has undefined behaviour. -/
def OhneHalt (x : Prog α) : Prop := Bleibt (fun _ _ => True) x

theorem Bleibt.ohneHalt {R : Welt → Welt → Prop} {x : Prog α} (hx : Bleibt R x) : OhneHalt x :=
  fun w => (hx w).imp id fun ⟨a, w', h, _⟩ => ⟨a, w', h, trivial⟩

theorem ohneHalt_bind {x : Prog α} {f : α → Prog β} (hx : OhneHalt x) (hf : ∀ a, OhneHalt (f a)) :
    OhneHalt (x >>= f) :=
  bleibt_bind (fun _ _ _ _ _ => trivial) hx hf

theorem ohneHalt_fertig {x : Prog α} (h : ∀ w, ∃ a w', x w = .fertig a w') : OhneHalt x :=
  fun w => let ⟨a, w', e⟩ := h w; .inr ⟨a, w', e, trivial⟩

theorem ohneHalt_aendereSurface (p : Option Nat) (f : NVSurface → NVSurface) :
    OhneHalt (aendereSurface p f) :=
  ohneHalt_bind (bleibt_lies (fun _ => trivial) _ _) fun _ => ohneHalt_fertig fun _ => ⟨_, _, rfl⟩

theorem ohneHalt_aendereContext (p : Option Nat) (f : NVContext → NVContext) :
    OhneHalt (aendereContext p f) :=
  ohneHalt_bind (bleibt_lies (fun _ => trivial) _ _) fun _ => ohneHalt_fertig fun _ => ⟨_, _, rfl⟩

theorem aendereSurface_kein_halt {p : Option Nat} {f : NVSurface → NVSurface} {w w' : Welt}
    {h : Halt} {k : Welt → Ausgang Unit} : aendereSurface p f w ≠ .halt h w' k :=
  (ohneHalt_aendereSurface p f).kein_halt

theorem aendereContext_kein_halt {p : Option Nat} {f : NVContext → NVContext} {w w' : Welt}
    {h : Halt} {k : Welt → Ausgang Unit} : aendereContext p f w ≠ .halt h w' k :=
  (ohneHalt_aendereContext p f).kein_halt

/-! ## 2. Worlds the pipeline cannot tell apart -/

/-- The pipeline reads `w'` as it reads `w`. -/
def Gleich (w w' : Welt) : Prop :=
  (∀ b, sicht w' b = sicht w b) ∧ w'.faeden = w.faeden ∧ w'.drv.objects = w.drv.objects

/-- `w'` reads like `w` except for the surface at `a`, which keeps its `resolving`. -/
def NurAn (a : Nat) (w w' : Welt) : Prop :=
  w'.faeden = w.faeden ∧ w'.drv.objects = w.drv.objects ∧
    ∀ b, sicht w' b = sicht w b ∨
      b = a ∧ ∃ s s', sicht w b = .surface s ∧ sicht w' b = .surface s' ∧ s'.resolving = s.resolving

theorem Gleich.refl (w : Welt) : Gleich w w := ⟨fun _ => rfl, rfl, rfl⟩

theorem Gleich.trans {w₁ w₂ w₃ : Welt} (h₁ : Gleich w₁ w₂) (h₂ : Gleich w₂ w₃) : Gleich w₁ w₃ :=
  ⟨fun b => (h₂.1 b).trans (h₁.1 b), h₂.2.1.trans h₁.2.1, h₂.2.2.trans h₁.2.2⟩

theorem Gleich.rahmen {w w' : Welt} (h : Gleich w w') : Rahmen w w' :=
  ⟨fun b => .inl (h.1 b), h.2.1, fun id o ho => by unfold getObject at ho ⊢; rwa [h.2.2]⟩

theorem NurAn.of_gleich {a : Nat} {w w' : Welt} (h : Gleich w w') : NurAn a w w' :=
  ⟨h.2.1, h.2.2, fun b => .inl (h.1 b)⟩

theorem NurAn.trans {a : Nat} {w₁ w₂ w₃ : Welt} (h₁ : NurAn a w₁ w₂) (h₂ : NurAn a w₂ w₃) :
    NurAn a w₁ w₃ := by
  refine ⟨h₂.1.trans h₁.1, h₂.2.1.trans h₁.2.1, fun b => ?_⟩
  rcases h₁.2.2 b with e₁ | ⟨hb, s₁, s₂, e₁, e₂, r₁⟩
  · rcases h₂.2.2 b with e₂ | ⟨hb, s₂, s₃, e₂, e₃, r₂⟩
    · exact .inl (e₂.trans e₁)
    · exact .inr ⟨hb, s₂, s₃, e₁ ▸ e₂, e₃, r₂⟩
  · rcases h₂.2.2 b with e₃ | ⟨-, s₂', s₃, e₂', e₃, r₂⟩
    · exact .inr ⟨hb, s₁, s₂, e₁, e₃.trans e₂, r₁⟩
    · rw [e₂] at e₂'
      cases e₂'
      exact .inr ⟨hb, s₁, s₃, e₁, e₃, r₂.trans r₁⟩

/-- A world after a store the pipeline cannot see. -/
theorem gleich_speichere {w : Welt} {a : Nat} {p : Payload} (h : blick (some p) = sicht w a) :
    Gleich w { w with drv := { w.drv with mem := setMem w.drv.mem a (some p) } } :=
  ⟨fun b => by by_cases hb : b = a <;> simp [hb, h], rfl, rfl⟩

theorem gleich_of_drv {w w' : Welt} (hd : w'.drv = w.drv) (hf : w'.faeden = w.faeden) :
    Gleich w w' := ⟨fun b => by simp only [sicht, hd], hf, by rw [hd]⟩

theorem bleibt_gleich_aendereContext {p : Option Nat} {f : NVContext → NVContext}
    (hf : ∀ c, (f c).kblick = c.kblick) : Bleibt Gleich (aendereContext p f) := by
  intro w
  rcases hw : aendereContext p f w with g | ⟨u, w'⟩ | ⟨h, w', k⟩
  · exact .inl ⟨g, rfl⟩
  · obtain ⟨a, c, rfl, hc, rfl⟩ := aendereContext_fertig hw
    exact .inr ⟨u, _, rfl, gleich_speichere (by simp [sicht, hc, blick, hf])⟩
  · exact absurd hw (ruhig_aendereContext hf).kein_halt

/-- **A surface update that keeps `resolving`** changes the view at that surface only. -/
theorem nurAn_aendereSurface {a : Nat} {f : NVSurface → NVSurface}
    (hf : ∀ x, (f x).resolving = x.resolving) : Bleibt (NurAn a) (aendereSurface (some a) f) := by
  intro w
  rcases hw : aendereSurface (some a) f w with g | ⟨u, w'⟩ | ⟨h, w', k⟩
  · exact .inl ⟨g, rfl⟩
  · obtain ⟨a', x, he, hx, rfl⟩ := aendereSurface_fertig hw
    cases he
    refine .inr ⟨u, _, rfl, rfl, rfl, fun b => ?_⟩
    by_cases hb : b = a
    · subst hb
      exact .inr ⟨rfl, x.sblick, (f x).sblick, by simp [sicht, hx, blick], by simp [blick],
        hf x⟩
    · exact .inl (by simp [hb])
  · exact absurd hw aendereSurface_kein_halt

theorem Bleibt.rel {R : Welt → Welt → Prop} {x : Prog α} (hx : Bleibt R x) {w w' : Welt} {a : α}
    (h : x w = .fertig a w') : R w w' := by
  rcases hx w with ⟨g, hg⟩ | ⟨b, w'', hg, hr⟩ <;> rw [hg] at h <;> cases h
  exact hr

theorem Bleibt.mono {R R' : Welt → Welt → Prop} (hR : ∀ w w', R w w' → R' w w') {x : Prog α}
    (hx : Bleibt R x) : Bleibt R' x := fun w =>
  (hx w).imp id fun ⟨a, w', h, r⟩ => ⟨a, w', h, hR w w' r⟩

theorem nurAn_refl (a : Nat) (w : Welt) : NurAn a w w := .of_gleich (.refl w)

theorem bleibt_nurAn_ruf (a : Nat) (r : Ruf) : Bleibt (NurAn a) (ruf r) :=
  bleibt_ruf (fun _ _ hd hf => .of_gleich (gleich_of_drv hd hf)) r

theorem bleibt_nurAn_lies (a : Nat) (p : Option Nat) (f : Payload → Option α) :
    Bleibt (NurAn a) (lies p f) := bleibt_lies (nurAn_refl a) p f

/-! ## 3. `nvBeginPicture` -/

section Beginn

variable {a : Nat}

theorem nurAn_bind {x : Prog α} {f : α → Prog β} (hx : Bleibt (NurAn a) x)
    (hf : ∀ v, Bleibt (NurAn a) (f v)) : Bleibt (NurAn a) (x >>= f) :=
  bleibt_bind (R := NurAn a) (fun _ _ _ => NurAn.trans) hx hf

theorem nurAn_pure (v : α) : Bleibt (NurAn a) (pure v : Prog α) := bleibt_pure (nurAn_refl a) v

theorem detach_nurAn : Bleibt (NurAn a) (detachBackingImageFromSurface (some a)) :=
  nurAn_bind (bleibt_nurAn_ruf a _) fun _ => nurAn_aendereSurface fun _ => rfl

/-- The rebind changes the target's picture index and backing image only. -/
theorem loeseAltbindung_nurAn (p : Option Nat) : Bleibt (NurAn a) (loeseAltbindung p a) := by
  unfold loeseAltbindung
  refine nurAn_bind (bleibt_nurAn_lies a _ _) fun _ => ?_
  dsimp only
  refine bleibt_ite (bleibt_ite (nurAn_bind detach_nurAn fun _ => ?_)
    (nurAn_bind (nurAn_pure ()) fun _ => ?_)) (nurAn_pure ()) <;>
    exact nurAn_aendereSurface fun _ => rfl

/-- The index assignment changes the target's picture index and the Context's counter only. -/
theorem vergibPictureIdx_nurAn (p : Option Nat) : Bleibt (NurAn a) (vergibPictureIdx p a) := by
  unfold vergibPictureIdx
  refine nurAn_bind (bleibt_nurAn_lies a _ _) fun _ => bleibt_ite ?_ (nurAn_pure _)
  refine nurAn_bind (bleibt_nurAn_lies a _ _) fun _ => bleibt_ite (nurAn_pure _) ?_
  refine nurAn_bind (nurAn_aendereSurface fun _ => rfl) fun _ => ?_
  refine nurAn_bind ((bleibt_gleich_aendereContext ?_).mono fun _ _ => NurAn.of_gleich) fun _ =>
    nurAn_pure _
  exact fun _ => rfl

/-- `w'` is `w` with the surface at `a` in flight as the render target of the Context at `ca`. -/
def Begonnen (a ca : Nat) (w w' : Welt) : Prop :=
  (∃ s, sicht w a = .surface s) ∧ (∃ s', sicht w' a = .surface s' ∧ s'.resolving = true) ∧
    (∃ kc, sicht w ca = .context kc ∧ sicht w' ca = .context { kc with renderTarget := some a }) ∧
    (∀ b, b ≠ a → b ≠ ca → sicht w' b = sicht w b) ∧ w'.faeden = w.faeden ∧
    w'.drv.objects = w.drv.objects

theorem Begonnen.of_nurAn {ca : Nat} {w w₁ w' : Welt} (r : NurAn a w w₁) (h : Begonnen a ca w₁ w') :
    Begonnen a ca w w' := by
  obtain ⟨⟨s, hs⟩, hs', ⟨kc, hk, hk'⟩, hb, hf, ho⟩ := h
  have hw : ∀ b, b ≠ a → sicht w₁ b = sicht w b := fun b hb' =>
    (r.2.2 b).resolve_right fun h => hb' h.1
  refine ⟨?_, hs', ⟨kc, ?_, hk'⟩, fun b h₁ h₂ => (hb b h₁ h₂).trans (hw b h₁), hf.trans r.1,
    ho.trans r.2.1⟩
  · rcases r.2.2 a with e | ⟨-, s₀, -, e, -⟩
    · exact ⟨s, e.symm.trans hs⟩
    · exact ⟨s₀, e⟩
  · have hne : ca ≠ a := by
      rintro rfl
      rw [hs] at hk
      cases hk
    rw [← hw ca hne, hk]

/-- `resolving = 1`, and the target becomes the Context's render target. -/
theorem markiereBeginn_wirkung {ca : Nat} {w w' : Welt} {u : Unit}
    (h : markiereBeginn (some ca) a w = .fertig u w') : Begonnen a ca w w' := by
  unfold markiereBeginn at h
  obtain ⟨_, w₁, h₁, h⟩ := Prog.bind_eq_fertig h
  obtain ⟨_, x₁, he, hx₁, rfl⟩ := aendereSurface_fertig h₁
  cases he
  obtain ⟨_, w₂, h₂, h⟩ := Prog.bind_eq_fertig h
  obtain ⟨_, c₂, he, hc₂, rfl⟩ := aendereContext_fertig h₂
  cases he
  have hne : a ≠ ca := by
    rintro rfl
    simp [setMem] at hc₂
  simp only [setMem_other _ _ (Ne.symm hne)] at hc₂
  obtain ⟨_, w₃, h₃, h⟩ := Prog.bind_eq_fertig h
  obtain ⟨_, x₃, he, hx₃, rfl⟩ := aendereSurface_fertig h₃
  cases he
  simp only [setMem_other _ _ hne, setMem_same, Option.some.injEq, Payload.surface.injEq] at hx₃
  subst hx₃
  obtain ⟨_, w₄, h₄, h⟩ := Prog.bind_eq_fertig h
  obtain ⟨rfl, _, _, he, -, -⟩ := lies_fertig h₄
  obtain ⟨_, c₅, he', hc₅, rfl⟩ := aendereContext_fertig h
  cases he'
  simp only [setMem_other _ _ (Ne.symm hne), setMem_same, Option.some.injEq,
    Payload.context.injEq] at hc₅
  subst hc₅
  refine ⟨⟨x₁.sblick, by simp [sicht, hx₁, blick]⟩, by simp [sicht, setMem, hne, blick, NVSurface.sblick],
    ⟨c₂.kblick, by simp [sicht, hc₂, blick], ?_⟩, fun b hb hc => by simp [sicht, setMem, hb, hc], rfl, rfl⟩
  simp [sicht, setMem, hne, Ne.symm hne, blick]
  rfl

/-- **`nvBeginPicture`**: a successful call puts the target in flight as the Context's render
    target, touching nothing else the pipeline reads; a failed one changes the target's picture
    index at most. -/
theorem nvBeginPicture_wirkung {cid sid : Nat} {w w' : Welt} {st : VAStatus}
    (h : nvBeginPicture cid sid w = .fertig st w') :
    (st = .success → ∃ a ca, getObjectPtr w.drv sid = some a ∧ getObjectPtr w.drv cid = some ca ∧
      Begonnen a ca w w') ∧
    (st ≠ .success → w' = w ∨ ∃ a, getObjectPtr w.drv sid = some a ∧ NurAn a w w') := by
  unfold nvBeginPicture at h
  rw [holeDrv_bind] at h
  rcases ha : getObjectPtr w.drv sid with _ | a <;> rw [ha] at h <;> dsimp only at h
  · cases h
    exact ⟨nofun, fun _ => .inl rfl⟩
  obtain ⟨_, w₁, h₁, h⟩ := Prog.bind_eq_fertig h
  obtain ⟨ok, w₂, h₂, h⟩ := Prog.bind_eq_fertig h
  have r₁₂ := ((loeseAltbindung_nurAn (a := a) _).rel h₁).trans ((vergibPictureIdx_nurAn _).rel h₂)
  cases ok
  · cases h
    exact ⟨nofun, fun _ => .inr ⟨a, rfl, r₁₂⟩⟩
  obtain ⟨_, w₃, h₃, h⟩ := Prog.bind_eq_fertig h
  cases h
  rcases hc : getObjectPtr w.drv cid with _ | ca <;> rw [hc] at h₃
  · unfold markiereBeginn at h₃
    obtain ⟨_, _, _, h₃⟩ := Prog.bind_eq_fertig h₃
    obtain ⟨_, _, h₃, -⟩ := Prog.bind_eq_fertig h₃
    obtain ⟨_, _, he, -⟩ := aendereContext_fertig h₃
    cases he
  · exact ⟨fun _ => ⟨a, ca, rfl, rfl, (markiereBeginn_wirkung h₃).of_nurAn r₁₂⟩, fun e => absurd rfl e⟩

theorem markiereBeginn_ohneHalt (p : Option Nat) : OhneHalt (markiereBeginn p a) := by
  unfold markiereBeginn
  exact ohneHalt_bind (ohneHalt_aendereSurface _ _) fun _ =>
    ohneHalt_bind (ohneHalt_aendereContext _ _) fun _ =>
    ohneHalt_bind (ohneHalt_aendereSurface _ _) fun _ =>
    ohneHalt_bind (ruhig_lies _ _).ohneHalt fun _ => ohneHalt_aendereContext _ _

/-- `nvBeginPicture` never waits. -/
theorem nvBeginPicture_ohneHalt (cid sid : Nat) : OhneHalt (nvBeginPicture cid sid) := by
  unfold nvBeginPicture
  refine ohneHalt_bind ruhig_holeDrv.ohneHalt fun _ => ?_
  split
  · exact (ruhig_pure _).ohneHalt
  · exact ohneHalt_bind (loeseAltbindung_nurAn _).ohneHalt fun _ =>
      ohneHalt_bind (vergibPictureIdx_nurAn _).ohneHalt fun _ =>
        bleibt_ite (ohneHalt_bind (markiereBeginn_ohneHalt _) fun _ => (ruhig_pure _).ohneHalt)
          (ruhig_pure _).ohneHalt

end Beginn

/-! ## 4. `nvEndPicture` -/

/-- A `cuCtxPushCurrent` or `cuCtxPopCurrent` that failed between `w` and `w'`. -/
def StapelFehler (w w' : Welt) : Prop :=
  ∃ r, (r = .cuCtxPushCurrent ∨ r = .cuCtxPopCurrent) ∧ (r, false) ∈ w'.spur.drop w.spur.length

theorem ruf_fertig {r : Ruf} {w w' : Welt} {b : Bool} (h : ruf r w = .fertig b w') :
    b = w.orakel w.spur.length ∧ w' = { w with spur := w.spur ++ [(r, b)] } := by
  rw [ruf_apply] at h
  cases h
  exact ⟨rfl, rfl⟩

theorem Bleibt.bind_halt {R : Welt → Welt → Prop} {x : Prog α} {f : α → Prog β} (hx : Bleibt R x)
    {w w' : Welt} {h : Halt} {k : Welt → Ausgang β} (e : (x >>= f) w = .halt h w' k) :
    ∃ a w₁, x w = .fertig a w₁ ∧ R w w₁ ∧ f a w₁ = .halt h w' k := by
  rcases Prog.bind_eq_halt e with ⟨k₀, h₀, -⟩ | ⟨a, w₁, h₁, h₂⟩
  · exact absurd h₀ hx.kein_halt
  · exact ⟨a, w₁, h₁, hx.rel h₁, h₂⟩

theorem bleibt_gleich_ruf (r : Ruf) : Bleibt Gleich (ruf r) :=
  bleibt_ruf (fun _ _ => gleich_of_drv) r

theorem bleibt_gleich_lies (p : Option Nat) (f : Payload → Option α) : Bleibt Gleich (lies p f) :=
  bleibt_lies Gleich.refl p f

theorem stapelFehler_ruf {w : Welt} {r : Ruf} (hr : r = .cuCtxPushCurrent ∨ r = .cuCtxPopCurrent)
    {w₀ : Welt} (hs : w₀.spur.length ≤ w.spur.length) :
    StapelFehler w₀ { w with spur := w.spur ++ [(r, false)] } :=
  ⟨r, hr, by
    rw [List.drop_append_of_le_length hs]
    exact List.mem_append_right _ (List.mem_singleton_self _)⟩

variable (B : Bau)

/-- The half of `nvEndPicture` before `resolveMutex` never returns. -/
theorem reiheEin_nicht_fertig {p : Option Nat} {st v : VAStatus} {w w' : Welt} :
    reiheEin B p st w ≠ .fertig v w' := by
  intro h
  obtain ⟨_, _, -, h⟩ := Prog.bind_eq_fertig h
  obtain ⟨_, _, -, h⟩ := Prog.bind_eq_fertig h
  obtain ⟨_, _, h, -⟩ := Prog.bind_eq_fertig h
  cases h

/-- **`nvEndPicture` returns only after a failed push or pop**, and then the pipeline cannot tell
    the world from the one it started in. -/
theorem nvEndPicture_fertig {cid : Nat} {w w' : Welt} {st : VAStatus}
    (h : nvEndPicture B cid w = .fertig st w') : Gleich w w' ∧ StapelFehler w w' := by
  unfold nvEndPicture at h
  rw [holeDrv_bind] at h
  rcases ho : getObject w.drv cid with _ | o <;> rw [ho] at h <;> dsimp only at h
  · cases h
  obtain ⟨_, w₁, h₁, h⟩ := Prog.bind_eq_fertig h
  have g₁ : Gleich w w₁ := (bleibt_gleich_aendereContext (by intro; rfl)).rel h₁
  obtain ⟨_, _, -, -, rfl⟩ := aendereContext_fertig h₁
  obtain ⟨b, w₂, h₂, h⟩ := Prog.bind_eq_fertig h
  obtain ⟨-, rfl⟩ := ruf_fertig h₂
  have hs₁ := le_refl w.spur.length
  cases b
  · cases h
    exact ⟨g₁.trans (gleich_of_drv rfl rfl), stapelFehler_ruf (.inl rfl) hs₁⟩
  obtain ⟨_, w₃, h₃, h⟩ := Prog.bind_eq_fertig h
  obtain ⟨-, rfl⟩ := ruf_fertig h₃
  obtain ⟨b, w₄, h₄, h⟩ := Prog.bind_eq_fertig h
  obtain ⟨-, rfl⟩ := ruf_fertig h₄
  cases b
  · cases h
    refine ⟨g₁.trans (gleich_of_drv rfl rfl), stapelFehler_ruf (.inr rfl) ?_⟩
    simp only [List.length_append]
    omega
  · exact absurd h (reiheEin_nicht_fertig B)

/-- **The decode half of `nvEndPicture` stops at `resolveMutex`**: the Context it names is live
    with a render target, whose surface alone has changed (not its `resolving`), and the rest of
    the call is `reiheEinUnterMutex`. -/
theorem nvEndPicture_halt {cid : Nat} {w w' : Welt} {hh : Halt} {r : Prog VAStatus}
    (h : nvEndPicture B cid w = .halt hh w' r) :
    ∃ o kc a st, getObject w.drv cid = some o ∧ hh = .mutex o.obj ∧
      sicht w o.obj = .context kc ∧ kc.renderTarget = some a ∧ NurAn a w w' ∧
      ∀ w'', r w'' = reiheEinUnterMutex B (some o.obj) st w'' := by
  unfold nvEndPicture at h
  rw [holeDrv_bind] at h
  rcases ho : getObject w.drv cid with _ | o <;> rw [ho] at h <;> dsimp only at h
  · cases h
  obtain ⟨_, w₁, h₁, g₁, h⟩ := (bleibt_gleich_aendereContext (by intro; rfl)).bind_halt h
  obtain ⟨b, w₂, -, g₂, h⟩ := (bleibt_gleich_ruf _).bind_halt h
  cases b
  · cases h
  obtain ⟨_, w₃, -, g₃, h⟩ := (bleibt_gleich_ruf _).bind_halt h
  obtain ⟨b, w₄, -, g₄, h⟩ := (bleibt_gleich_ruf _).bind_halt h
  cases b
  · cases h
  unfold reiheEin at h
  obtain ⟨c, w₅, h₅, -, hr⟩ := (bleibt_gleich_lies _ _).bind_halt h
  obtain ⟨rfl, ca, x, he, hx, hc⟩ := lies_fertig h₅
  cases he
  rcases Prog.bind_eq_halt hr with ⟨k₀, h₀, -⟩ | ⟨_, w₆, h₆, hr⟩
  · exact absurd h₀ aendereSurface_kein_halt
  obtain ⟨a, -, ht, -, -⟩ := aendereSurface_fertig h₆
  rw [ht] at h₆
  have n₆ := (nurAn_aendereSurface (a := a) (by intro; rfl)).rel h₆
  cases hr
  have g : Gleich w w₄ := g₁.trans (g₂.trans (g₃.trans g₄))
  cases x <;> cases hc
  refine ⟨o, c.kblick, a, _, rfl, rfl, ?_, ht, (NurAn.of_gleich g).trans n₆, fun _ => rfl⟩
  rw [← g.1, sicht, hx]
  rfl

/-- **The half of `nvEndPicture` under `resolveMutex`** enqueues the render target and signals
    the resolve thread. -/
theorem reiheEinUnterMutex_fertig {ca : Nat} {st st' : VAStatus} {w w' : Welt}
    (h : reiheEinUnterMutex B (some ca) st w = .fertig st' w') :
    ∃ kc, sicht w ca = .context kc ∧
      sicht w' ca = .context (einreihen B.SURFACE_QUEUE_SIZE kc.ctx kc.renderTarget).kblick ∧
      (∀ b, b ≠ ca → sicht w' b = sicht w b) ∧ w'.faeden = weckeErsten ca w.faeden ∧
      w'.drv.objects = w.drv.objects := by
  unfold reiheEinUnterMutex at h
  obtain ⟨_, w₁, h₁, h⟩ := Prog.bind_eq_fertig h
  obtain ⟨_, c, he, hc, rfl⟩ := aendereContext_fertig h₁
  cases he
  obtain ⟨_, w₂, h₂, h⟩ := Prog.bind_eq_fertig h
  cases h₂
  cases h
  exact ⟨c.kblick, by simp [sicht, hc, blick], by simp [sicht, setMem, blick]; rfl,
    fun b hb => by simp [sicht, setMem, hb], rfl, rfl⟩

theorem reiheEinUnterMutex_kein_halt {ca : Nat} {st : VAStatus} {w w' : Welt} {h : Halt}
    {k : Welt → Ausgang VAStatus} : reiheEinUnterMutex B (some ca) st w ≠ .halt h w' k :=
  Bleibt.kein_halt (R := fun _ _ => True)
    (bleibt_bind (fun _ _ _ _ _ => trivial)
      (bleibt_bind (fun _ _ _ _ _ => trivial) (bleibt_lies (fun _ => trivial) _ _)
        fun _ _ => .inr ⟨(), _, rfl, trivial⟩)
      fun _ => bleibt_bind (fun _ _ _ _ _ => trivial) (fun _ => .inr ⟨(), _, rfl, trivial⟩)
        fun _ => bleibt_pure (fun _ => trivial) st)

/-! ## 5. `nvDestroyContext` -/

theorem loescheContext_fertig {cid : Nat} {ok : Bool} {w w' : Welt} {st : VAStatus}
    (h : loescheContext cid ok w = .fertig st w') : w' = { w with drv := deleteObject w.drv cid } := by
  cases h
  rfl

/-- **`nvDestroyContext` returns at once** for an id that names nothing, or after a failed push,
    when it deletes the object all the same. -/
theorem nvDestroyContext_fertig {cid : Nat} {w w' : Welt} {st : VAStatus}
    (h : nvDestroyContext cid w = .fertig st w') :
    getObjectPtr w.drv cid = none ∧ w' = w ∨
      ∃ w₁, Gleich w w₁ ∧ StapelFehler w w₁ ∧ w' = { w₁ with drv := deleteObject w₁.drv cid } := by
  unfold nvDestroyContext at h
  rw [holeDrv_bind] at h
  rcases ha : getObjectPtr w.drv cid with _ | ca <;> rw [ha] at h <;> dsimp only at h
  · cases h
    exact .inl ⟨rfl, rfl⟩
  obtain ⟨ok, w₁, h₁, h⟩ := Prog.bind_eq_fertig h
  obtain ⟨b, w₂, h₂, h₁⟩ := Prog.bind_eq_fertig h₁
  obtain ⟨-, rfl⟩ := ruf_fertig h₂
  cases b
  · cases h₁
    refine .inr ⟨_, ?_, ?_, loescheContext_fertig h⟩
    · exact gleich_of_drv rfl rfl
    · exact stapelFehler_ruf (.inl rfl) le_rfl
  · obtain ⟨_, w₃, -, h₁⟩ := Prog.bind_eq_fertig h₁
    obtain ⟨_, w₄, h₄, -⟩ := Prog.bind_eq_fertig h₁
    cases h₄

/-- **The first phase of `nvDestroyContext`**: after a successful push it sets `exiting` of the
    Context and may be descheduled before its signal; the rest of the call is
    `destroyContextNachExiting` and the deletion. -/
theorem nvDestroyContext_halt {cid : Nat} {w w' : Welt} {hh : Halt} {r : Welt → Ausgang VAStatus}
    (h : nvDestroyContext cid w = .halt hh w' r) :
    ∃ ca kc, getObjectPtr w.drv cid = some ca ∧ hh = .frei ∧ sicht w ca = .context kc ∧
      sicht w' ca = .context { kc with exiting := true } ∧ (∀ b, b ≠ ca → sicht w' b = sicht w b) ∧
      w'.faeden = w.faeden ∧ w'.drv.objects = w.drv.objects ∧
      ∀ w'', r w'' = (destroyContextNachExiting (some ca) >>= loescheContext cid) w'' := by
  unfold nvDestroyContext at h
  rw [holeDrv_bind] at h
  rcases ha : getObjectPtr w.drv cid with _ | ca <;> rw [ha] at h <;> dsimp only at h
  · cases h
  rcases Prog.bind_eq_halt h with ⟨k₀, h₀, rfl⟩ | ⟨_, _, -, h₁⟩
  · obtain ⟨b, w₁, -, g₁, h₀⟩ := (bleibt_gleich_ruf _).bind_halt h₀
    cases b
    · cases h₀
    rcases Prog.bind_eq_halt h₀ with ⟨k₁, h₁, -⟩ | ⟨_, w₂, h₂, h₀⟩
    · exact absurd h₁ aendereContext_kein_halt
    obtain ⟨_, c, he, hc, rfl⟩ := aendereContext_fertig h₂
    cases he
    cases h₀
    refine ⟨ca, c.kblick, rfl, rfl, by rw [← g₁.1, sicht, hc]; rfl, by simp [sicht, setMem, blick]; rfl,
      fun b hb => ?_, g₁.2.1, g₁.2.2, fun _ => rfl⟩
    rw [← g₁.1]
    simp [sicht, setMem, hb]
  · cases h₁

/-- The second phase: the signal, then the timed join. -/
theorem destroyContextNachExiting_apply (ca cid : Nat) (w : Welt) :
    (destroyContextNachExiting (some ca) >>= loescheContext cid) w =
      .halt (.join ca) { w with faeden := weckeErsten ca w.faeden }
        (destroyContextNachJoin (some ca) >>= loescheContext cid) := rfl

theorem gleich_bind {x : Prog α} {f : α → Prog β} (hx : Bleibt Gleich x)
    (hf : ∀ a, Bleibt Gleich (f a)) : Bleibt Gleich (x >>= f) :=
  bleibt_bind (R := Gleich) (fun _ _ _ => Gleich.trans) hx hf

theorem destroyContextNachJoin_gleich (p : Option Nat) : Bleibt Gleich (destroyContextNachJoin p) := by
  unfold destroyContextNachJoin pruefeRuf
  refine gleich_bind (bleibt_gleich_ruf _) fun _ =>
    gleich_bind (bleibt_gleich_aendereContext fun _ => rfl) fun _ =>
    gleich_bind (bleibt_gleich_lies _ _) fun _ =>
    gleich_bind (bleibt_ite (bleibt_gleich_ruf _) (bleibt_pure Gleich.refl _)) fun _ =>
    gleich_bind (bleibt_gleich_aendereContext fun _ => rfl) fun _ =>
    gleich_bind (bleibt_gleich_ruf _) fun _ => bleibt_ite (bleibt_pure Gleich.refl _) (bleibt_pure Gleich.refl _)

/-- **The last phase**: once the join returns, the pipeline sees only the deletion. -/
theorem destroyContextNachJoin_fertig {ca cid : Nat} {w w' : Welt} {st : VAStatus}
    (h : (destroyContextNachJoin (some ca) >>= loescheContext cid) w = .fertig st w') :
    ∃ w₁, Gleich w w₁ ∧ w' = { w₁ with drv := deleteObject w₁.drv cid } := by
  obtain ⟨_, w₁, h₁, h₂⟩ := Prog.bind_eq_fertig h
  exact ⟨w₁, (destroyContextNachJoin_gleich _).rel h₁, loescheContext_fertig h₂⟩

theorem destroyContextNachJoin_kein_halt {ca cid : Nat} {w w' : Welt} {hh : Halt}
    {k : Welt → Ausgang VAStatus} :
    (destroyContextNachJoin (some ca) >>= loescheContext cid) w ≠ .halt hh w' k := by
  intro h
  rcases Prog.bind_eq_halt h with ⟨k₀, h₀, -⟩ | ⟨_, _, -, h₂⟩
  · exact (destroyContextNachJoin_gleich _).kein_halt h₀
  · cases h₂

/-- `deleteObject` of an id that finds the object at `o.obj` frees that address alone. -/
theorem sicht_deleteObject {w : Welt} {cid : Nat} {o : Object} (ho : getObject w.drv cid = some o)
    (b : Nat) :
    sicht { w with drv := deleteObject w.drv cid } b = if b = o.obj then .leer else sicht w b := by
  unfold getObject at ho
  split_ifs at ho with hv
  by_cases hb : b = o.obj <;> simp [sicht, deleteObject, hv, ho, setMem, hb, blick]

theorem find?_eraseP_ne {cid id : Nat} (hne : id ≠ cid) (l : List Object) :
    (l.eraseP fun o => o.id = cid).find? (fun o => o.id = id) = l.find? fun o => o.id = id := by
  induction l with
  | nil => rfl
  | cons x l ih =>
    by_cases hx : x.id = cid
    · rw [List.eraseP_cons_of_pos (by simpa using hx)]
      simp [hx, Ne.symm hne]
    · rw [List.eraseP_cons_of_neg (by simpa using hx)]
      simp only [List.find?_cons, ih]

/-- Deleting one id leaves what every other id finds. -/
theorem getObject_deleteObject_ne {drv : NVDriver} {cid id : Nat} (hne : id ≠ cid) :
    getObject (deleteObject drv cid) id = getObject drv id := by
  unfold deleteObject
  split
  · rfl
  · split
    · rfl
    · unfold getObject
      split
      · rfl
      · exact find?_eraseP_ne hne drv.objects

/-! ## 6. `nvCreateContext` -/

/-- The view of the Context `nvCreateContext` allocates: no render target, an empty ring, not
    exiting. -/
def KBlick.neu : KBlick :=
  { renderTarget := none, surfaceQueue := fun _ => none, readIdx := 0, writeIdx := 0, exiting := false }

/-- `w'` is `w` with a new Context at the free address `b` and its resolve thread at its start. -/
def MitContext (b : Nat) (w w' : Welt) : Prop :=
  sicht w b = .leer ∧ sicht w' b = .context KBlick.neu ∧ (∀ b', b' ≠ b → sicht w' b' = sicht w b') ∧
    w'.faeden = w.faeden ++ [⟨b, .start⟩] ∧
    ∀ id o, getObject w.drv id = some o → getObject w'.drv id = some o

theorem MitContext.of_gleich {b : Nat} {w w₁ w' : Welt} (g : Gleich w w₁) (h : MitContext b w₁ w')
    (ho : w₁.drv.objects = w.drv.objects) : MitContext b w w' := by
  obtain ⟨h₁, h₂, h₃, h₄, h₅⟩ := h
  refine ⟨g.1 b ▸ h₁, h₂, fun b' hb => (h₃ b' hb).trans (g.1 b'), g.2.1 ▸ h₄, fun id o hi => h₅ id o ?_⟩
  unfold getObject at hi ⊢
  rwa [ho]

theorem gleich_of_mem {w w' : Welt} (hm : w'.drv.mem = w.drv.mem) (ho : w'.drv.objects = w.drv.objects)
    (hf : w'.faeden = w.faeden) : Gleich w w' :=
  ⟨fun b => by simp only [sicht, hm], hf, ho⟩

theorem neuesObjekt_fertig {t : ObjectType} {p : Payload} {w w' : Welt} {o : Object}
    (h : neuesObjekt t p w = .fertig o w') :
    w.drv.mem o.obj = none ∧ o = (allocateObject w.drv t p o.obj).1 ∧
      w' = { w with drv := (allocateObject w.drv t p o.obj).2, spur := w.spur ++ [(.calloc, true)] } := by
  unfold neuesObjekt calloc at h
  simp only [Prog.bind_apply] at h
  split at h
  · cases h
    exact ⟨Option.isNone_iff_eq_none.mp ‹_›, rfl, rfl⟩
  · cases h

/-- When the id the counter hands out is free, deleting it undoes the allocation in the
    registry. -/
theorem deleteObject_allocate {drv : NVDriver} {t : ObjectType} {p : Payload} {b : Nat}
    (hv : (drv.nextObjId + 1) % idRaum ≠ VA_INVALID_ID)
    (hf : getObject drv ((drv.nextObjId + 1) % idRaum) = none) :
    deleteObject (allocateObject drv t p b).2 ((drv.nextObjId + 1) % idRaum) =
      { drv with nextObjId := (drv.nextObjId + 1) % idRaum,
                 mem := setMem (setMem drv.mem b (some p)) b none } := by
  rw [getObject, if_neg hv] at hf
  have hn := List.find?_eq_none.mp hf
  simp only [deleteObject, allocateObject, if_neg hv, List.find?_append, hf, Option.none_or,
    List.find?_singleton, decide_True, cond_true]
  rw [List.eraseP_append_right _ hn]
  simp

/-- `legeContextAn` adds a Context and its thread, or leaves the pipeline's view alone. -/
theorem legeContextAn_wirkung {cfgP : Option Nat} {codec : Nat} {pw ph n : Int} {w w' : Welt}
    {st : VAStatus} (hv : (w.drv.nextObjId + 1) % idRaum ≠ VA_INVALID_ID)
    (hf : getObject w.drv ((w.drv.nextObjId + 1) % idRaum) = none)
    (h : legeContextAn cfgP codec pw ph n w = .fertig st w') :
    Gleich w w' ∨ ∃ b, MitContext b w w' := by
  unfold legeContextAn pruefeRuf at h
  obtain ⟨_, w₁, h₁, h⟩ := Prog.bind_eq_fertig h
  obtain ⟨rfl, -⟩ := lies_fertig h₁
  obtain ⟨_, w₂, h₂, h⟩ := Prog.bind_eq_fertig h
  have e₂ : w₂ = { w with drv := { w.drv with surfaceCount := 0 } } := by cases h₂; rfl
  have g₂ : Gleich w w₂ := by rw [e₂]; exact gleich_of_mem rfl rfl rfl
  replace hv : (w₂.drv.nextObjId + 1) % idRaum ≠ VA_INVALID_ID := by rw [e₂]; exact hv
  replace hf : getObject w₂.drv ((w₂.drv.nextObjId + 1) % idRaum) = none := by rw [e₂]; exact hf
  clear h₂ e₂
  refine (?_ : Gleich w₂ w' ∨ ∃ b, MitContext b w₂ w').imp g₂.trans
    fun ⟨b, hb⟩ => ⟨b, hb.of_gleich g₂ g₂.2.2⟩
  obtain ⟨b₁, w₃, h₃, h⟩ := Prog.bind_eq_fertig h
  obtain ⟨-, rfl⟩ := ruf_fertig h₃
  cases b₁
  · cases h
    exact .inl (gleich_of_drv rfl rfl)
  obtain ⟨b₂, w₄, h₄, h⟩ := Prog.bind_eq_fertig h
  obtain ⟨-, rfl⟩ := ruf_fertig h₄
  cases b₂
  · cases h
    exact .inl (gleich_of_drv rfl rfl)
  obtain ⟨_, w₅, h₅, h⟩ := Prog.bind_eq_fertig h
  cases h₅
  obtain ⟨o, w₆, h₆, h⟩ := Prog.bind_eq_fertig h
  obtain ⟨hl, ho, rfl⟩ := neuesObjekt_fertig h₆
  replace hl : w₂.drv.mem o.obj = none := hl
  obtain ⟨b₃, w₇, h₇, h⟩ := Prog.bind_eq_fertig h
  obtain ⟨-, rfl⟩ := ruf_fertig h₇
  rw [ho] at h
  cases b₃
  · obtain ⟨_, w₈, h₈, h⟩ := Prog.bind_eq_fertig h
    cases h₈
    cases h
    refine .inl ⟨fun b => ?_, rfl, ?_⟩
    · by_cases hb : b = o.obj <;> simp [sicht, deleteObject_allocate hv hf, setMem, hb, hl, blick]
    · simp [deleteObject_allocate hv hf]
  · obtain ⟨_, w₈, h₈, h⟩ := Prog.bind_eq_fertig h
    cases h₈
    obtain ⟨_, w₉, h₉, h⟩ := Prog.bind_eq_fertig h
    cases h₉
    cases h
    refine .inr ⟨o.obj, by simp [sicht, hl, blick], by simp [sicht, allocateObject, setMem, blick]; rfl,
      fun b hb => by simp [sicht, allocateObject, setMem, hb], rfl, fun id o' h => getObject_allocate _ _ _ h⟩

/-- **`nvCreateContext`**, when the id its counter hands out is free, keeps the frame or adds a
    Context with an empty ring and its resolve thread. -/
theorem nvCreateContext_wirkung {cfg : Nat} {pw ph n : Int} {rts : List Nat} {w w' : Welt}
    {st : VAStatus} (hv : (w.drv.nextObjId + 1) % idRaum ≠ VA_INVALID_ID)
    (hf : getObject w.drv ((w.drv.nextObjId + 1) % idRaum) = none)
    (h : nvCreateContext B cfg pw ph rts n w = .fertig st w') :
    Rahmen w w' ∨ ∃ b, MitContext b w w' := by
  unfold nvCreateContext at h
  rw [holeDrv_bind] at h
  rcases ha : getObjectPtr w.drv cfg with _ | a <;> rw [ha] at h <;> dsimp only at h
  · cases h
    exact .inl (.refl w)
  obtain ⟨cf, w₁, h₁, h⟩ := Prog.bind_eq_fertig h
  obtain ⟨rfl, -⟩ := lies_fertig h₁
  rcases hc : waehleCodec cf.profile B.codecs 0 none with _ | codec <;> rw [hc] at h <;>
    dsimp only at h
  · cases h
    exact .inl (.refl w)
  split at h
  · rcases hr : rts.head? with _ | rt <;> rw [hr] at h <;> dsimp only at h
    · cases h
    rcases hs : getObjectPtr w.drv rt with _ | sa <;> rw [hs] at h <;> dsimp only at h
    · cases h
      exact .inl (.refl w)
    obtain ⟨_, w₂, h₂, h⟩ := Prog.bind_eq_fertig h
    obtain ⟨rfl, -⟩ := lies_fertig h₂
    obtain ⟨_, w₃, h₃, h⟩ := Prog.bind_eq_fertig h
    obtain ⟨_, w₄, h₄, h₃⟩ := Prog.bind_eq_fertig h₃
    obtain ⟨rfl, a', x, he, hx, hc⟩ := lies_fertig h₄
    cases he
    cases x <;> cases hc
    cases h₃
    rcases legeContextAn_wirkung (by exact hv) (by exact hf) h with g' | ⟨b, hb⟩
    · exact .inl ((gleich_speichere (a := a) (by simp [sicht, hx, blick])).trans g').rahmen
    · exact .inr ⟨b, hb.of_gleich (gleich_speichere (a := a) (by simp [sicht, hx, blick])) rfl⟩
  · exact (legeContextAn_wirkung hv hf h).imp Gleich.rahmen id

theorem neuesObjekt_ohneHalt (t : ObjectType) (p : Payload) : OhneHalt (neuesObjekt t p) := by
  refine ohneHalt_bind (fun w => ?_) fun _ => ohneHalt_bind ruhig_holeDrv.ohneHalt fun _ =>
    ohneHalt_bind (ohneHalt_fertig fun _ => ⟨_, _, rfl⟩) fun _ => (ruhig_pure _).ohneHalt
  unfold calloc
  split
  · exact .inr ⟨_, _, rfl, trivial⟩
  · exact .inl ⟨_, rfl⟩

theorem legeContextAn_ohneHalt (cfgP : Option Nat) (codec : Nat) (pw ph n : Int) :
    OhneHalt (legeContextAn cfgP codec pw ph n) := by
  unfold legeContextAn pruefeRuf
  refine ohneHalt_bind (ruhig_lies _ _).ohneHalt fun _ =>
    ohneHalt_bind (ohneHalt_fertig fun _ => ⟨_, _, rfl⟩) fun _ =>
    ohneHalt_bind (ruhig_ruf _).ohneHalt fun _ => bleibt_ite ?_ (ruhig_pure _).ohneHalt
  refine ohneHalt_bind (ruhig_ruf _).ohneHalt fun _ => bleibt_ite ?_ (ruhig_pure _).ohneHalt
  refine ohneHalt_bind (ohneHalt_fertig fun _ => ⟨_, _, rfl⟩) fun _ =>
    ohneHalt_bind (neuesObjekt_ohneHalt _ _) fun _ =>
    ohneHalt_bind (ruhig_ruf _).ohneHalt fun _ => bleibt_ite ?_ ?_
  · exact ohneHalt_bind (ohneHalt_fertig fun _ => ⟨_, _, rfl⟩) fun _ =>
      ohneHalt_bind (ruhig_gibAus _).ohneHalt fun _ => (ruhig_pure _).ohneHalt
  · exact ohneHalt_bind (ohneHalt_fertig fun _ => ⟨_, _, rfl⟩) fun _ => (ruhig_pure _).ohneHalt

/-- `nvCreateContext` never waits. -/
theorem nvCreateContext_ohneHalt (cfg : Nat) (pw ph : Int) (rts : List Nat) (n : Int) :
    OhneHalt (nvCreateContext B cfg pw ph rts n) := by
  unfold nvCreateContext
  refine ohneHalt_bind ruhig_holeDrv.ohneHalt fun _ => ?_
  split
  · exact (ruhig_pure _).ohneHalt
  refine ohneHalt_bind (ruhig_lies _ _).ohneHalt fun _ => ?_
  split
  · exact (ruhig_pure _).ohneHalt
  refine bleibt_ite ?_ (legeContextAn_ohneHalt _ _ _ _ _)
  split
  · exact bleibt_abbrechen _
  split
  · exact (ruhig_pure _).ohneHalt
  · exact ohneHalt_bind (ruhig_lies _ _).ohneHalt fun _ =>
      ohneHalt_bind (ruhig_aendereConfig _ _).ohneHalt fun _ => legeContextAn_ohneHalt _ _ _ _ _

/-! ## 7. The resolve thread -/

/-- `w'` is `w` with `resolving` of the surface at `a` cleared, and nothing else the pipeline
    reads changed. -/
def Geloest (a : Nat) (w w' : Welt) : Prop :=
  w'.faeden = w.faeden ∧ w'.drv.objects = w.drv.objects ∧
    ∃ s, sicht w a = .surface s ∧ sicht w' a = .surface { s with resolving := false } ∧
      ∀ b, b ≠ a → sicht w' b = sicht w b

theorem Geloest.gleich {a : Nat} {w w₁ w₂ w' : Welt} (g₁ : Gleich w w₁) (h : Geloest a w₁ w₂)
    (g₂ : Gleich w₂ w') : Geloest a w w' := by
  obtain ⟨hf, ho, s, e₁, e₂, e₃⟩ := h
  exact ⟨g₂.2.1.trans (hf.trans g₁.2.1), g₂.2.2.trans (ho.trans g₁.2.2), s, g₁.1 a ▸ e₁,
    (g₂.1 a).trans e₂, fun b hb => (g₂.1 b).trans ((e₃ b hb).trans (g₁.1 b))⟩

theorem geloest_aendereSurface {a : Nat} {f : NVSurface → NVSurface}
    (hf : ∀ x, (f x).sblick = { x.sblick with resolving := false }) {w w' : Welt} {u : Unit}
    (h : aendereSurface (some a) f w = .fertig u w') : Geloest a w w' := by
  obtain ⟨a', x, he, hx, rfl⟩ := aendereSurface_fertig h
  cases he
  exact ⟨rfl, rfl, x.sblick, by simp [sicht, hx, blick], by simp [sicht, setMem, blick, hf],
    fun b hb => by simp [sicht, setMem, hb]⟩

section Faden

variable {c : Nat} {p : Prog (RT × Option Nat)} {w w' : Welt} {pc : RT} {sig : Option Nat}

theorem resolveSchritt_start (hp : resolveSchritt B c .start = some p)
    (h : p w = .fertig (pc, sig) w') :
    sig = none ∧ Gleich w w' ∧ (pc = .kopf ∨ pc = .beendet ∧ StapelFehler w w') := by
  cases hp
  obtain ⟨b, w₁, h₁, h⟩ := Prog.bind_eq_fertig h
  obtain ⟨-, rfl⟩ := ruf_fertig h₁
  cases b <;> cases h
  · exact ⟨rfl, gleich_of_drv rfl rfl, .inr ⟨rfl, stapelFehler_ruf (.inl rfl) le_rfl⟩⟩
  · exact ⟨rfl, gleich_of_drv rfl rfl, .inl rfl⟩

/-- At `while (!ctx->exiting)` and after a wakeup the thread reads `exiting`. -/
theorem resolveSchritt_exiting {q : RT} (hq : q = .kopf ∨ q = .geweckt)
    (hp : resolveSchritt B c q = some p) (h : p w = .fertig (pc, sig) w') :
    w' = w ∧ sig = none ∧ ∃ k, sicht w c = .context k ∧ pc = if k.exiting then .beendet else .geprueft := by
  rcases hq with rfl | rfl <;> cases hp <;>
  · obtain ⟨ctx, w₁, h₁, h⟩ := Prog.bind_eq_fertig h
    obtain ⟨rfl, a, x, he, hx, hc⟩ := lies_fertig h₁
    cases he
    cases x <;> cases hc
    cases h
    exact ⟨rfl, rfl, ctx.kblick, by simp [sicht, hx, blick], rfl⟩

/-- Holding the mutex, the thread tests the ring. -/
theorem resolveSchritt_geprueft (hp : resolveSchritt B c .geprueft = some p)
    (h : p w = .fertig (pc, sig) w') :
    w' = w ∧ sig = none ∧
      ∃ k, sicht w c = .context k ∧ pc = if ringLeer k.ctx then .wartet else .frei := by
  cases hp
  obtain ⟨ctx, w₁, h₁, h⟩ := Prog.bind_eq_fertig h
  obtain ⟨rfl, a, x, he, hx, hc⟩ := lies_fertig h₁
  cases he
  cases x <;> cases hc
  cases h
  exact ⟨rfl, rfl, ctx.kblick, by simp [sicht, hx, blick], rfl⟩

/-- The mutex released, the thread takes the oldest entry of the ring. -/
theorem resolveSchritt_frei (hp : resolveSchritt B c .frei = some p)
    (h : p w = .fertig (pc, sig) w') :
    sig = none ∧ ∃ k, sicht w c = .context k ∧ pc = .loest (entnehmen B.SURFACE_QUEUE_SIZE k.ctx).1 ∧
      sicht w' c = .context (entnehmen B.SURFACE_QUEUE_SIZE k.ctx).2.kblick ∧
      (∀ b, b ≠ c → sicht w' b = sicht w b) ∧ w'.faeden = w.faeden ∧
      w'.drv.objects = w.drv.objects := by
  cases hp
  obtain ⟨ctx, w₁, h₁, h⟩ := Prog.bind_eq_fertig h
  obtain ⟨rfl, a, x, he, hx, hc⟩ := lies_fertig h₁
  cases he
  cases x <;> cases hc
  obtain ⟨_, w₂, h₂, h⟩ := Prog.bind_eq_fertig h
  cases h₂
  cases h
  exact ⟨rfl, ctx.kblick, by simp [sicht, hx, blick], rfl, by simp [sicht, setMem, blick]; rfl,
    fun b hb => by simp [sicht, setMem, hb], rfl, rfl⟩

theorem resolveSchritt_loest_none (hp : resolveSchritt B c (.loest none) = some p) :
    p w ≠ .fertig (pc, sig) w' := by
  cases hp
  exact fun h => by cases h

/-- **A resolve step on a surface** clears its `resolving`, whatever the decode and the map
    gave, and signals its condition. -/
theorem resolveSchritt_loest {a : Nat} (hp : resolveSchritt B c (.loest (some a)) = some p)
    (h : p w = .fertig (pc, sig) w') : pc = .kopf ∧ sig = some a ∧ Geloest a w w' := by
  cases hp
  obtain ⟨s, w₁, h₁, h⟩ := Prog.bind_eq_fertig h
  obtain ⟨rfl, -⟩ := lies_fertig h₁
  have frei : ∀ {w₂ w₃ : Welt} {u : Unit}, gibFrei a w₂ = .fertig u w₃ → Geloest a w₂ w₃ :=
    geloest_aendereSurface (f := fun x => { x with resolving := false }) fun _ => rfl
  split at h
  · obtain ⟨_, w₂, h₂, h⟩ := Prog.bind_eq_fertig h
    cases h
    exact ⟨rfl, rfl, frei h₂⟩
  obtain ⟨_, w₂, h₂, h⟩ := Prog.bind_eq_fertig h
  obtain ⟨rfl, -⟩ := lies_fertig h₂
  obtain ⟨b, w₃, h₃, h⟩ := Prog.bind_eq_fertig h
  obtain ⟨-, rfl⟩ := ruf_fertig h₃
  cases b
  · obtain ⟨_, w₄, h₄, h⟩ := Prog.bind_eq_fertig h
    cases h
    exact ⟨rfl, rfl, (frei h₄).gleich (gleich_of_drv rfl rfl) (.refl _)⟩
  obtain ⟨_, w₄, h₄, h⟩ := Prog.bind_eq_fertig h
  obtain ⟨_, w₅, h₅, h₄⟩ := Prog.bind_eq_fertig h₄
  obtain ⟨-, rfl⟩ := ruf_fertig h₅
  obtain ⟨_, w₆, h₆, h⟩ := Prog.bind_eq_fertig h
  obtain ⟨-, rfl⟩ := ruf_fertig h₆
  cases h
  exact ⟨rfl, rfl, (geloest_aendereSurface (f := fun x =>
    { x with backingImage := some (x.backingImage.getD a), resolving := false }) (fun _ => rfl) h₄).gleich
    (gleich_of_drv rfl rfl) (gleich_of_drv rfl rfl)⟩

end Faden

end NvdecVaapi
