/-
  File:      NvdecVaapi/Pipeline/Faeden.lean
  Subject:   The steps of the resolve threads keep the pipeline's invariant.

  * `Geweckt`, `FInv.geweckt` -- wakeups (`weckeErsten`, a spurious wakeup) move blocked threads
    on and keep the invariant;
  * `FInv.wecke` -- so does the signal on a surface's condition;
  * `FInv.faden_pc` -- a step that moves one thread on and leaves the rings alone;
  * `FInv.faden_frei` -- the dequeue: the oldest pending surface passes from the ring to the
    thread;
  * `FInv.nach_faden` -- every step of a resolve thread whose push does not fail.
-/
import NvdecVaapi.Pipeline

namespace NvdecVaapi

variable {B : Bau} {g : GSys}

/-! ## 1. Wakeups -/

/-- The resolve threads after wakeups: the same threads, some blocked ones woken. -/
def Geweckt (fs fs' : List ResolveFaden) : Prop :=
  fs'.length = fs.length ∧ ∀ i f', fs'.get? i = some f' →
    ∃ f, fs.get? i = some f ∧ f'.ctx = f.ctx ∧ (f'.pc = f.pc ∨ f.pc = .wartet ∧ f'.pc = .geweckt)

theorem geweckt_weckeErsten (a : Nat) (fs : List ResolveFaden) : Geweckt fs (weckeErsten a fs) := by
  induction fs with
  | nil => exact ⟨rfl, fun _ _ h => by simp [weckeErsten] at h⟩
  | cons f fs ih =>
    unfold weckeErsten
    split
    · rename_i h
      refine ⟨rfl, fun i f' hi => ?_⟩
      cases i with
      | zero => cases hi; exact ⟨f, rfl, h.1.symm, .inr ⟨h.2, rfl⟩⟩
      | succ i => exact ⟨f', hi, rfl, .inl rfl⟩
    · refine ⟨by simp [ih.1], fun i f' hi => ?_⟩
      cases i with
      | zero => cases hi; exact ⟨f, rfl, rfl, .inl rfl⟩
      | succ i => exact ih.2 i f' hi

theorem geweckt_set {fs : List ResolveFaden} {i c : Nat} (hf : fs.get? i = some ⟨c, .wartet⟩) :
    Geweckt fs (fs.set i ⟨c, .geweckt⟩) := by
  refine ⟨List.length_set .., fun j f' hj => ?_⟩
  by_cases e : i = j
  · subst e
    rw [get?_set_self hf] at hj
    cases hj
    exact ⟨_, hf, rfl, .inr ⟨rfl, rfl⟩⟩
  · rw [get?_set_anders _ e] at hj
    exact ⟨f', hj, rfl, .inl rfl⟩

theorem Geweckt.rueck {fs fs' : List ResolveFaden} (h : Geweckt fs fs') {i : Nat}
    {f : ResolveFaden} (hf : fs.get? i = some f) :
    ∃ f', fs'.get? i = some f' ∧ f'.ctx = f.ctx ∧ (f'.pc = f.pc ∨ f.pc = .wartet ∧ f'.pc = .geweckt) := by
  obtain ⟨f', hf', hc, hp⟩ := h.2 i _ (List.get?_eq_get (h.1 ▸ (List.get?_eq_some.mp hf).1))
  rw [hf] at hf'
  cases hf'
  exact ⟨_, List.get?_eq_get _, hc, hp⟩

theorem Geweckt.laeuft {w : Welt} {fs' : List ResolveFaden} (h : Geweckt w.faeden fs') {i c : Nat} :
    Laeuft { w with faeden := fs' } i c ↔ Laeuft w i c := by
  constructor
  · rintro ⟨f', hf', rfl, hb⟩
    obtain ⟨f, hf, hc, hp⟩ := h.2 i f' hf'
    refine ⟨f, hf, hc.symm, fun e => ?_⟩
    rcases hp with hp | ⟨hp, -⟩ <;> rw [e] at hp
    · exact hb hp
    · cases hp
  · rintro ⟨f, hf, rfl, hb⟩
    obtain ⟨f', hf', hc, hp⟩ := h.rueck hf
    refine ⟨f', hf', hc, fun e => ?_⟩
    rcases hp with hp | ⟨-, hp⟩ <;> rw [e] at hp
    · exact hb hp.symm
    · cases hp

/-- **Wakeups of blocked resolve threads keep the invariant.** -/
theorem FInv.geweckt (hi : FInv B g) {fs' : List ResolveFaden} (hg : Geweckt g.sys.welt.faeden fs') :
    FInv B ⟨⟨{ g.sys.welt with faeden := fs' }, g.sys.klienten⟩, g.offen, g.rollen⟩ where
  form := hi.form
  rollen_da := hi.rollen_da
  ende_lebt := hi.ende_lebt
  abbau := hi.abbau
  abbau_eindeutig := hi.abbau_eindeutig
  offen_lebt := hi.offen_lebt
  passt := hi.passt
  exiting_leer := hi.exiting_leer
  faden_ctx i f' h hb := by
    obtain ⟨f, hf, hc, hp⟩ := hg.2 i f' h
    rw [hc]
    refine hi.faden_ctx i f hf fun e => ?_
    rcases hp with hp | ⟨hp, -⟩ <;> rw [e] at hp
    · exact hb hp
    · cases hp
  faden_eindeutig i j c h₁ h₂ := hi.faden_eindeutig i j c (hg.laeuft.mp h₁) (hg.laeuft.mp h₂)
  faden_da c h := let ⟨i, hl⟩ := hi.faden_da c h; ⟨i, hg.laeuft.mpr hl⟩
  frei_voll i f' h hp := by
    obtain ⟨f, hf, hc, hp'⟩ := hg.2 i f' h
    rw [hc]
    refine hi.frei_voll i f hf ?_
    rcases hp' with hp' | ⟨-, hp'⟩ <;> rw [hp] at hp'
    · exact hp'.symm
    · cases hp'
  gedeckt a s hs hr := by
    rcases hi.gedeckt a s hs hr with h | h | ⟨i, f, hf, hp⟩ | ⟨i, c, k, hl, hk, hq⟩
    · exact .inl h
    · exact .inr (.inl h)
    · obtain ⟨f', hf', -, hp'⟩ := hg.rueck hf
      refine .inr (.inr (.inl ⟨i, f', hf', ?_⟩))
      rcases hp' with hp' | ⟨hw, -⟩
      · rw [hp', hp]
      · rw [hp] at hw; cases hw
    · exact .inr (.inr (.inr ⟨i, c, k, hg.laeuft.mpr hl, hk, hq⟩))

/-- What the signal on the condition of the surface at `a` does to one client. -/
theorem weckeKlient_get? (a : Nat) {ks : List Klient} {j : Nat} {kl : Klient}
    (h : ks.get? j = some kl) :
    ∃ kl', (weckeKlient a ks).get? j = some kl' ∧
      (kl' = kl ∨ ∃ r, kl = .haelt (.bedingung a) r ∧ kl' = .haelt .frei r) := by
  induction ks generalizing j with
  | nil => cases h
  | cons k ks ih =>
    rcases k with _ | ⟨_ | b | _ | _, r⟩
    rotate_left
    · unfold weckeKlient
      split
      · cases j with
        | zero => cases h; exact ⟨_, rfl, .inr ⟨r, by subst_vars; rfl, rfl⟩⟩
        | succ j => exact ⟨kl, h, .inl rfl⟩
      · cases j with
        | zero => exact ⟨kl, h, .inl rfl⟩
        | succ j => exact ih h
    all_goals
      cases j with
      | zero => exact ⟨kl, h, .inl rfl⟩
      | succ j => exact ih h

theorem weckeKlient_get?_rueck (a : Nat) {ks : List Klient} {j : Nat} {kl' : Klient}
    (h : (weckeKlient a ks).get? j = some kl') :
    ∃ kl, ks.get? j = some kl ∧ (kl' = kl ∨ ∃ r, kl = .haelt (.bedingung a) r ∧ kl' = .haelt .frei r) := by
  induction ks generalizing j with
  | nil => cases h
  | cons k ks ih =>
    rcases k with _ | ⟨_ | b | _ | _, r⟩
    rotate_left
    · unfold weckeKlient at h
      split at h
      · cases j with
        | zero => cases h; exact ⟨_, rfl, .inr ⟨r, by subst_vars; rfl, rfl⟩⟩
        | succ j => exact ⟨kl', h, .inl rfl⟩
      · cases j with
        | zero => exact ⟨kl', h, .inl rfl⟩
        | succ j => exact ih h
    all_goals
      cases j with
      | zero => exact ⟨kl', h, .inl rfl⟩
      | succ j => exact ih h

/-- **The signal on a surface's condition keeps the invariant**: it lets a client waiting there go
    on, and a client waiting on a surface is at rest. -/
theorem FInv.wecke (hi : FInv B g) (a : Nat) :
    FInv B ⟨⟨g.sys.welt, weckeKlient a g.sys.klienten⟩, g.offen, g.rollen⟩ := by
  refine { hi with
    form := fun j kl' h => ?_
    rollen_da := fun j hj => ?_
    gedeckt := fun b s hs hr => ?_ }
  · obtain ⟨kl, hk, e | ⟨r, rfl, rfl⟩⟩ := weckeKlient_get?_rueck a h
    · exact e ▸ hi.form j kl hk
    · have hf := hi.form j _ hk
      cases hρ : g.rollen j <;> rw [hρ] at hf
      · exact ⟨.inl rfl, hf.2⟩
      all_goals exact absurd hf.1 nofun
  · obtain ⟨kl, hk⟩ := hi.rollen_da j hj
    obtain ⟨kl', h', -⟩ := weckeKlient_get? a hk
    exact ⟨kl', h'⟩
  · rcases hi.gedeckt b s hs hr with h | ⟨ca, ⟨j, r, hj⟩, hc⟩ | h | h
    · exact .inl h
    · obtain ⟨kl', h', e | ⟨r', e, -⟩⟩ := weckeKlient_get? a hj
      · exact .inr (.inl ⟨ca, ⟨j, r, e ▸ h'⟩, hc⟩)
      · cases e
    · exact .inr (.inr (.inl h))
    · exact .inr (.inr (.inr h))

/-! ## 2. One thread moves on -/

theorem laeuft_set {w : Welt} {i j c : Nat} {f : ResolveFaden} (hf : w.faeden.get? i = some f)
    (pc' : RT) :
    Laeuft { w with faeden := w.faeden.set i ⟨f.ctx, pc'⟩ } j c ↔
      (j = i ∧ c = f.ctx ∧ pc' ≠ .beendet) ∨ (j ≠ i ∧ Laeuft w j c) := by
  unfold Laeuft
  by_cases e : i = j
  · subst e
    simp only [get?_set_self hf, Option.some.injEq, exists_eq_left', true_and, ne_eq,
      not_true_eq_false, false_and, or_false]
    exact ⟨fun ⟨h₁, h₂⟩ => ⟨h₁.symm, h₂⟩, fun ⟨h₁, h₂⟩ => ⟨h₁.symm, h₂⟩⟩
  · simp only [get?_set_anders _ e, Ne.symm e, false_and, false_or, ne_eq, not_false_eq_true,
      true_and]

/-- The ring of a Context whose `exiting` is set is empty. -/
theorem FInv.nicht_in_schlange (hi : FInv B g) {c : Nat} {k : KBlick}
    (hk : sicht g.sys.welt c = .context k) (hx : k.exiting = true) (a : Option Nat) :
    a ∉ k.schlange B.SURFACE_QUEUE_SIZE := by
  simp [KBlick.schlange, hi.exiting_leer c k hk hx]

/-- **A step that moves one resolve thread on and leaves the heap as it is** keeps the invariant,
    when the thread does not return while its Context lives, reaches `frei` only with a pending
    entry, and leaves `loest` only once the surface it took is no longer in flight. -/
theorem FInv.faden_pc (hi : FInv B g) {i : Nat} {f : ResolveFaden}
    (hf : g.sys.welt.faeden.get? i = some f) (hp : f.pc ≠ .beendet)
    (hl : ∀ a s, f.pc = .loest (some a) → sicht g.sys.welt a = .surface s → s.resolving = false)
    (pc' : RT) (hb : pc' = .beendet → ∃ k, sicht g.sys.welt f.ctx = .context k ∧ k.exiting = true)
    (hfr : pc' = .frei → ∃ k, sicht g.sys.welt f.ctx = .context k ∧ 0 < k.anzahl B.SURFACE_QUEUE_SIZE) :
    FInv B ⟨⟨{ g.sys.welt with faeden := g.sys.welt.faeden.set i ⟨f.ctx, pc'⟩ }, g.sys.klienten⟩,
      g.offen, g.rollen⟩ := by
  have hL := fun j c => laeuft_set (j := j) (c := c) hf pc'
  have alt : Laeuft g.sys.welt i f.ctx := ⟨f, hf, rfl, hp⟩
  refine { hi with
    faden_ctx := fun j f' h hb' => ?_
    faden_eindeutig := fun j j' c h₁ h₂ => ?_
    faden_da := fun c h => ?_
    frei_voll := fun j f' h hp' => ?_
    gedeckt := fun a s hs hr => ?_ }
  · by_cases e : i = j
    · subst e
      rw [get?_set_self hf] at h
      cases h
      exact hi.faden_ctx i f hf hp
    · rw [get?_set_anders _ e] at h
      exact hi.faden_ctx j f' h hb'
  · rcases (hL _ _).mp h₁ with ⟨rfl, rfl, -⟩ | ⟨-, l₁⟩
    · rcases (hL _ _).mp h₂ with ⟨e₂, -, -⟩ | ⟨-, l₂⟩
      · exact e₂.symm
      · exact hi.faden_eindeutig _ _ _ alt l₂
    · rcases (hL _ _).mp h₂ with ⟨rfl, rfl, -⟩ | ⟨-, l₂⟩
      · exact hi.faden_eindeutig _ _ _ l₁ alt
      · exact hi.faden_eindeutig _ _ _ l₁ l₂
  · obtain ⟨j, hj⟩ := hi.faden_da c h
    by_cases e : j = i
    · subst e
      obtain ⟨f₀, hf₀, rfl, -⟩ := hj
      rw [hf] at hf₀
      cases hf₀
      by_cases hb' : pc' = .beendet
      · obtain ⟨k, hk, hx⟩ := hb hb'
        have h' : Lebt g.sys.welt f.ctx := h
        obtain ⟨k', hk', hx'⟩ := h'
        rw [hk] at hk'
        cases hk'
        rw [hx] at hx'
        cases hx'
      · exact ⟨j, (hL _ _).mpr (.inl ⟨rfl, rfl, hb'⟩)⟩
    · exact ⟨j, (hL _ _).mpr (.inr ⟨e, hj⟩)⟩
  · by_cases e : i = j
    · subst e
      rw [get?_set_self hf] at h
      cases h
      exact hfr hp'
    · rw [get?_set_anders _ e] at h
      exact hi.frei_voll j f' h hp'
  · rcases hi.gedeckt a s hs hr with h | h | ⟨j, f₀, hj, hp₀⟩ | ⟨j, c, k, hlj, hk, hq⟩
    · exact .inl h
    · exact .inr (.inl h)
    · by_cases e : i = j
      · subst e
        rw [hf] at hj
        cases hj
        rw [hl a s hp₀ hs] at hr
        cases hr
      · exact .inr (.inr (.inl ⟨j, f₀, by rwa [get?_set_anders _ e], hp₀⟩))
    · refine .inr (.inr (.inr ⟨j, c, k, ?_, hk, hq⟩))
      by_cases e : j = i
      · subst e
        obtain ⟨f₀, hf₀, rfl, -⟩ := hlj
        rw [hf] at hf₀
        cases hf₀
        by_cases hb' : pc' = .beendet
        · obtain ⟨k', hk', hx⟩ := hb hb'
          rw [hk] at hk'
          cases hk'
          exact absurd hq (hi.nicht_in_schlange hk hx _)
        · exact (hL _ _).mpr (.inl ⟨rfl, rfl, hb'⟩)
      · exact (hL _ _).mpr (.inr ⟨e, hlj⟩)

/-- A thread that stays running for its Context leaves every thread's running as it was. -/
theorem laeuft_set_laeuft {w : Welt} {i j c : Nat} {f : ResolveFaden}
    (hf : w.faeden.get? i = some f) (hp : f.pc ≠ .beendet) (pc' : RT) (hp' : pc' ≠ .beendet) :
    Laeuft { w with faeden := w.faeden.set i ⟨f.ctx, pc'⟩ } j c ↔ Laeuft w j c := by
  rw [laeuft_set hf pc']
  constructor
  · rintro (⟨rfl, rfl, -⟩ | ⟨-, h⟩)
    · exact ⟨f, hf, rfl, hp⟩
    · exact h
  · intro h
    by_cases e : j = i
    · subst e
      obtain ⟨f₀, hf₀, rfl, -⟩ := h
      rw [hf] at hf₀
      cases hf₀
      exact .inl ⟨rfl, rfl, hp'⟩
    · exact .inr ⟨e, h⟩

/-- **The dequeue keeps the invariant**: the oldest pending entry of the ring passes to the thread,
    which resolves it next. -/
theorem FInv.faden_frei (hi : FInv B g) {i : Nat} {f : ResolveFaden}
    (hf : g.sys.welt.faeden.get? i = some f) (hp : f.pc = .frei) {k : KBlick}
    (hk : sicht g.sys.welt f.ctx = .context k) {w₀ : Welt}
    (h₁ : sicht w₀ f.ctx = .context (entnehmen B.SURFACE_QUEUE_SIZE k.ctx).2.kblick)
    (h₂ : ∀ b, b ≠ f.ctx → sicht w₀ b = sicht g.sys.welt b) (h₃ : w₀.faeden = g.sys.welt.faeden)
    (h₄ : w₀.drv.objects = g.sys.welt.drv.objects) :
    FInv B ⟨⟨{ w₀ with faeden := (w₀.faeden.set i
        ⟨f.ctx, .loest (entnehmen B.SURFACE_QUEUE_SIZE k.ctx).1⟩) }, g.sys.klienten⟩, g.offen, g.rollen⟩ := by
  obtain ⟨k₀, hk₀, hn⟩ := hi.frei_voll i f hf hp
  rw [hk] at hk₀
  cases hk₀
  obtain ⟨hpa, ha, hq⟩ := kblick_entnehmen (hi.passt _ k hk) hn
  have hx : k.exiting = false := by
    cases e : k.exiting
    · rfl
    · rw [hi.exiting_leer _ k hk e] at hn; cases hn
  have hf₀ : w₀.faeden.get? i = some f := h₃ ▸ hf
  have hpb : f.pc ≠ .beendet := by rw [hp]; exact nofun
  have hL : ∀ j c, Laeuft { w₀ with faeden := (w₀.faeden.set i
      ⟨f.ctx, .loest (entnehmen B.SURFACE_QUEUE_SIZE k.ctx).1⟩) } j c ↔ Laeuft g.sys.welt j c :=
    fun j c => (laeuft_set_laeuft hf₀ hpb (.loest (entnehmen B.SURFACE_QUEUE_SIZE k.ctx).1)
      nofun).trans (by unfold Laeuft; rw [h₃])
  -- the Contexts, read in the new world
  have ctx_hin : ∀ b kb, sicht g.sys.welt b = .context kb → ∃ kb', sicht w₀ b = .context kb' ∧
      kb'.exiting = kb.exiting ∧ kb'.renderTarget = kb.renderTarget := fun b kb h => by
    by_cases e : b = f.ctx
    · subst e
      rw [hk] at h
      cases h
      exact ⟨_, h₁, rfl, rfl⟩
    · exact ⟨kb, (h₂ b e).trans h, rfl, rfl⟩
  have ctx_rueck : ∀ b kb', sicht w₀ b = .context kb' → ∃ kb, sicht g.sys.welt b = .context kb ∧
      kb'.exiting = kb.exiting ∧ kb'.renderTarget = kb.renderTarget ∧ (b ≠ f.ctx → kb' = kb) :=
    fun b kb' h => by
    by_cases e : b = f.ctx
    · subst e
      rw [h₁] at h
      cases h
      exact ⟨k, hk, rfl, rfl, fun e => absurd rfl e⟩
    · rw [h₂ b e] at h
      exact ⟨kb', h, rfl, rfl, fun _ => rfl⟩
  have lebt_hin : ∀ ca, Lebt g.sys.welt ca → Lebt w₀ ca := fun ca ⟨kb, h, hx⟩ =>
    let ⟨kb', h', e, _⟩ := ctx_hin ca kb h; ⟨kb', h', e.trans hx⟩
  refine ⟨hi.form, hi.rollen_da, fun j ca h => lebt_hin ca (hi.ende_lebt j ca h), fun j cid ca h => ?_,
    hi.abbau_eindeutig, fun ca h => lebt_hin ca (hi.offen_lebt ca h), fun b kb' h => ?_,
    fun b kb' h hx' => ?_, fun j f' h hb => ?_, fun j j' c l₁ l₂ => ?_, fun c ⟨kb', h, hx'⟩ => ?_,
    fun j f' h hp' => ?_, fun a s hs hr => ?_⟩
  · obtain ⟨hptr, kb, hkb, hx'⟩ := hi.abbau j cid ca h
    obtain ⟨kb', h', e, -⟩ := ctx_hin ca kb hkb
    exact ⟨by rw [getObjectPtr_eq] at hptr ⊢; unfold getObject at hptr ⊢; rwa [h₄], kb', h', e.trans hx'⟩
  · change sicht w₀ b = _ at h
    by_cases e : b = f.ctx
    · subst e
      rw [h₁] at h
      cases h
      exact hpa
    · rw [h₂ b e] at h
      exact hi.passt b kb' h
  · obtain ⟨kb, hkb, ex, -, eq⟩ := ctx_rueck b kb' h
    by_cases e : b = f.ctx
    · subst e
      rw [hk] at hkb
      cases hkb
      rw [ex, hx] at hx'
      cases hx'
    · rw [eq e]
      exact hi.exiting_leer b kb hkb (ex ▸ hx')
  · by_cases e : i = j
    · subst e
      rw [get?_set_self hf₀] at h
      cases h
      exact ⟨_, h₁⟩
    · rw [get?_set_anders _ e, h₃] at h
      obtain ⟨kb, hkb⟩ := hi.faden_ctx j f' h hb
      obtain ⟨kb', h', -⟩ := ctx_hin _ kb hkb
      exact ⟨kb', h'⟩
  · exact hi.faden_eindeutig j j' c ((hL j c).mp l₁) ((hL j' c).mp l₂)
  · obtain ⟨kb, hkb, ex, -⟩ := ctx_rueck c kb' h
    obtain ⟨j, hj⟩ := hi.faden_da c ⟨kb, hkb, ex ▸ hx'⟩
    exact ⟨j, (hL j c).mpr hj⟩
  · by_cases e : i = j
    · subst e
      rw [get?_set_self hf₀] at h
      cases h
      cases hp'
    · rw [get?_set_anders _ e, h₃] at h
      obtain ⟨kb, hkb, hn'⟩ := hi.frei_voll j f' h hp'
      by_cases ec : f'.ctx = f.ctx
      · have := hi.faden_eindeutig i j f.ctx ⟨f, hf, rfl, hpb⟩ ⟨f', h, ec, by rw [hp']; exact nofun⟩
        exact absurd this e
      · exact ⟨kb, (h₂ _ ec).trans hkb, hn'⟩
  · change sicht w₀ a = _ at hs
    have ha' : a ≠ f.ctx := by
      rintro rfl
      rw [h₁] at hs
      cases hs
    have hs' : sicht g.sys.welt a = .surface s := (h₂ a ha').symm.trans hs
    rcases hi.gedeckt a s hs' hr with ⟨ca, hc, kb, hkb, ht⟩ | ⟨ca, hw, kb, hkb, ht⟩ |
        ⟨j, f', hj, hp'⟩ | ⟨j, c, kb, hl, hkb, hq'⟩
    · obtain ⟨kb', h', -, e⟩ := ctx_hin ca kb hkb
      exact .inl ⟨ca, hc, kb', h', e.trans ht⟩
    · obtain ⟨kb', h', -, e⟩ := ctx_hin ca kb hkb
      exact .inr (.inl ⟨ca, hw, kb', h', e.trans ht⟩)
    · have e : i ≠ j := by
        rintro rfl
        rw [hf] at hj
        cases hj
        rw [hp] at hp'
        cases hp'
      exact .inr (.inr (.inl ⟨j, f', by rwa [get?_set_anders _ e, h₃], hp'⟩))
    · by_cases ec : c = f.ctx
      · subst ec
        rw [hk] at hkb
        cases hkb
        rw [hq] at hq'
        rcases List.mem_cons.mp hq' with e | e
        · exact .inr (.inr (.inl ⟨i, _, get?_set_self hf₀, by rw [← e]⟩))
        · exact .inr (.inr (.inr ⟨i, f.ctx, _, (hL i f.ctx).mpr ⟨f, hf, rfl, hpb⟩, h₁, e⟩))
      · exact .inr (.inr (.inr ⟨j, c, kb, (hL j c).mpr hl, (h₂ c ec).trans hkb, hq'⟩))

/-! ## 3. Every step of a resolve thread -/

/-- **Every step of a resolve thread whose push does not fail keeps the invariant.** -/
theorem FInv.nach_faden (hi : FInv B g) {i : Nat} {s' : Sys}
    (hs : schritt B g.sys (.faden i) = some s') (hst : ¬ StapelFehler g.sys.welt s'.welt) :
    FInv B (g.nach s' (.faden i)) := by
  obtain ⟨⟨c, q⟩, p, pc, sig, w₀, hf, hp, hw, rfl⟩ := schritt_faden B hs
  show FInv B ⟨_, g.offen, g.rollen⟩
  cases q with
  | start =>
    obtain ⟨rfl, hg, rfl | ⟨rfl, hst'⟩⟩ := resolveSchritt_start B hp hw
    · exact (hi.treu hg.treu).faden_pc (f := ⟨c, .start⟩) (hg.2.1 ▸ hf) nofun (fun _ _ h => nomatch h) _
        (fun h => nomatch h) fun h => nomatch h
    · exact absurd hst' hst
  | kopf | geweckt =>
    obtain ⟨rfl, rfl, k, hk, rfl⟩ := resolveSchritt_exiting B (by simp) hp hw
    refine hi.faden_pc hf nofun (fun _ _ h => nomatch h) _ (fun h => ⟨k, hk, ?_⟩) fun h => ?_
    · revert h; cases k.exiting <;> simp
    · revert h; cases k.exiting <;> simp
  | geprueft =>
    obtain ⟨rfl, rfl, k, hk, rfl⟩ := resolveSchritt_geprueft B hp hw
    refine hi.faden_pc hf nofun (fun _ _ h => nomatch h) _ (fun h => ?_) fun h => ⟨k, hk, ?_⟩
    · revert h; cases ringLeer k.ctx <;> simp
    · cases e : ringLeer k.ctx
      · exact Nat.pos_of_ne_zero fun h₀ => by
          rw [← ringLeer_iff (hi.passt c k hk), e] at h₀; cases h₀
      · simp [e] at h
  | wartet => cases hp
  | frei =>
    obtain ⟨rfl, k, hk, rfl, h₁, h₂, h₃, h₄⟩ := resolveSchritt_frei B hp hw
    exact hi.faden_frei hf rfl hk h₁ h₂ h₃ h₄
  | loest e =>
    rcases e with _ | a
    · exact absurd hw (resolveSchritt_loest_none B hp)
    obtain ⟨rfl, rfl, hg⟩ := resolveSchritt_loest B hp hw
    have hf₀ : w₀.faeden.get? i = some ⟨c, .loest (some a)⟩ := hg.1 ▸ hf
    refine ((hi.treu hg.treu).faden_pc hf₀ nofun (fun a' s h hs => ?_) .kopf (fun h => nomatch h)
      fun h => nomatch h).wecke a
    obtain ⟨-, -, s₀, -, e₂, -⟩ := hg
    cases h
    rw [e₂] at hs
    cases hs
    rfl
  | beendet => cases hp

end NvdecVaapi
