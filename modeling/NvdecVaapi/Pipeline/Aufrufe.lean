/-
  File:      NvdecVaapi/Pipeline/Aufrufe.lean
  Subject:   The calls of a well-behaved client keep the pipeline's invariant.

  * `GSys.nach_rufe_fertig`, `GSys.nach_rufe_halt` -- the ghost state after a call that returned
    or stopped; `FInv.form_set`, `FInv.rollen_da_set`, `bautAb_update`, `rolle_update_eq`,
    `abbau_update` -- a client that changes its role, and every other client keeps its own;
  * `Aufruf.einfach`, `fuehreAus_wartet`, `FInv.nach_einfach` -- the calls that keep the frame,
    waiting at most on a surface in flight, keep the invariant;
  * `FInv.begonnen`, `FInv.nach_beginn` -- `nvBeginPicture` puts its target in flight as the render
    target of a Context with no open picture, and the picture it opens covers it;
  * `FInv.ende`, `FInv.nach_ende` -- `nvEndPicture` stops at `resolveMutex` holding its render
    target, which covers the target from then on;
  * `Markiert`, `FInv.markiert`, `FInv.nach_abbau` -- `nvDestroyContext` of an idle Context sets
    `exiting` and becomes the Context's only destroyer;
  * `FInv.mitContext`, `FInv.nach_anlegen` -- `nvCreateContext` adds a Context with an empty ring
    and its thread;
  * `FInv.nach_rufe` -- every call a well-behaved client makes.
-/
import NvdecVaapi.Pipeline.Faeden

namespace NvdecVaapi

variable {B : Bau} {g : GSys}

/-! ## 1. The ghost state after a call -/

theorem GSys.nach_rufe_fertig {k : Nat} (hk : g.sys.klienten.get? k = some .bereit)
    (hr : g.rollen k = .ruhe) (a : Aufruf) (w' : Welt) :
    g.nach ⟨w', g.sys.klienten.set k .bereit⟩ (.rufe k a) =
      ⟨⟨w', g.sys.klienten.set k .bereit⟩, offenNach g a, g.rollen⟩ := by
  simp only [GSys.nach, get?_set_self hk, Option.any_some, Klient.imRuf, Bool.false_eq_true,
    ↓reduceIte]
  rw [← hr, Function.update_eq_self]

theorem GSys.nach_rufe_halt {k : Nat} (hk : g.sys.klienten.get? k = some .bereit) (a : Aufruf)
    (w' : Welt) (hh : Halt) (r : Welt → Ausgang VAStatus) :
    g.nach ⟨w', g.sys.klienten.set k (.haelt hh r)⟩ (.rufe k a) =
      ⟨⟨w', g.sys.klienten.set k (.haelt hh r)⟩, offenNach g a,
        Function.update g.rollen k (rolleBeimRuf g.sys.welt a)⟩ := by
  simp only [GSys.nach, get?_set_self hk, Option.any_some, Klient.imRuf, ↓reduceIte]

/-- Client `k` taking the role `ρ` in the form `ρ` asks keeps every client in the form of its
    role. -/
theorem FInv.form_set (hi : FInv B g) {k : Nat} {kl kl' : Klient} {ρ : Rolle}
    (hk : g.sys.klienten.get? k = some kl) (hf : ρ.Form B kl') (j : Nat) (kl₁ : Klient)
    (h : (g.sys.klienten.set k kl').get? j = some kl₁) :
    (Function.update g.rollen k ρ j).Form B kl₁ := by
  by_cases e : j = k
  · subst e
    rw [get?_set_self hk] at h
    cases h
    rwa [Function.update_same]
  · rw [get?_set_anders _ (Ne.symm e)] at h
    rw [Function.update_noteq e]
    exact hi.form j kl₁ h

/-- Every client with a role other than `ruhe` is still there. -/
theorem FInv.rollen_da_set (hi : FInv B g) {k : Nat} {kl kl' : Klient} {ρ : Rolle}
    (hk : g.sys.klienten.get? k = some kl) (j : Nat) (h : Function.update g.rollen k ρ j ≠ .ruhe) :
    ∃ kl₁, (g.sys.klienten.set k kl').get? j = some kl₁ := by
  by_cases e : j = k
  · subst e
    exact ⟨_, get?_set_self hk⟩
  · rw [Function.update_noteq e] at h
    rw [get?_set_anders _ (Ne.symm e)]
    exact hi.rollen_da j h

/-- A role that destroys nothing adds no destroyer. -/
theorem bautAb_update {ρs : Nat → Rolle} {k j c : Nat} {ρ : Rolle}
    (h : (Function.update ρs k ρ j).bautAb = some c) (hρ : ρ.bautAb = none) :
    j ≠ k ∧ (ρs j).bautAb = some c := by
  by_cases e : j = k
  · subst e
    rw [Function.update_same, hρ] at h
    cases h
  · rw [Function.update_noteq e] at h
    exact ⟨e, h⟩

/-- A client other than `k` keeps its role: a role `k` did not take is one it had before. -/
theorem rolle_update_eq {ρs : Nat → Rolle} {k j : Nat} {ρ σ : Rolle}
    (h : Function.update ρs k ρ j = σ) (hρ : ρ ≠ σ) : ρs j = σ := by
  by_cases e : j = k
  · subst e
    rw [Function.update_same] at h
    exact absurd h hρ
  · rwa [Function.update_noteq e] at h

/-- A client that takes a role that destroys nothing adds no destroyer. -/
theorem abbau_update {ρs : Nat → Rolle} {k j cid c : Nat} {ρ : Rolle}
    (h : Function.update ρs k ρ j = .abbau cid c ∨ Function.update ρs k ρ j = .join cid c)
    (hρ : ρ.bautAb = none) : ρs j = .abbau cid c ∨ ρs j = .join cid c :=
  h.imp (rolle_update_eq · (by rintro rfl; cases hρ)) (rolle_update_eq · (by rintro rfl; cases hρ))

/-- The calls of the pipeline that keep the frame and stop at most at the condition of a surface
    in flight. -/
def Aufruf.einfach : Aufruf → Bool
  | .CreateConfig .. | .CreateSurfaces .. | .CreateSurfaces2 .. | .CreateBuffer .. | .MapBuffer _
  | .UnmapBuffer _ | .RenderPicture .. | .SyncSurface _ | .CreateImage .. | .GetImage .. => true
  | _ => false

/-- The calls a well-behaved client makes: those that keep the frame, and the four that change
    what the pipeline reads. -/
theorem AufrufOrdentlich.cases {a : Aufruf} (h : AufrufOrdentlich B g a) :
    a.einfach = true ∨ (∃ cfg pw ph rts n, a = .CreateContext cfg pw ph rts n) ∨
      (∃ cid sid, a = .BeginPicture cid sid) ∨ (∃ cid, a = .EndPicture cid) ∨
      ∃ cid, a = .DestroyContext cid := by
  cases a <;> first
    | exact .inl rfl
    | exact .inr (.inl ⟨_, _, _, _, _, rfl⟩)
    | exact .inr (.inr (.inl ⟨_, _, rfl⟩))
    | exact .inr (.inr (.inr (.inl ⟨_, rfl⟩)))
    | exact .inr (.inr (.inr (.inr ⟨_, rfl⟩)))
    | cases h

/-! ## 2. Calls that keep the frame -/

theorem fuehreAus_wartet {a : Aufruf} (h : a.einfach = true) : Wartet (fuehreAus B a) := by
  cases a
  case CreateConfig p e l => exact wartet_of_ruhig (nvCreateConfig_ruhig B p e l)
  case CreateSurfaces wd ht f n => exact wartet_of_ruhig (nvCreateSurfaces2_ruhig f wd ht n)
  case CreateSurfaces2 f wd ht n => exact wartet_of_ruhig (nvCreateSurfaces2_ruhig f wd ht n)
  case CreateBuffer c t s n d => exact wartet_of_ruhig (nvCreateBuffer_ruhig c t s n d)
  case MapBuffer b => exact wartet_of_ruhig (nvMapBuffer_ruhig b)
  case UnmapBuffer => exact wartet_of_ruhig (ruhig_pure _)
  case RenderPicture c l => exact wartet_of_ruhig (nvRenderPicture_ruhig B c l)
  case SyncSurface s => exact nvSyncSurface_wartet s
  case CreateImage f wd ht => exact wartet_of_ruhig (ruhig_map _ (nvCreateImage_ruhig B f wd ht))
  case GetImage s x y wd ht i => exact nvGetImage_wartet B s x y wd ht i
  all_goals cases h

theorem offenNach_einfach (g : GSys) {a : Aufruf} (h : a.einfach = true) : offenNach g a = g.offen := by
  cases a <;> first | rfl | cases h

theorem rolleBeimRuf_einfach (w : Welt) {a : Aufruf} (h : a.einfach = true) :
    rolleBeimRuf w a = .ruhe := by
  cases a <;> first | rfl | cases h

/-- **A call that keeps the frame keeps the invariant**: its client returns to rest, or waits on
    a surface in flight with a continuation that keeps the frame. -/
theorem FInv.nach_einfach (hi : FInv B g) {k : Nat} {a : Aufruf} {s' : Sys} (ha : a.einfach = true)
    (hk : g.sys.klienten.get? k = some .bereit) (hr : g.rollen k = .ruhe)
    (hn : g.sys.nach k (fuehreAus B a g.sys.welt) = some s') : FInv B (g.nach s' (.rufe k a)) := by
  rcases fuehreAus_wartet ha g.sys.welt with ⟨_, he⟩ | ⟨_, w', he, hR⟩ | ⟨b, w', r, he, hR, -, hr'⟩ <;>
    rw [he] at hn <;> cases hn
  · rw [GSys.nach_rufe_fertig hk hr, offenNach_einfach g ha]
    exact (hi.treu hR.treu).klient hk hr trivial
  · rw [GSys.nach_rufe_halt hk, offenNach_einfach g ha, rolleBeimRuf_einfach _ ha, ← hr,
      Function.update_eq_self]
    exact (hi.treu hR.treu).klient hk hr ⟨.inr ⟨b, rfl⟩, hr'⟩

/-! ## 3. `nvBeginPicture` -/

section Beginn

variable {a ca : Nat} {w w' : Welt}

theorem Begonnen.ctx (h : Begonnen a ca w w') {c : Nat} {k : KBlick} (hc : sicht w c = .context k) :
    sicht w' c = .context (if c = ca then { k with renderTarget := some a } else k) := by
  obtain ⟨⟨s, hs⟩, -, ⟨kc, hk, hk'⟩, hb, -⟩ := h
  split
  · subst c
    rw [hk] at hc
    cases hc
    exact hk'
  · rw [hb c (by rintro rfl; rw [hs] at hc; cases hc) ‹_›, hc]

theorem Begonnen.ctx_rueck (h : Begonnen a ca w w') {c : Nat} {k' : KBlick}
    (hc : sicht w' c = .context k') :
    ∃ k, sicht w c = .context k ∧ k' = if c = ca then { k with renderTarget := some a } else k := by
  obtain ⟨-, ⟨s', hs', -⟩, ⟨kc, hk, hk'⟩, hb, -⟩ := h
  by_cases e : c = ca
  · subst c
    rw [hk'] at hc
    cases hc
    exact ⟨kc, hk, by simp⟩
  · rw [hb c (by rintro rfl; rw [hs'] at hc; cases hc) e] at hc
    exact ⟨k', hc, by simp [e]⟩

theorem Begonnen.lebt (h : Begonnen a ca w w') {c : Nat} (hc : Lebt w c) : Lebt w' c :=
  let ⟨_, hk, hx⟩ := hc
  ⟨_, h.ctx hk, by split <;> exact hx⟩

theorem Begonnen.lebt_rueck (h : Begonnen a ca w w') {c : Nat} (hc : Lebt w' c) : Lebt w c := by
  obtain ⟨k', hk', hx⟩ := hc
  obtain ⟨k, hk, rfl⟩ := h.ctx_rueck hk'
  exact ⟨k, hk, by split at hx <;> exact hx⟩

theorem Begonnen.surface (h : Begonnen a ca w w') {b : Nat} {s : SBlick}
    (hs : sicht w' b = .surface s) (hb : b ≠ a) : sicht w b = .surface s := by
  obtain ⟨-, -, ⟨kc, -, hk'⟩, hb', -⟩ := h
  rwa [← hb' b hb (by rintro rfl; rw [hk'] at hs; cases hs)]

/-- **A successful `nvBeginPicture` keeps the invariant** once the picture it opens is recorded,
    on a live Context with no open picture and no `nvEndPicture` waiting. -/
theorem FInv.begonnen (hi : FInv B g) (h : Begonnen a ca g.sys.welt w') (hl : Lebt g.sys.welt ca)
    (ho : ca ∉ g.offen) (he : ¬ EndeWartet g.sys ca) :
    FInv B ⟨⟨w', g.sys.klienten⟩, ca :: g.offen, g.rollen⟩ := by
  have hf : w'.faeden = g.sys.welt.faeden := h.2.2.2.2.1
  have hL : ∀ i c, Laeuft w' i c ↔ Laeuft g.sys.welt i c := fun i c => by unfold Laeuft; rw [hf]
  refine
    { form := hi.form
      rollen_da := hi.rollen_da
      ende_lebt := fun k c hk => h.lebt (hi.ende_lebt k c hk)
      abbau := fun k cid c hk => ?_
      abbau_eindeutig := hi.abbau_eindeutig
      offen_lebt := fun c hc => h.lebt ((List.mem_cons.mp hc).elim (· ▸ hl) (hi.offen_lebt c))
      passt := fun c k hk => ?_
      exiting_leer := fun c k hk hx => ?_
      faden_ctx := fun i f hfi hb => ?_
      faden_eindeutig := fun i j c h₁ h₂ => hi.faden_eindeutig i j c ((hL i c).mp h₁) ((hL j c).mp h₂)
      faden_da := fun c hc => let ⟨i, hl'⟩ := hi.faden_da c (h.lebt_rueck hc); ⟨i, (hL i c).mpr hl'⟩
      frei_voll := fun i f hfi hp => ?_
      gedeckt := fun b s hs hr => ?_ }
  · obtain ⟨hp, k, hk, hx⟩ := hi.abbau k cid c hk
    refine ⟨by rwa [getObjectPtr_of_objects h.2.2.2.2.2], _, h.ctx hk, by split <;> exact hx⟩
  · obtain ⟨k₀, hk₀, rfl⟩ := h.ctx_rueck hk
    have := hi.passt c k₀ hk₀
    split <;> exact this
  · obtain ⟨k₀, hk₀, rfl⟩ := h.ctx_rueck hk
    have hx₀ : k₀.exiting = true := by split at hx <;> exact hx
    have := hi.exiting_leer c k₀ hk₀ hx₀
    split <;> exact this
  · rw [hf] at hfi
    obtain ⟨k, hk⟩ := hi.faden_ctx i f hfi hb
    exact ⟨_, h.ctx hk⟩
  · rw [hf] at hfi
    obtain ⟨k, hk, hn⟩ := hi.frei_voll i f hfi hp
    exact ⟨_, h.ctx hk, by split <;> exact hn⟩
  · by_cases e : b = a
    · subst e
      obtain ⟨kc, -, hk'⟩ := h.2.2.1
      exact .inl ⟨ca, List.mem_cons_self _ _, _, hk', rfl⟩
    rcases hi.gedeckt b s (h.surface hs e) hr with
      ⟨c, hc, k, hk, ht⟩ | ⟨c, hw, k, hk, ht⟩ | ⟨i, f, hfi, hp⟩ | ⟨i, c, k, hl', hk, hq⟩
    · have hne : c ≠ ca := fun e' => ho (e' ▸ hc)
      exact .inl ⟨c, List.mem_cons_of_mem _ hc, k, by rw [h.ctx hk, if_neg hne], ht⟩
    · have hne : c ≠ ca := fun e' => he (e' ▸ hw)
      exact .inr (.inl ⟨c, hw, k, by rw [h.ctx hk, if_neg hne], ht⟩)
    · exact .inr (.inr (.inl ⟨i, f, by rw [hf]; exact hfi, hp⟩))
    · exact .inr (.inr (.inr ⟨i, c, _, (hL i c).mpr hl', h.ctx hk, by split <;> exact hq⟩))

end Beginn

/-- **`nvBeginPicture` keeps the invariant**: a successful call opens a picture whose render
    target is its surface; a failed one changes a picture index at most. -/
theorem FInv.nach_beginn (hi : FInv B g) {k cid sid : Nat} {s' : Sys}
    (hk : g.sys.klienten.get? k = some .bereit) (hr : g.rollen k = .ruhe)
    (ho : ∃ ca, getObjectPtr g.sys.welt.drv cid = some ca ∧ Lebt g.sys.welt ca ∧ ca ∉ g.offen ∧
      ¬ EndeWartet g.sys ca)
    (hn : g.sys.nach k (nvBeginPicture cid sid g.sys.welt) = some s') :
    FInv B (g.nach s' (.rufe k (.BeginPicture cid sid))) := by
  rcases Sys.nach_some hn with ⟨st, w', he, rfl⟩ | ⟨_, _, _, he, -⟩
  swap
  · exact absurd he (nvBeginPicture_ohneHalt cid sid).kein_halt
  rw [GSys.nach_rufe_fertig hk hr]
  obtain ⟨hs, hf⟩ := nvBeginPicture_wirkung he
  by_cases e : st = .success
  · subst e
    obtain ⟨a, ca, -, hc, hb⟩ := hs rfl
    obtain ⟨ca', hc', hl, hno, hew⟩ := ho
    rw [hc] at hc'
    cases hc'
    have ho' : offenNach g (.BeginPicture cid sid) = ca :: g.offen := by
      simp only [offenNach, hc, he, Ausgang.wert, ↓reduceIte]
    rw [ho']
    exact (hi.begonnen hb hl hno hew).klient hk hr trivial
  · have ho' : offenNach g (.BeginPicture cid sid) = g.offen := by
      simp only [offenNach, he, Ausgang.wert, Option.some.injEq, e, ↓reduceIte]
      split <;> rfl
    rw [ho']
    rcases hf e with rfl | ⟨a, -, hN⟩
    · exact hi.klient hk hr trivial
    · exact (hi.treu hN.treu).klient hk hr trivial

/-! ## 4. `nvEndPicture` -/

/-- **`nvEndPicture` stopping at `resolveMutex` keeps the invariant**: the picture it closes
    passes the cover of its render target to the waiting client. -/
theorem FInv.ende (hi : FInv B g) {k ca : Nat} {r : Welt → Ausgang VAStatus}
    (hk : g.sys.klienten.get? k = some .bereit) (hr : g.rollen k = .ruhe) (hc : ca ∈ g.offen)
    (hf : (Rolle.ende ca).Form B (.haelt (.mutex ca) r)) :
    FInv B ⟨⟨g.sys.welt, g.sys.klienten.set k (.haelt (.mutex ca) r)⟩, g.offen.filter (· ≠ ca),
      Function.update g.rollen k (.ende ca)⟩ := by
  refine
    { form := hi.form_set hk hf
      rollen_da := hi.rollen_da_set hk
      ende_lebt := fun j c h => ?_
      abbau := fun j cid c h => hi.abbau j cid c (abbau_update h rfl)
      abbau_eindeutig := fun i j c h₁ h₂ =>
        hi.abbau_eindeutig i j c (bautAb_update h₁ rfl).2 (bautAb_update h₂ rfl).2
      offen_lebt := fun c h => hi.offen_lebt c (List.mem_of_mem_filter h)
      passt := hi.passt
      exiting_leer := hi.exiting_leer
      faden_ctx := hi.faden_ctx
      faden_eindeutig := hi.faden_eindeutig
      faden_da := hi.faden_da
      frei_voll := hi.frei_voll
      gedeckt := fun a s hs hres => ?_ }
  all_goals dsimp only at *
  · by_cases e : j = k
    · subst e
      rw [Function.update_same] at h
      cases h
      exact hi.offen_lebt _ hc
    · rw [Function.update_noteq e] at h
      exact hi.ende_lebt j c h
  · rcases hi.gedeckt a s hs hres with ⟨c, hc', kc, hkc, ht⟩ | ⟨c, ⟨j, r', hj⟩, kc, hkc, ht⟩ | h | h
    · by_cases e : c = ca
      · subst e
        exact .inr (.inl ⟨c, ⟨k, r, get?_set_self hk⟩, kc, hkc, ht⟩)
      · exact .inl ⟨c, List.mem_filter.mpr ⟨hc', by simpa using e⟩, kc, hkc, ht⟩
    · have hjk : j ≠ k := by
        rintro rfl
        rw [hk] at hj
        cases hj
      exact .inr (.inl ⟨c, ⟨j, r', by rw [get?_set_anders _ (Ne.symm hjk)]; exact hj⟩, kc, hkc, ht⟩)
    · exact .inr (.inr (.inl h))
    · exact .inr (.inr (.inr h))

/-- **`nvEndPicture` keeps the invariant** when it closes an open picture and no push or pop
    fails: it stops at `resolveMutex` with the rest of its call. -/
theorem FInv.nach_ende (hi : FInv B g) {k cid : Nat} {s' : Sys}
    (hk : g.sys.klienten.get? k = some .bereit) (hr : g.rollen k = .ruhe)
    (ho : ∃ o, getObject g.sys.welt.drv cid = some o ∧ o.obj ∈ g.offen)
    (hn : g.sys.nach k (nvEndPicture B cid g.sys.welt) = some s')
    (hst : ¬ StapelFehler g.sys.welt s'.welt) : FInv B (g.nach s' (.rufe k (.EndPicture cid))) := by
  rcases Sys.nach_some hn with ⟨_, _, he, rfl⟩ | ⟨_, w', r, he, rfl⟩
  · exact absurd (nvEndPicture_fertig B he).2 hst
  obtain ⟨o, -, _, st, hob, rfl, -, -, hN, hr'⟩ := nvEndPicture_halt B he
  obtain ⟨o', ho', hc⟩ := ho
  rw [hob] at ho'
  cases ho'
  have e₁ : offenNach g (.EndPicture cid) = g.offen.filter (· ≠ o.obj) := by
    simp only [offenNach, hob]
  have e₂ : rolleBeimRuf g.sys.welt (.EndPicture cid) = .ende o.obj := by
    simp only [rolleBeimRuf, hob]
  rw [GSys.nach_rufe_halt hk, e₁, e₂]
  exact (hi.treu hN.treu).ende hk hr hc ⟨rfl, st, hr'⟩

/-! ## 5. `nvDestroyContext` -/

/-- `w'` is `w` with `exiting` of the Context at `ca` set. -/
def Markiert (ca : Nat) (w w' : Welt) : Prop :=
  (∃ kc, sicht w ca = .context kc ∧ sicht w' ca = .context { kc with exiting := true }) ∧
    (∀ b, b ≠ ca → sicht w' b = sicht w b) ∧ w'.faeden = w.faeden ∧
    w'.drv.objects = w.drv.objects

section Abbau

variable {ca : Nat} {w w' : Welt}

theorem Markiert.ctx (h : Markiert ca w w') {c : Nat} {k : KBlick} (hc : sicht w c = .context k) :
    sicht w' c = .context (if c = ca then { k with exiting := true } else k) := by
  obtain ⟨⟨kc, hk, hk'⟩, hb, -⟩ := h
  split
  · subst c
    rw [hk] at hc
    cases hc
    exact hk'
  · rw [hb c ‹_›, hc]

theorem Markiert.ctx_rueck (h : Markiert ca w w') {c : Nat} {k' : KBlick}
    (hc : sicht w' c = .context k') :
    ∃ k, sicht w c = .context k ∧ k' = if c = ca then { k with exiting := true } else k := by
  obtain ⟨⟨kc, hk, hk'⟩, hb, -⟩ := h
  by_cases e : c = ca
  · subst c
    rw [hk'] at hc
    cases hc
    exact ⟨kc, hk, by simp⟩
  · rw [hb c e] at hc
    exact ⟨k', hc, by simp [e]⟩

theorem Markiert.surface (h : Markiert ca w w') {b : Nat} {s : SBlick}
    (hs : sicht w' b = .surface s) : sicht w b = .surface s := by
  obtain ⟨⟨kc, -, hk'⟩, hb, -⟩ := h
  rwa [← hb b (by rintro rfl; rw [hk'] at hs; cases hs)]

theorem Rolle.bautAb_eq_some {ρ : Rolle} {ca : Nat} (h : ρ.bautAb = some ca) :
    ∃ cid, ρ = .abbau cid ca ∨ ρ = .join cid ca := by
  cases ρ <;> cases h
  · exact ⟨_, .inl rfl⟩
  · exact ⟨_, .inr rfl⟩

/-- **`nvDestroyContext` stopping after `exiting` keeps the invariant**: on an idle Context with no
    open picture and no `nvEndPicture` waiting, its client becomes the Context's destroyer. -/
theorem FInv.markiert (hi : FInv B g) {k cid : Nat} {r : Welt → Ausgang VAStatus}
    (hk : g.sys.klienten.get? k = some .bereit) (hr : g.rollen k = .ruhe)
    (hp : getObjectPtr g.sys.welt.drv cid = some ca) (h : Markiert ca g.sys.welt w')
    (hx : ∀ kc, sicht g.sys.welt ca = .context kc →
      kc.exiting = false ∧ kc.anzahl B.SURFACE_QUEUE_SIZE = 0)
    (ho : ca ∉ g.offen) (he : ¬ EndeWartet g.sys ca) (hf : (Rolle.abbau cid ca).Form B (.haelt .frei r)) :
    FInv B ⟨⟨w', g.sys.klienten.set k (.haelt .frei r)⟩, g.offen,
      Function.update g.rollen k (.abbau cid ca)⟩ := by
  obtain ⟨⟨kc, hkc, hkc'⟩, hb, hfa, hob⟩ := h
  obtain ⟨hx₀, hn₀⟩ := hx kc hkc
  have hL : ∀ i c, Laeuft w' i c ↔ Laeuft g.sys.welt i c := fun i c => by unfold Laeuft; rw [hfa]
  -- No Context being destroyed is at `ca`, whose `exiting` is still clear.
  have hab : ∀ j cid' c, g.rollen j = .abbau cid' c ∨ g.rollen j = .join cid' c → c ≠ ca := by
    rintro j cid' c hj rfl
    obtain ⟨-, k', hk', hx'⟩ := hi.abbau j cid' c hj
    rw [hkc] at hk'
    cases hk'
    rw [hx₀] at hx'
    cases hx'
  have hlebt : ∀ c, c ≠ ca → Lebt g.sys.welt c → Lebt w' c := fun c e hc => by
    rwa [Lebt, hb c e]
  have hh : Markiert ca g.sys.welt w' := ⟨⟨kc, hkc, hkc'⟩, hb, hfa, hob⟩
  refine
    { form := hi.form_set hk hf
      rollen_da := hi.rollen_da_set hk
      ende_lebt := fun j c h => ?_
      abbau := fun j cid' c h => ?_
      abbau_eindeutig := fun i j c h₁ h₂ => ?_
      offen_lebt := fun c h => hlebt c (fun e => ho (e ▸ h)) (hi.offen_lebt c h)
      passt := fun c k' h => ?_
      exiting_leer := fun c k' h hx' => ?_
      faden_ctx := fun i f h hb' => ?_
      faden_eindeutig := fun i j c h₁ h₂ => hi.faden_eindeutig i j c ((hL i c).mp h₁) ((hL j c).mp h₂)
      faden_da := fun c h => ?_
      frei_voll := fun i f h hp' => ?_
      gedeckt := fun a s hs hres => ?_ }
  all_goals dsimp only at *
  · have h := rolle_update_eq h nofun
    exact hlebt c (fun e' => he (e' ▸ hi.endeWartet_of_rolle h)) (hi.ende_lebt j c h)
  · by_cases e : j = k
    · subst e
      rw [Function.update_same] at h
      obtain ⟨rfl, rfl⟩ : cid' = cid ∧ c = ca := by
        rcases h with h | h
        · cases h
          exact ⟨rfl, rfl⟩
        · cases h
      exact ⟨by rwa [getObjectPtr_of_objects hob], _, hkc', rfl⟩
    · rw [Function.update_noteq e] at h
      obtain ⟨hp', k', hk', hx'⟩ := hi.abbau j cid' c h
      exact ⟨by rwa [getObjectPtr_of_objects hob], k', by rwa [hb c (hab j cid' c h)], hx'⟩
  · -- the new destroyer is the only one of `ca`, and the others keep theirs
    have hu : ∀ j, j ≠ k → (Function.update g.rollen k (.abbau cid ca) j).bautAb = some c →
        c ≠ ca ∧ (g.rollen j).bautAb = some c := fun j e hj => by
      rw [Function.update_noteq e] at hj
      obtain ⟨cid', hj'⟩ := Rolle.bautAb_eq_some hj
      exact ⟨hab j cid' c hj', hj⟩
    by_cases e₁ : i = k <;> by_cases e₂ : j = k
    · rw [e₁, e₂]
    · subst e₁
      rw [Function.update_same] at h₁
      cases h₁
      exact absurd rfl (hu j e₂ h₂).1
    · subst e₂
      rw [Function.update_same] at h₂
      cases h₂
      exact absurd rfl (hu i e₁ h₁).1
    · exact hi.abbau_eindeutig i j c (hu i e₁ h₁).2 (hu j e₂ h₂).2
  · obtain ⟨k₀, hk₀, rfl⟩ := hh.ctx_rueck h
    have := hi.passt c k₀ hk₀
    split <;> exact this
  · obtain ⟨k₀, hk₀, rfl⟩ := hh.ctx_rueck h
    by_cases e : c = ca
    · subst c
      rw [hkc] at hk₀
      cases hk₀
      rw [if_pos rfl]
      exact hn₀
    · simp only [e, ↓reduceIte] at hx' ⊢
      exact hi.exiting_leer c k₀ hk₀ hx'
  · rw [hfa] at h
    obtain ⟨k', hk'⟩ := hi.faden_ctx i f h hb'
    exact ⟨_, hh.ctx hk'⟩
  · obtain ⟨k', hk', hx'⟩ := h
    obtain ⟨k₀, hk₀, rfl⟩ := hh.ctx_rueck hk'
    split at hx'
    · cases hx'
    · obtain ⟨i, hl⟩ := hi.faden_da c ⟨k₀, hk₀, hx'⟩
      exact ⟨i, (hL i c).mpr hl⟩
  · rw [hfa] at h
    obtain ⟨k', hk', hn⟩ := hi.frei_voll i f h hp'
    exact ⟨_, hh.ctx hk', by split <;> exact hn⟩
  · rcases hi.gedeckt a s (hh.surface hs) hres with
      ⟨c, hc, k', hk', ht⟩ | ⟨c, ⟨j, r', hj⟩, k', hk', ht⟩ | ⟨i, f, hfi, hp'⟩ | ⟨i, c, k', hl, hk', hq⟩
    · exact .inl ⟨c, hc, k', by rwa [hb c fun e => ho (e ▸ hc)], ht⟩
    · have hjk : j ≠ k := by
        rintro rfl
        rw [hk] at hj
        cases hj
      refine .inr (.inl ⟨c, ⟨j, r', by rw [get?_set_anders _ (Ne.symm hjk)]; exact hj⟩, k', ?_, ht⟩)
      rwa [hb c fun e => he (e ▸ ⟨j, r', hj⟩)]
    · exact .inr (.inr (.inl ⟨i, f, by rw [hfa]; exact hfi, hp'⟩))
    · exact .inr (.inr (.inr ⟨i, c, _, (hL i c).mpr hl, hh.ctx hk', by split <;> exact hq⟩))

end Abbau

/-- **`nvDestroyContext` keeps the invariant** on an idle Context when no push or pop fails: it
    returns on an id that names nothing, or stops after setting `exiting`. -/
theorem FInv.nach_abbau (hi : FInv B g) {k cid : Nat} {s' : Sys}
    (hk : g.sys.klienten.get? k = some .bereit) (hr : g.rollen k = .ruhe)
    (ho : ∀ ca kc, getObjectPtr g.sys.welt.drv cid = some ca → sicht g.sys.welt ca = .context kc →
      kc.exiting = false ∧ kc.anzahl B.SURFACE_QUEUE_SIZE = 0 ∧ ca ∉ g.offen ∧
        ¬ EndeWartet g.sys ca)
    (hn : g.sys.nach k (nvDestroyContext cid g.sys.welt) = some s')
    (hst : ¬ StapelFehler g.sys.welt s'.welt) :
    FInv B (g.nach s' (.rufe k (.DestroyContext cid))) := by
  rcases Sys.nach_some hn with ⟨_, w', he, rfl⟩ | ⟨_, w', r, he, rfl⟩
  · rw [GSys.nach_rufe_fertig hk hr]
    rcases nvDestroyContext_fertig he with ⟨-, rfl⟩ | ⟨w₁, -, hs, rfl⟩
    · exact hi.klient hk hr trivial
    · exact absurd hs hst
  obtain ⟨ca, kc, hp, rfl, hkc, hkc', hb, hf, hob, hr'⟩ := nvDestroyContext_halt he
  obtain ⟨-, -, hno, hew⟩ := ho ca kc hp hkc
  have e₂ : rolleBeimRuf g.sys.welt (.DestroyContext cid) = .abbau cid ca := by
    simp only [rolleBeimRuf, hp]
  rw [GSys.nach_rufe_halt hk, e₂]
  exact hi.markiert hk hr hp ⟨⟨kc, hkc, hkc'⟩, hb, hf, hob⟩
    (fun kc' h => let ⟨h₁, h₂, _⟩ := ho ca kc' hp h; ⟨h₁, h₂⟩) hno hew ⟨rfl, hr'⟩

/-! ## 6. `nvCreateContext` -/

theorem get?_concat_alt {l : List α} {i : Nat} {y : α} (x : α) (h : l.get? i = some y) :
    (l ++ [x]).get? i = some y := by
  rw [List.get?_eq_getElem?, List.getElem?_append_left (List.get?_eq_some.mp h).1,
    ← List.get?_eq_getElem?, h]

theorem get?_concat {l : List α} {i : Nat} {x y : α} (h : (l ++ [x]).get? i = some y) :
    l.get? i = some y ∨ i = l.length ∧ y = x := by
  rw [List.get?_eq_getElem?] at h
  rcases Nat.lt_or_ge i l.length with hi | hi
  · rw [List.getElem?_append_left hi] at h
    exact .inl (by rwa [List.get?_eq_getElem?])
  · rw [List.getElem?_append_right hi] at h
    obtain ⟨hlt, hy⟩ := List.getElem?_eq_some_iff.mp h
    simp only [List.length_singleton] at hlt
    exact .inr ⟨by omega, by simpa using hy.symm⟩

section Anlegen

variable {b : Nat} {w w' : Welt}

theorem MitContext.ctx (h : MitContext b w w') {c : Nat} {k : KBlick} (hc : sicht w c = .context k) :
    sicht w' c = .context k := by
  rw [h.2.2.1 c (by rintro rfl; rw [h.1] at hc; cases hc), hc]

theorem MitContext.ctx_rueck (h : MitContext b w w') {c : Nat} {k : KBlick}
    (hc : sicht w' c = .context k) : c = b ∧ k = KBlick.neu ∨ sicht w c = .context k := by
  by_cases e : c = b
  · subst e
    rw [h.2.1] at hc
    cases hc
    exact .inl ⟨rfl, rfl⟩
  · rw [h.2.2.1 c e] at hc
    exact .inr hc

theorem MitContext.faden (h : MitContext b w w') {i : Nat} {f : ResolveFaden}
    (hf : w'.faeden.get? i = some f) :
    w.faeden.get? i = some f ∨ i = w.faeden.length ∧ f = ⟨b, .start⟩ := by
  rw [h.2.2.2.1] at hf
  exact get?_concat hf

theorem MitContext.laeuft (h : MitContext b w w') {i c : Nat} (hl : Laeuft w i c) : Laeuft w' i c :=
  let ⟨f, hf, hc, hp⟩ := hl
  ⟨f, by rw [h.2.2.2.1]; exact get?_concat_alt _ hf, hc, hp⟩

theorem MitContext.laeuft_rueck (h : MitContext b w w') {i c : Nat} (hl : Laeuft w' i c) :
    Laeuft w i c ∨ i = w.faeden.length ∧ c = b := by
  obtain ⟨f, hf, rfl, hp⟩ := hl
  rcases h.faden hf with hf | ⟨rfl, rfl⟩
  · exact .inl ⟨f, hf, rfl, hp⟩
  · exact .inr ⟨rfl, rfl⟩

/-- **`nvCreateContext` adding a Context keeps the invariant**: its ring is empty and its thread
    is the only one that runs for it. -/
theorem FInv.mitContext (hN : 0 < B.SURFACE_QUEUE_SIZE) (hi : FInv B g)
    (h : MitContext b g.sys.welt w') : FInv B ⟨⟨w', g.sys.klienten⟩, g.offen, g.rollen⟩ := by
  have hlebt : ∀ c, Lebt g.sys.welt c → Lebt w' c := fun c ⟨k, hk, hx⟩ => ⟨k, h.ctx hk, hx⟩
  -- no thread of the old world runs for the address the new Context takes
  have hnb : ∀ j, ¬ Laeuft g.sys.welt j b := fun j ⟨f, hf, hc, hp⟩ => by
    obtain ⟨k, hk⟩ := hi.faden_ctx j f hf hp
    rw [hc, h.1] at hk
    cases hk
  refine
    { form := hi.form
      rollen_da := hi.rollen_da
      ende_lebt := fun j c hj => hlebt c (hi.ende_lebt j c hj)
      abbau := fun j cid c hj => ?_
      abbau_eindeutig := hi.abbau_eindeutig
      offen_lebt := fun c hc => hlebt c (hi.offen_lebt c hc)
      passt := fun c k hk => ?_
      exiting_leer := fun c k hk hx => ?_
      faden_ctx := fun i f hf hp => ?_
      faden_eindeutig := fun i j c h₁ h₂ => ?_
      faden_da := fun c hc => ?_
      frei_voll := fun i f hf hp => ?_
      gedeckt := fun a s hs hres => ?_ }
  · obtain ⟨hp, k, hk, hx⟩ := hi.abbau j cid c hj
    refine ⟨?_, k, h.ctx hk, hx⟩
    rw [getObjectPtr_eq] at hp ⊢
    obtain ⟨o, ho, rfl⟩ := Option.map_eq_some'.mp hp
    rw [h.2.2.2.2 _ o ho]
    rfl
  · rcases h.ctx_rueck hk with ⟨-, rfl⟩ | hk
    · exact ⟨hN, hN⟩
    · exact hi.passt c k hk
  · rcases h.ctx_rueck hk with ⟨-, rfl⟩ | hk
    · cases hx
    · exact hi.exiting_leer c k hk hx
  · rcases h.faden hf with hf | ⟨-, rfl⟩
    · obtain ⟨k, hk⟩ := hi.faden_ctx i f hf hp
      exact ⟨k, h.ctx hk⟩
    · exact ⟨_, h.2.1⟩
  · rcases h.laeuft_rueck h₁ with h₁ | ⟨rfl, rfl⟩ <;> rcases h.laeuft_rueck h₂ with h₂ | ⟨rfl, e⟩
    · exact hi.faden_eindeutig i j c h₁ h₂
    · exact absurd (e ▸ h₁) (hnb i)
    · exact absurd h₂ (hnb j)
    · rfl
  · obtain ⟨k, hk, hx⟩ := hc
    rcases h.ctx_rueck hk with ⟨e, -⟩ | hk
    · refine ⟨g.sys.welt.faeden.length, ⟨b, .start⟩, ?_, e.symm, nofun⟩
      rw [h.2.2.2.1, List.get?_eq_getElem?]
      exact List.getElem?_concat_length _ _
    · obtain ⟨i, hl⟩ := hi.faden_da c ⟨k, hk, hx⟩
      exact ⟨i, h.laeuft hl⟩
  · rcases h.faden hf with hf | ⟨-, rfl⟩
    · obtain ⟨k, hk, hn⟩ := hi.frei_voll i f hf hp
      exact ⟨k, h.ctx hk, hn⟩
    · cases hp
  · have hab : a ≠ b := by
      rintro rfl
      rw [h.2.1] at hs
      cases hs
    rcases hi.gedeckt a s (by rwa [← h.2.2.1 a hab]) hres with
      ⟨c, hc, k, hk, ht⟩ | ⟨c, hw, k, hk, ht⟩ | ⟨i, f, hf, hp⟩ | ⟨i, c, k, hl, hk, hq⟩
    · exact .inl ⟨c, hc, k, h.ctx hk, ht⟩
    · exact .inr (.inl ⟨c, hw, k, h.ctx hk, ht⟩)
    · exact .inr (.inr (.inl ⟨i, f, by rw [h.2.2.2.1]; exact get?_concat_alt _ hf, hp⟩))
    · exact .inr (.inr (.inr ⟨i, c, k, h.laeuft hl, h.ctx hk, hq⟩))

end Anlegen

/-- **`nvCreateContext` keeps the invariant** while the id its counter hands out is free. -/
theorem FInv.nach_anlegen (hN : 0 < B.SURFACE_QUEUE_SIZE) (hi : FInv B g) {k cfg : Nat}
    {pw ph n : Int} {rts : List Nat} {s' : Sys}
    (hk : g.sys.klienten.get? k = some .bereit) (hr : g.rollen k = .ruhe)
    (ho : (g.sys.welt.drv.nextObjId + 1) % idRaum ≠ VA_INVALID_ID ∧
      getObject g.sys.welt.drv ((g.sys.welt.drv.nextObjId + 1) % idRaum) = none)
    (hn : g.sys.nach k (nvCreateContext B cfg pw ph rts n g.sys.welt) = some s') :
    FInv B (g.nach s' (.rufe k (.CreateContext cfg pw ph rts n))) := by
  rcases Sys.nach_some hn with ⟨_, w', he, rfl⟩ | ⟨_, _, _, he, -⟩
  · rw [GSys.nach_rufe_fertig hk hr]
    rcases nvCreateContext_wirkung B ho.1 ho.2 he with hR | ⟨b, hb⟩
    · exact (hi.treu hR.treu).klient hk hr trivial
    · exact (hi.mitContext hN hb).klient hk hr trivial
  · exact absurd he (nvCreateContext_ohneHalt B _ _ _ _ _).kein_halt

/-! ## 7. Every call -/

/-- **Every call of a well-behaved client keeps the invariant** when no push or pop fails. -/
theorem FInv.nach_rufe (hN : 0 < B.SURFACE_QUEUE_SIZE) (hi : FInv B g) {k : Nat} {a : Aufruf}
    {s' : Sys} (hs : schritt B g.sys (.rufe k a) = some s') (he : Erlaubt B g (.rufe k a) s') :
    FInv B (g.nach s' (.rufe k a)) := by
  obtain ⟨hk, hn⟩ := schritt_rufe B hs
  have hr := (hi.form k _ hk).bereit
  obtain ⟨ho, hst⟩ := he
  rcases AufrufOrdentlich.cases ho with hE | ⟨_, _, _, _, _, rfl⟩ | ⟨_, _, rfl⟩ | ⟨_, rfl⟩ | ⟨_, rfl⟩
  · exact hi.nach_einfach hE hk hr hn
  · exact hi.nach_anlegen hN hk hr ho hn
  · exact hi.nach_beginn hk hr ho hn
  · exact hi.nach_ende hk hr ho hn hst
  · exact hi.nach_abbau hk hr ho hn hst

end NvdecVaapi
