/-
  File:      NvdecVaapi/Pipeline/Weiter.lean
  Subject:   The resumptions of the client threads keep the pipeline's invariant; with the calls
             and the steps of the resolve threads, every step of a well-behaved run does.

  * `FInv.eingereiht`, `FInv.nach_mutex` -- `nvEndPicture` under `resolveMutex` appends its render
    target to the ring and wakes the resolve thread;
  * `FInv.zumJoin` -- `nvDestroyContext` signals and enters its join;
  * `FInv.geloescht` -- after the join the Context is deleted;
  * `FInv.nach_weiter`, `FInv.nach` -- every step;
  * `fInv_erreichbar` -- **the invariant holds in every state a well-behaved run reaches**.
-/
import NvdecVaapi.Pipeline.Aufrufe

namespace NvdecVaapi

variable {B : Bau} {g : GSys}

/-! ## 1. A client at the condition of a surface -/

/-- A client that waits on the condition of a surface is at rest as far as the pipeline is
    concerned. -/
theorem Rolle.Form.bedingung {ρ : Rolle} {a : Nat} {r : Welt → Ausgang VAStatus}
    (h : ρ.Form B (.haelt (.bedingung a) r)) : ρ = .ruhe ∧ Ruhig r := by
  cases ρ with
  | ruhe => exact ⟨rfl, h.2⟩
  | ende _ => obtain ⟨h, -⟩ := h; cases h
  | abbau _ _ => obtain ⟨h, -⟩ := h; cases h
  | join _ _ => obtain ⟨h, -⟩ := h; cases h

/-! ## 2. The enqueue under `resolveMutex` -/

/-- `w'` is `w` with the render target of the Context at `ca` appended to its ring. -/
def Eingereiht (N ca : Nat) (w w' : Welt) : Prop :=
  ∃ kc, sicht w ca = .context kc ∧
    sicht w' ca = .context (einreihen N kc.ctx kc.renderTarget).kblick ∧
    (∀ b, b ≠ ca → sicht w' b = sicht w b) ∧ w'.faeden = w.faeden ∧ w'.drv.objects = w.drv.objects

/-- **The enqueue of `nvEndPicture` keeps the invariant** when the ring has room: the render
    target it held passes into the ring of a Context whose thread runs. -/
theorem FInv.eingereiht (hi : FInv B g) {k ca : Nat} {r : Welt → Ausgang VAStatus} {w' : Welt}
    (hk : g.sys.klienten.get? k = some (.haelt (.mutex ca) r)) (hρ : g.rollen k = .ende ca)
    (h : Eingereiht B.SURFACE_QUEUE_SIZE ca g.sys.welt w')
    (hn : ∀ kc, sicht g.sys.welt ca = .context kc →
      kc.anzahl B.SURFACE_QUEUE_SIZE + 1 < B.SURFACE_QUEUE_SIZE) :
    FInv B ⟨⟨w', g.sys.klienten.set k .bereit⟩, g.offen, Function.update g.rollen k .ruhe⟩ := by
  obtain ⟨kc, hkc, hkc', hb, hf, hob⟩ := h
  obtain ⟨hP, hA, hS⟩ := kblick_einreihen (hi.passt ca kc hkc) (hn kc hkc) kc.renderTarget
  have hl : Lebt g.sys.welt ca := hi.ende_lebt k ca hρ
  have hx₀ : kc.exiting = false := by
    obtain ⟨k', hk', hx⟩ := hl
    rw [hkc] at hk'
    cases hk'
    exact hx
  have hL : ∀ i c, Laeuft w' i c ↔ Laeuft g.sys.welt i c := fun i c => by unfold Laeuft; rw [hf]
  -- every Context keeps its `exiting` and render target, and its ring can only grow
  have hvor : ∀ c k', sicht g.sys.welt c = .context k' → ∃ k'', sicht w' c = .context k'' ∧
      k''.exiting = k'.exiting ∧ k''.renderTarget = k'.renderTarget ∧
      k'.anzahl B.SURFACE_QUEUE_SIZE ≤ k''.anzahl B.SURFACE_QUEUE_SIZE ∧
      ∀ x, x ∈ k'.schlange B.SURFACE_QUEUE_SIZE → x ∈ k''.schlange B.SURFACE_QUEUE_SIZE :=
    fun c k' hc => by
      by_cases e : c = ca
      · subst e
        rw [hkc] at hc
        cases hc
        exact ⟨_, hkc', rfl, rfl, by omega, fun x hx => by rw [hS]; exact List.mem_append_left _ hx⟩
      · exact ⟨k', by rw [hb c e, hc], rfl, rfl, le_rfl, fun _ => id⟩
  have hrueck : ∀ c k'', sicht w' c = .context k'' →
      c = ca ∧ k'' = (einreihen B.SURFACE_QUEUE_SIZE kc.ctx kc.renderTarget).kblick ∨
        c ≠ ca ∧ sicht g.sys.welt c = .context k'' := fun c k'' hc => by
    by_cases e : c = ca
    · subst e
      rw [hkc'] at hc
      cases hc
      exact .inl ⟨rfl, rfl⟩
    · rw [hb c e] at hc
      exact .inr ⟨e, hc⟩
  have hlebt : ∀ c, Lebt g.sys.welt c → Lebt w' c := fun c ⟨k', hk', hx⟩ =>
    let ⟨k'', hk'', he, _⟩ := hvor c k' hk'
    ⟨k'', hk'', he.trans hx⟩
  refine
    { form := hi.form_set hk trivial
      rollen_da := hi.rollen_da_set hk
      ende_lebt := fun j c h => hlebt c (hi.ende_lebt j c (rolle_update_eq h nofun))
      abbau := fun j cid c h => ?_
      abbau_eindeutig := fun i j c h₁ h₂ =>
        hi.abbau_eindeutig i j c (bautAb_update h₁ rfl).2 (bautAb_update h₂ rfl).2
      offen_lebt := fun c h => hlebt c (hi.offen_lebt c h)
      passt := fun c k' h => ?_
      exiting_leer := fun c k' h hx => ?_
      faden_ctx := fun i f h hp => ?_
      faden_eindeutig := fun i j c h₁ h₂ => hi.faden_eindeutig i j c ((hL i c).mp h₁) ((hL j c).mp h₂)
      faden_da := fun c h => ?_
      frei_voll := fun i f h hp => ?_
      gedeckt := fun a s hs hres => ?_ }
  all_goals dsimp only at *
  · obtain ⟨hp, k', hk', hx⟩ := hi.abbau j cid c (abbau_update h rfl)
    obtain ⟨k'', hk'', he, -⟩ := hvor c k' hk'
    exact ⟨by rwa [getObjectPtr_of_objects hob], k'', hk'', he.trans hx⟩
  · rcases hrueck c k' h with ⟨-, rfl⟩ | ⟨-, h⟩
    · exact hP
    · exact hi.passt c k' h
  · rcases hrueck c k' h with ⟨-, rfl⟩ | ⟨-, h⟩
    · rw [show (einreihen B.SURFACE_QUEUE_SIZE kc.ctx kc.renderTarget).kblick.exiting = kc.exiting
        from rfl, hx₀] at hx
      cases hx
    · exact hi.exiting_leer c k' h hx
  · rw [hf] at h
    obtain ⟨k', hk'⟩ := hi.faden_ctx i f h hp
    obtain ⟨k'', hk'', -⟩ := hvor _ k' hk'
    exact ⟨k'', hk''⟩
  · obtain ⟨k'', hk'', hx⟩ := h
    obtain ⟨i, hi'⟩ := hi.faden_da c (by
      rcases hrueck c k'' hk'' with ⟨rfl, -⟩ | ⟨-, h⟩
      · exact hl
      · exact ⟨k'', h, hx⟩)
    exact ⟨i, (hL i c).mpr hi'⟩
  · rw [hf] at h
    obtain ⟨k', hk', hn'⟩ := hi.frei_voll i f h hp
    obtain ⟨k'', hk'', -, -, hle, -⟩ := hvor _ k' hk'
    exact ⟨k'', hk'', by omega⟩
  · have hac : a ≠ ca := by
      rintro rfl
      rw [hkc'] at hs
      cases hs
    rcases hi.gedeckt a s (by rwa [← hb a hac]) hres with
      ⟨c, hc, k', hk', ht⟩ | ⟨c, ⟨j, r', hj⟩, k', hk', ht⟩ | ⟨i, f, hfi, hp⟩ | ⟨i, c, k', hl', hk', hq⟩
    · obtain ⟨k'', hk'', -, he, -⟩ := hvor c k' hk'
      exact .inl ⟨c, hc, k'', hk'', he.trans ht⟩
    · by_cases e : j = k
      · -- the client that enqueued it: the render target now waits in the ring of `ca`
        subst e
        rw [hk] at hj
        cases hj
        rw [hkc] at hk'
        cases hk'
        obtain ⟨i, hl'⟩ := hi.faden_da ca hl
        refine .inr (.inr (.inr ⟨i, ca, _, (hL i ca).mpr hl', hkc', ?_⟩))
        rw [hS, ← ht]
        exact List.mem_append_right _ (List.mem_singleton_self _)
      · obtain ⟨k'', hk'', -, he, -⟩ := hvor c k' hk'
        refine .inr (.inl ⟨c, ⟨j, r', ?_⟩, k'', hk'', he.trans ht⟩)
        rw [get?_set_anders _ (Ne.symm e)]
        exact hj
    · exact .inr (.inr (.inl ⟨i, f, by rw [hf]; exact hfi, hp⟩))
    · obtain ⟨k'', hk'', -, -, -, hm⟩ := hvor c k' hk'
      exact .inr (.inr (.inr ⟨i, c, k'', (hL i c).mpr hl', hk'', hm _ hq⟩))

/-- **`nvEndPicture` resumed at `resolveMutex` keeps the invariant** when the ring has room. -/
theorem FInv.nach_mutex (hi : FInv B g) {k ca : Nat} {r : Welt → Ausgang VAStatus} {s' : Sys}
    (hk : g.sys.klienten.get? k = some (.haelt (.mutex ca) r))
    (hn : g.sys.nach k (r g.sys.welt) = some s')
    (ho : ∃ kc, sicht g.sys.welt ca = .context kc ∧
      kc.anzahl B.SURFACE_QUEUE_SIZE + 1 < B.SURFACE_QUEUE_SIZE) :
    FInv B ⟨s', g.offen, Function.update g.rollen k .ruhe⟩ := by
  have hρ := (hi.form k _ hk).mutex
  have hf := hi.form k _ hk
  rw [hρ] at hf
  obtain ⟨-, st, hr⟩ := hf
  rw [hr] at hn
  rcases Sys.nach_some hn with ⟨_, w', he, rfl⟩ | ⟨_, _, _, he, -⟩
  · obtain ⟨kc, hkc, hkc', hb, hf, hob⟩ := reiheEinUnterMutex_fertig B he
    obtain ⟨kc', hkc'', hcap⟩ := ho
    rw [hkc] at hkc''
    cases hkc''
    have hw : w' = { { w' with faeden := g.sys.welt.faeden } with
        faeden := weckeErsten ca g.sys.welt.faeden } := by
      rw [← hf]
    rw [hw]
    refine (hi.eingereiht hk hρ (⟨kc, hkc, hkc', hb, rfl, hob⟩ : Eingereiht B.SURFACE_QUEUE_SIZE ca
      g.sys.welt { w' with faeden := g.sys.welt.faeden }) fun kc' h => ?_).geweckt
      (geweckt_weckeErsten ca _)
    rw [hkc] at h
    cases h
    exact hcap
  · exact absurd he (reiheEinUnterMutex_kein_halt B)

/-! ## 3. The signal and the join of `nvDestroyContext` -/

/-- **The signal of `nvDestroyContext` keeps the invariant**: its client enters the join of the
    Context it destroys. -/
theorem FInv.zumJoin (hi : FInv B g) {k cid ca : Nat} {r r' : Welt → Ausgang VAStatus}
    (hk : g.sys.klienten.get? k = some (.haelt .frei r)) (hρ : g.rollen k = .abbau cid ca)
    (hf : (Rolle.join cid ca).Form B (.haelt (.join ca) r')) :
    FInv B ⟨⟨g.sys.welt, g.sys.klienten.set k (.haelt (.join ca) r')⟩, g.offen,
      Function.update g.rollen k (.join cid ca)⟩ := by
  have hb : ∀ j, (Function.update g.rollen k (.join cid ca) j).bautAb = (g.rollen j).bautAb :=
    fun j => by
      by_cases e : j = k
      · subst e
        rw [Function.update_same, hρ]
        rfl
      · rw [Function.update_noteq e]
  refine
    { hi with
      form := hi.form_set hk hf
      rollen_da := hi.rollen_da_set hk
      ende_lebt := fun j c h => hi.ende_lebt j c (rolle_update_eq h nofun)
      abbau := fun j cid' c h => ?_
      abbau_eindeutig := fun i j c h₁ h₂ => hi.abbau_eindeutig i j c ((hb i).symm.trans h₁)
        ((hb j).symm.trans h₂)
      gedeckt := fun a s hs hres => ?_ }
  all_goals dsimp only at *
  · by_cases e : j = k
    · subst e
      rw [Function.update_same] at h
      obtain ⟨rfl, rfl⟩ : cid' = cid ∧ c = ca := by
        rcases h with h | h
        · cases h
        · cases h
          exact ⟨rfl, rfl⟩
      exact hi.abbau j _ _ (.inl hρ)
    · rw [Function.update_noteq e] at h
      exact hi.abbau j cid' c h
  · rcases hi.gedeckt a s hs hres with h | ⟨c, ⟨j, r₁, hj⟩, hc⟩ | h | h
    · exact .inl h
    · have hjk : j ≠ k := by
        rintro rfl
        rw [hk] at hj
        cases hj
      exact .inr (.inl ⟨c, ⟨j, r₁, by rw [get?_set_anders _ (Ne.symm hjk)]; exact hj⟩, hc⟩)
    · exact .inr (.inr (.inl h))
    · exact .inr (.inr (.inr h))

/-- **The deletion after the join keeps the invariant** once every resolve thread of the Context
    has returned: the Context had `exiting` set, so nothing the invariant reads refers to it. -/
theorem FInv.geloescht (hi : FInv B g) {k cid ca : Nat} {r : Welt → Ausgang VAStatus}
    (hk : g.sys.klienten.get? k = some (.haelt (.join ca) r)) (hρ : g.rollen k = .join cid ca)
    (hend : ∀ i f, g.sys.welt.faeden.get? i = some f → f.ctx = ca → f.pc = .beendet) :
    FInv B ⟨⟨{ g.sys.welt with drv := deleteObject g.sys.welt.drv cid },
      g.sys.klienten.set k .bereit⟩, g.offen, Function.update g.rollen k .ruhe⟩ := by
  obtain ⟨hp, kc, hkc, hx⟩ := hi.abbau k cid ca (.inr hρ)
  obtain ⟨o, ho, rfl⟩ := Option.map_eq_some'.mp ((getObjectPtr_eq _ _).symm.trans hp)
  have hdel := sicht_deleteObject ho
  -- the addresses other than the deleted Context's read as before
  have hsame : ∀ b, b ≠ o.obj →
      sicht { g.sys.welt with drv := deleteObject g.sys.welt.drv cid } b = sicht g.sys.welt b :=
    fun b e => by rw [hdel, if_neg e]
  have hne : ∀ c, Lebt g.sys.welt c → c ≠ o.obj := by
    rintro c ⟨k', hk', hx'⟩ rfl
    rw [hkc] at hk'
    cases hk'
    rw [hx] at hx'
    cases hx'
  have hlebt : ∀ c, Lebt g.sys.welt c →
      Lebt { g.sys.welt with drv := deleteObject g.sys.welt.drv cid } c := fun c hc => by
    rwa [Lebt, hsame c (hne c hc)]
  have hctx : ∀ c k', sicht { g.sys.welt with drv := deleteObject g.sys.welt.drv cid } c =
      .context k' → c ≠ o.obj ∧ sicht g.sys.welt c = .context k' := fun c k' h => by
    by_cases e : c = o.obj
    · rw [hdel, if_pos e] at h
      cases h
    · exact ⟨e, by rwa [← hsame c e]⟩
  have hlauf : ∀ i c, Laeuft g.sys.welt i c → c ≠ o.obj := by
    rintro i c ⟨f, hf, rfl, hp'⟩ e
    exact hp' (hend i f hf e)
  refine
    { form := hi.form_set hk trivial
      rollen_da := hi.rollen_da_set hk
      ende_lebt := fun j c h => hlebt c (hi.ende_lebt j c (rolle_update_eq h nofun))
      abbau := fun j cid' c h => ?_
      abbau_eindeutig := fun i j c h₁ h₂ =>
        hi.abbau_eindeutig i j c (bautAb_update h₁ rfl).2 (bautAb_update h₂ rfl).2
      offen_lebt := fun c h => hlebt c (hi.offen_lebt c h)
      passt := fun c k' h => hi.passt c k' (hctx c k' h).2
      exiting_leer := fun c k' h => hi.exiting_leer c k' (hctx c k' h).2
      faden_ctx := fun i f h hp' => ?_
      faden_eindeutig := hi.faden_eindeutig
      faden_da := fun c ⟨k', hk', hx'⟩ => hi.faden_da c ⟨k', (hctx c k' hk').2, hx'⟩
      frei_voll := fun i f h hp' => ?_
      gedeckt := fun a s hs hres => ?_ }
  all_goals dsimp only at *
  · by_cases e : j = k
    · subst e
      rw [Function.update_same] at h
      rcases h with h | h <;> cases h
    · rw [Function.update_noteq e] at h
      obtain ⟨hp', k', hk', hx'⟩ := hi.abbau j cid' c h
      -- `c` has a destroyer of its own, so it is not `o.obj`, and `cid'` is not `cid`
      have hc : c ≠ o.obj := fun hc => e (hi.abbau_eindeutig j k c
        (by rcases h with h | h <;> rw [h] <;> rfl) (by rw [hρ, hc]; rfl))
      have hcid : cid' ≠ cid := by
        rintro rfl
        rw [hp] at hp'
        exact hc (Option.some.inj hp').symm
      refine ⟨?_, k', by rwa [hsame c hc], hx'⟩
      rw [getObjectPtr_eq, getObject_deleteObject_ne hcid, ← getObjectPtr_eq]
      exact hp'
  · obtain ⟨k', hk'⟩ := hi.faden_ctx i f h hp'
    refine ⟨k', by rwa [hsame _ fun e => hp' (hend i f h e)]⟩
  · have hb : f.pc ≠ .beendet := by rw [hp']; exact nofun
    obtain ⟨k', hk', hn⟩ := hi.frei_voll i f h hp'
    exact ⟨k', by rwa [hsame _ fun e => hb (hend i f h e)], hn⟩
  · have hao : a ≠ o.obj := by
      rintro rfl
      rw [hdel, if_pos rfl] at hs
      cases hs
    rcases hi.gedeckt a s (by rwa [← hsame a hao]) hres with
      ⟨c, hc, k', hk', ht⟩ | ⟨c, ⟨j, r₁, hj⟩, k', hk', ht⟩ | ⟨i, f, hfi, hp'⟩ | ⟨i, c, k', hl, hk', hq⟩
    · exact .inl ⟨c, hc, k', by rwa [hsame c (hne c (hi.offen_lebt c hc))], ht⟩
    · have hjk : j ≠ k := by
        rintro rfl
        rw [hk] at hj
        cases hj
      have hc := hne c (hi.endeWartet_lebt ⟨j, r₁, hj⟩)
      exact .inr (.inl ⟨c, ⟨j, r₁, by rw [get?_set_anders _ (Ne.symm hjk)]; exact hj⟩, k',
        by rwa [hsame c hc], ht⟩)
    · exact .inr (.inr (.inl ⟨i, f, hfi, hp'⟩))
    · exact .inr (.inr (.inr ⟨i, c, k', hl, by rwa [hsame c (hlauf i c hl)], hq⟩))

/-! ## 4. Every step -/

/-- **A resumed client keeps the invariant** under the protocol: a client at rest goes on in the
    frame, `nvEndPicture` enqueues with room in the ring, `nvDestroyContext` signals, and its join
    returns only once the Context's thread has. -/
theorem FInv.nach_weiter (hi : FInv B g) {k : Nat} {s' : Sys}
    (hs : schritt B g.sys (.weiter k) = some s') (ho : Ordentlich B g (.weiter k)) :
    FInv B (g.nach s' (.weiter k)) := by
  obtain ⟨hh, r, hk, hn, hc⟩ := schritt_weiter B hs
  have hf := hi.form k _ hk
  simp only [Ordentlich, hk] at ho
  simp only [GSys.nach]
  cases hρ : g.rollen k with
  | ruhe =>
    rw [hρ] at hf
    simp only [hρ]
    rw [← hρ, Function.update_eq_self]
    obtain ⟨-, hr⟩ := hf
    rcases Sys.nach_some hn with ⟨_, w', he, rfl⟩ | ⟨_, _, _, he, -⟩
    · exact (hi.treu (hr.rel he).treu).klient hk hρ trivial
    · exact absurd he hr.kein_halt
  | ende ca =>
    rw [hρ] at hf
    simp only [hρ]
    obtain ⟨rfl, -⟩ := hf
    exact hi.nach_mutex hk hn ho
  | abbau cid ca =>
    rw [hρ] at hf
    simp only [hρ]
    obtain ⟨rfl, hr⟩ := hf
    rw [hr, destroyContextNachExiting_apply] at hn
    cases hn
    exact (hi.geweckt (geweckt_weckeErsten ca _)).zumJoin hk hρ ⟨rfl, fun _ => rfl⟩
  | join cid ca =>
    rw [hρ] at hf
    simp only [hρ]
    obtain ⟨rfl, hr⟩ := hf
    rw [hr] at hn
    rcases Sys.nach_some hn with ⟨_, w', he, rfl⟩ | ⟨_, _, _, he, -⟩
    · obtain ⟨w₁, hg, rfl⟩ := destroyContextNachJoin_fertig he
      exact (hi.treu hg.treu).geloescht hk hρ fun i f h => ho i f (by rw [← hg.2.1]; exact h)
    · exact absurd he destroyContextNachJoin_kein_halt

/-- **Every step allowed by the protocol keeps the invariant.** -/
theorem FInv.nach (hN : 0 < B.SURFACE_QUEUE_SIZE) (hi : FInv B g) {c : Wahl} {s' : Sys}
    (hs : schritt B g.sys c = some s') (he : Erlaubt B g c s') : FInv B (g.nach s' c) := by
  cases c with
  | rufe k a => exact hi.nach_rufe hN hs he
  | weiter k => exact hi.nach_weiter hs he.1
  | faden i => exact hi.nach_faden hs he.2
  | spuriosKlient k =>
    obtain ⟨a, r, hk, rfl⟩ := schritt_spuriosKlient B hs
    obtain ⟨hρ, hr⟩ := (hi.form k _ hk).bedingung
    exact hi.klient hk hρ ⟨.inl rfl, hr⟩
  | spuriosFaden i =>
    obtain ⟨c, hf, rfl⟩ := schritt_spuriosFaden B hs
    exact hi.geweckt (geweckt_set hf)

/-- **The invariant holds in every state a well-behaved run reaches.** -/
theorem fInv_erreichbar (hN : 0 < B.SURFACE_QUEUE_SIZE) (h : GErreichbar B (Erlaubt B) g) :
    FInv B g := by
  induction h with
  | anfang => exact fInv_anfang B _ _ _ _ _
  | schritt _ hs he ih => exact ih.nach hN hs he

end NvdecVaapi
