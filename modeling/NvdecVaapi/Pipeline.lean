/-
  File:      NvdecVaapi/Pipeline.lean
  Subject:   The decode pipeline as a protocol between client threads, the driver and the resolve
             threads: the ghost state a client's history adds to `Sys`, what a well-behaved client
             asks of each step, and the invariant that ties every in-flight surface to the party
             that will resolve it.

  * `Rolle`, `GSys`, `GSys.nach` -- the Contexts with an open picture (a successful
    `nvBeginPicture` not yet followed by `nvEndPicture`) and what each client thread is doing,
    carried along the steps of `Sys`;
  * `Ordentlich`, `Erlaubt` -- the client's side of the protocol (the pipeline's calls only; a
    Context begun only without an open picture, ended only with one, destroyed only when idle;
    `nvEndPicture` let into `resolveMutex` only with room in the ring; the timed join returning
    only once the thread has ended; `nvCreateContext` only while the counter's next id is free),
    and the vendor's side (no failed `cuCtxPushCurrent` or `cuCtxPopCurrent`);
  * `GErreichbar` -- the ghost states a run reaches under a protocol, `GErreichbar.erreichbar`;
  * `Gedeckt` -- an in-flight surface is the render target of an open picture or of an
    `nvEndPicture` waiting for `resolveMutex`, is taken by a resolve thread, or is pending in
    the ring of a Context whose thread runs;
  * `FInv`, `fInv_anfang` -- the invariant and its start;
  * `Treu`, `FInv.treu` -- a change of the world the invariant cannot see keeps it;
    `FInv.klient` -- so does a client that stays at rest.
-/
import NvdecVaapi.Schritte

namespace NvdecVaapi

/-! ## 1. Ghost state -/

/-- What a client thread is doing, as far as the pipeline is concerned: at rest or waiting on a
    surface; inside `nvEndPicture` before `resolveMutex` of the Context at `ca`; inside
    `nvDestroyContext` of the Context `cid` at `ca`, before its signal or in its join. -/
inductive Rolle where
  | ruhe
  | ende (ca : Nat)
  | abbau (cid ca : Nat)
  | join (cid ca : Nat)
  deriving DecidableEq

/-- The system with the ghost state of its clients' history: the Contexts (by address) with an
    open picture, and each client's role. -/
structure GSys where
  sys : Sys
  offen : List Nat
  rollen : Nat → Rolle

/-- The start: no picture open, every client at rest. -/
def GSys.anfang (s : Sys) : GSys := ⟨s, [], fun _ => .ruhe⟩

/-- The open pictures after a call: a successful `nvBeginPicture` opens one on its Context,
    `nvEndPicture` closes the one on its Context. -/
def offenNach (g : GSys) : Aufruf → List Nat
  | .BeginPicture cid sid =>
    match getObjectPtr g.sys.welt.drv cid with
    | some ca =>
      if (nvBeginPicture cid sid g.sys.welt).wert = some .success then ca :: g.offen else g.offen
    | none => g.offen
  | .EndPicture cid =>
    match getObject g.sys.welt.drv cid with
    | some o => g.offen.filter (· ≠ o.obj)
    | none => g.offen
  | _ => g.offen

/-- The role of a client whose call stopped inside the driver. -/
def rolleBeimRuf (w : Welt) : Aufruf → Rolle
  | .EndPicture cid =>
    match getObject w.drv cid with
    | some o => .ende o.obj
    | none => .ruhe
  | .DestroyContext cid =>
    match getObjectPtr w.drv cid with
    | some ca => .abbau cid ca
    | none => .ruhe
  | _ => .ruhe

/-- Whether a client is inside a call. -/
def Klient.imRuf : Klient → Bool
  | .bereit => false
  | .haelt _ _ => true

/-- The ghost state after a step to `s'`: a call opens or closes pictures and gives its client the
    role of the call when it stopped inside the driver; the signal of `nvDestroyContext` leads to
    its join; every other resumption returns the client to rest. -/
def GSys.nach (g : GSys) (s' : Sys) : Wahl → GSys
  | .rufe k a =>
    ⟨s', offenNach g a, Function.update g.rollen k
      (if (s'.klienten.get? k).any Klient.imRuf then rolleBeimRuf g.sys.welt a else .ruhe)⟩
  | .weiter k =>
    ⟨s', g.offen, Function.update g.rollen k
      (match g.rollen k with
       | .abbau cid ca => .join cid ca
       | _ => .ruhe)⟩
  | _ => ⟨s', g.offen, g.rollen⟩

@[simp] theorem GSys.nach_sys (g : GSys) (s' : Sys) (c : Wahl) : (g.nach s' c).sys = s' := by
  cases c <;> rfl

/-! ## 2. The protocol -/

section Protokoll

variable (B : Bau)

/-- A live Context that is not being destroyed. -/
def Lebt (w : Welt) (ca : Nat) : Prop := ∃ k, sicht w ca = .context k ∧ k.exiting = false

/-- A client inside `nvEndPicture` waits for `resolveMutex` of the Context at `ca`. -/
def EndeWartet (s : Sys) (ca : Nat) : Prop := ∃ k r, s.klienten.get? k = some (.haelt (.mutex ca) r)

/-- The calls of the decode pipeline and of its setup. -/
def Aufruf.imPipeline : Aufruf → Bool
  | .CreateConfig .. | .CreateSurfaces .. | .CreateSurfaces2 .. | .CreateContext ..
  | .DestroyContext _ | .CreateBuffer .. | .MapBuffer _ | .UnmapBuffer _ | .BeginPicture ..
  | .RenderPicture .. | .EndPicture _ | .SyncSurface _ | .CreateImage .. | .GetImage .. => true
  | _ => false

/-- What a client of the pipeline makes sure of before a call, in the state the call starts in. -/
def AufrufOrdentlich (g : GSys) : Aufruf → Prop
  | .CreateContext .. =>
    (g.sys.welt.drv.nextObjId + 1) % idRaum ≠ VA_INVALID_ID ∧
      getObject g.sys.welt.drv ((g.sys.welt.drv.nextObjId + 1) % idRaum) = none
  | .BeginPicture cid _ =>
    ∃ ca, getObjectPtr g.sys.welt.drv cid = some ca ∧ Lebt g.sys.welt ca ∧ ca ∉ g.offen ∧
      ¬ EndeWartet g.sys ca
  | .EndPicture cid => ∃ o, getObject g.sys.welt.drv cid = some o ∧ o.obj ∈ g.offen
  | .DestroyContext cid =>
    ∀ ca k, getObjectPtr g.sys.welt.drv cid = some ca → sicht g.sys.welt ca = .context k →
      k.exiting = false ∧ k.anzahl B.SURFACE_QUEUE_SIZE = 0 ∧ ca ∉ g.offen ∧ ¬ EndeWartet g.sys ca
  | a => a.imPipeline = true

/-- What a well-behaved client asks of a step in the state `g` it starts in. -/
def Ordentlich (g : GSys) : Wahl → Prop
  | .rufe _ a => AufrufOrdentlich B g a
  | .weiter k =>
    match g.sys.klienten.get? k with
    | some (.haelt (.mutex ca) _) =>
      ∃ kc, sicht g.sys.welt ca = .context kc ∧
        kc.anzahl B.SURFACE_QUEUE_SIZE + 1 < B.SURFACE_QUEUE_SIZE
    | some (.haelt (.join ca) _) =>
      ∀ i f, g.sys.welt.faeden.get? i = some f → f.ctx = ca → f.pc = .beendet
    | _ => True
  | _ => True

/-- A step of a well-behaved client in which no push or pop of the CUDA context fails. -/
def Erlaubt (g : GSys) (c : Wahl) (s' : Sys) : Prop :=
  Ordentlich B g c ∧ ¬ StapelFehler g.sys.welt s'.welt

/-- The ghost states a run reaches from a start when `zul` allows each of its steps. -/
inductive GErreichbar (zul : GSys → Wahl → Sys → Prop) : GSys → Prop
  | anfang (orakel : Nat → Bool) (adressen : Nat → Nat) (f16 f444 : Bool) (n : Nat) :
      GErreichbar zul (GSys.anfang (Sys.anfang orakel adressen f16 f444 n))
  | schritt {g : GSys} {c : Wahl} {s' : Sys} :
      GErreichbar zul g → schritt B g.sys c = some s' → zul g c s' → GErreichbar zul (g.nach s' c)

/-- The ghost adds nothing to the system: its states are states of `Sys`. -/
theorem GErreichbar.erreichbar {zul : GSys → Wahl → Sys → Prop} {g : GSys}
    (h : GErreichbar B zul g) : Erreichbar B (fun _ _ _ => True) g.sys := by
  induction h with
  | anfang => exact .anfang _ _ _ _ _
  | schritt _ hs _ ih => rw [GSys.nach_sys]; exact .schritt ih hs trivial

end Protokoll

/-! ## 3. The invariant -/

section Invariante

variable (B : Bau)

/-- `nvDestroyContext` of `cid` has set `exiting` of the Context at `ca` that `cid` names. -/
def Abbauend (w : Welt) (cid ca : Nat) : Prop :=
  getObjectPtr w.drv cid = some ca ∧ ∃ k, sicht w ca = .context k ∧ k.exiting = true

/-- Resolve thread `i` runs for the Context at `c` and has not returned. -/
def Laeuft (w : Welt) (i c : Nat) : Prop :=
  ∃ f, w.faeden.get? i = some f ∧ f.ctx = c ∧ f.pc ≠ .beendet

/-- The shape of a client thread in its role: at rest, or waiting with a continuation that keeps
    the frame; or stopped at the mutex, the signal or the join with the rest of its call. -/
def Rolle.Form : Rolle → Klient → Prop
  | .ruhe, .bereit => True
  | .ruhe, .haelt h r => (h = .frei ∨ ∃ a, h = .bedingung a) ∧ Ruhig r
  | .ende ca, .haelt h r =>
    h = .mutex ca ∧ ∃ st, ∀ w, r w = reiheEinUnterMutex B (some ca) st w
  | .abbau cid ca, .haelt h r =>
    h = .frei ∧ ∀ w, r w = (destroyContextNachExiting (some ca) >>= loescheContext cid) w
  | .join cid ca, .haelt h r =>
    h = .join ca ∧ ∀ w, r w = (destroyContextNachJoin (some ca) >>= loescheContext cid) w
  | _, _ => False

/-- The Context a role destroys. -/
def Rolle.bautAb : Rolle → Option Nat
  | .abbau _ ca => some ca
  | .join _ ca => some ca
  | _ => none

/-- **Who resolves the in-flight surface at `a`**: it is the render target of a Context with an
    open picture, or of a Context whose `nvEndPicture` waits for `resolveMutex` to enqueue it; or
    a resolve thread has taken it from its ring; or it is pending in the ring of a Context whose
    resolve thread runs. -/
def Gedeckt (g : GSys) (a : Nat) : Prop :=
  (∃ ca ∈ g.offen, ∃ k, sicht g.sys.welt ca = .context k ∧ k.renderTarget = some a) ∨
  (∃ ca, EndeWartet g.sys ca ∧ ∃ k, sicht g.sys.welt ca = .context k ∧ k.renderTarget = some a) ∨
  (∃ i f, g.sys.welt.faeden.get? i = some f ∧ f.pc = .loest (some a)) ∨
  (∃ i c k, Laeuft g.sys.welt i c ∧ sicht g.sys.welt c = .context k ∧
    some a ∈ k.schlange B.SURFACE_QUEUE_SIZE)

/-- **The pipeline's invariant.** -/
structure FInv (g : GSys) : Prop where
  form : ∀ k kl, g.sys.klienten.get? k = some kl → (g.rollen k).Form B kl
  rollen_da : ∀ k, g.rollen k ≠ .ruhe → ∃ kl, g.sys.klienten.get? k = some kl
  ende_lebt : ∀ k ca, g.rollen k = .ende ca → Lebt g.sys.welt ca
  abbau : ∀ k cid ca, g.rollen k = .abbau cid ca ∨ g.rollen k = .join cid ca →
    Abbauend g.sys.welt cid ca
  abbau_eindeutig : ∀ i j ca, (g.rollen i).bautAb = some ca → (g.rollen j).bautAb = some ca → i = j
  offen_lebt : ∀ ca ∈ g.offen, Lebt g.sys.welt ca
  passt : ∀ c k, sicht g.sys.welt c = .context k → k.Passt B.SURFACE_QUEUE_SIZE
  exiting_leer : ∀ c k, sicht g.sys.welt c = .context k → k.exiting = true →
    k.anzahl B.SURFACE_QUEUE_SIZE = 0
  faden_ctx : ∀ i f, g.sys.welt.faeden.get? i = some f → f.pc ≠ .beendet →
    ∃ k, sicht g.sys.welt f.ctx = .context k
  faden_eindeutig : ∀ i j c, Laeuft g.sys.welt i c → Laeuft g.sys.welt j c → i = j
  faden_da : ∀ c, Lebt g.sys.welt c → ∃ i, Laeuft g.sys.welt i c
  frei_voll : ∀ i f, g.sys.welt.faeden.get? i = some f → f.pc = .frei →
    ∃ k, sicht g.sys.welt f.ctx = .context k ∧ 0 < k.anzahl B.SURFACE_QUEUE_SIZE
  gedeckt : ∀ a s, sicht g.sys.welt a = .surface s → s.resolving = true → Gedeckt B g a

/-- At the start the heap is empty, no thread runs and every client is at rest. -/
theorem fInv_anfang (orakel : Nat → Bool) (adressen : Nat → Nat) (f16 f444 : Bool) (n : Nat) :
    FInv B (GSys.anfang (Sys.anfang orakel adressen f16 f444 n)) := by
  constructor
  · intro k kl h
    obtain ⟨-, rfl⟩ := List.mem_replicate.mp (List.get?_mem h)
    trivial
  all_goals simp [GSys.anfang, Rolle.bautAb, Laeuft, Lebt, Sys.anfang, sicht, blick]

end Invariante

/-! ## 4. Changes the invariant cannot see -/

/-- `w'` agrees with `w` on what the invariant reads: the Contexts, the in-flight surfaces (one in
    flight in `w'` was in flight in `w`), the resolve threads and the objects the ids find. -/
structure Treu (w w' : Welt) : Prop where
  ctx : ∀ b k, sicht w' b = .context k ↔ sicht w b = .context k
  inflight : ∀ b s', sicht w' b = .surface s' → s'.resolving = true →
    ∃ s, sicht w b = .surface s ∧ s.resolving = true
  faeden : w'.faeden = w.faeden
  objekte : ∀ id o, getObject w.drv id = some o → getObject w'.drv id = some o

theorem Rahmen.treu {w w' : Welt} (h : Rahmen w w') : Treu w w' where
  ctx b k := ⟨h.context_rueck, fun e => (h.bleibt (by rw [e]; exact nofun)).trans e⟩
  inflight b s' hs hr := (h.surface_rueck hs).elim (fun e => ⟨s', e, hr⟩) fun e => by
    rw [hr] at e; cases e
  faeden := h.faeden
  objekte := h.objekte

theorem NurAn.treu {a : Nat} {w w' : Welt} (h : NurAn a w w') : Treu w w' where
  ctx b k := by
    rcases h.2.2 b with e | ⟨-, s, s', e₁, e₂, -⟩
    · rw [e]
    · rw [e₁, e₂]; exact ⟨nofun, nofun⟩
  inflight b s' hs hr := by
    rcases h.2.2 b with e | ⟨-, s, s'', e₁, e₂, r⟩
    · exact ⟨s', e ▸ hs, hr⟩
    · rw [hs] at e₂; cases e₂
      exact ⟨s, e₁, r ▸ hr⟩
  faeden := h.1
  objekte id o ho := by unfold getObject at ho ⊢; rwa [h.2.1]

theorem Gleich.treu {w w' : Welt} (h : Gleich w w') : Treu w w' := h.rahmen.treu

theorem Geloest.treu {a : Nat} {w w' : Welt} (h : Geloest a w w') : Treu w w' := by
  obtain ⟨hf, ho, s, e₁, e₂, e₃⟩ := h
  have hb : ∀ b, b ≠ a → sicht w' b = sicht w b := e₃
  refine ⟨fun b k => ?_, fun b s' hs hr => ?_, hf, fun id o h => ?_⟩
  · by_cases e : b = a
    · subst e; rw [e₁, e₂]; exact ⟨nofun, nofun⟩
    · rw [hb b e]
  · by_cases e : b = a
    · subst e; rw [e₂] at hs; cases hs; cases hr
    · exact ⟨s', (hb b e) ▸ hs, hr⟩
  · unfold getObject at h ⊢; rwa [ho]

theorem Treu.getObjectPtr {w w' : Welt} (h : Treu w w') {id ca : Nat}
    (e : getObjectPtr w.drv id = some ca) : getObjectPtr w'.drv id = some ca := by
  rw [getObjectPtr_eq] at e ⊢
  obtain ⟨o, ho, rfl⟩ := Option.map_eq_some'.mp e
  rw [h.objekte id o ho]
  rfl

theorem Treu.lebt {w w' : Welt} (h : Treu w w') {ca : Nat} (e : Lebt w ca) : Lebt w' ca :=
  let ⟨k, hk, hx⟩ := e; ⟨k, (h.ctx ca k).mpr hk, hx⟩

theorem Treu.lebt_rueck {w w' : Welt} (h : Treu w w') {ca : Nat} (e : Lebt w' ca) : Lebt w ca :=
  let ⟨k, hk, hx⟩ := e; ⟨k, (h.ctx ca k).mp hk, hx⟩

theorem Treu.laeuft {w w' : Welt} (h : Treu w w') {i c : Nat} : Laeuft w' i c ↔ Laeuft w i c := by
  unfold Laeuft; rw [h.faeden]

theorem get?_set_self {l : List α} {i : Nat} {x y : α} (h : l.get? i = some y) :
    (l.set i x).get? i = some x := by
  simp only [List.get?_eq_getElem?] at h ⊢
  rw [List.getElem?_set_self']
  simp [h]

theorem get?_set_anders {l : List α} {i j : Nat} (x : α) (h : i ≠ j) :
    (l.set i x).get? j = l.get? j := by
  simp only [List.get?_eq_getElem?]
  exact List.getElem?_set_ne h

section Transport

variable {B : Bau} {g : GSys}

theorem Gedeckt.treu {a : Nat} (hg : Gedeckt B g a) {w' : Welt} (ht : Treu g.sys.welt w') :
    Gedeckt B ⟨⟨w', g.sys.klienten⟩, g.offen, g.rollen⟩ a := by
  rcases hg with ⟨ca, hc, k, hk, ht'⟩ | ⟨ca, he, k, hk, ht'⟩ | ⟨i, f, hf, hp⟩ | ⟨i, c, k, hl, hk, hs⟩
  · exact .inl ⟨ca, hc, k, (ht.ctx ca k).mpr hk, ht'⟩
  · exact .inr (.inl ⟨ca, he, k, (ht.ctx ca k).mpr hk, ht'⟩)
  · exact .inr (.inr (.inl ⟨i, f, by rw [ht.faeden]; exact hf, hp⟩))
  · exact .inr (.inr (.inr ⟨i, c, k, ht.laeuft.mpr hl, (ht.ctx c k).mpr hk, hs⟩))

/-- **A change of the world the invariant cannot see keeps it.** -/
theorem FInv.treu (hi : FInv B g) {w' : Welt} (ht : Treu g.sys.welt w') :
    FInv B ⟨⟨w', g.sys.klienten⟩, g.offen, g.rollen⟩ where
  form := hi.form
  rollen_da := hi.rollen_da
  ende_lebt k ca h := ht.lebt (hi.ende_lebt k ca h)
  abbau k cid ca h :=
    let ⟨hp, k', hk, hx⟩ := hi.abbau k cid ca h
    ⟨ht.getObjectPtr hp, k', (ht.ctx ca k').mpr hk, hx⟩
  abbau_eindeutig := hi.abbau_eindeutig
  offen_lebt ca h := ht.lebt (hi.offen_lebt ca h)
  passt c k h := hi.passt c k ((ht.ctx c k).mp h)
  exiting_leer c k h := hi.exiting_leer c k ((ht.ctx c k).mp h)
  faden_ctx i f h hb := by
    rw [ht.faeden] at h
    obtain ⟨k, hk⟩ := hi.faden_ctx i f h hb
    exact ⟨k, (ht.ctx _ k).mpr hk⟩
  faden_eindeutig i j c h₁ h₂ := hi.faden_eindeutig i j c (ht.laeuft.mp h₁) (ht.laeuft.mp h₂)
  faden_da c h := let ⟨i, hl⟩ := hi.faden_da c (ht.lebt_rueck h); ⟨i, ht.laeuft.mpr hl⟩
  frei_voll i f h hp := by
    rw [ht.faeden] at h
    obtain ⟨k, hk, hn⟩ := hi.frei_voll i f h hp
    exact ⟨k, (ht.ctx _ k).mpr hk, hn⟩
  gedeckt a s' hs hr :=
    let ⟨s, hs₀, hr₀⟩ := ht.inflight a s' hs hr
    (hi.gedeckt a s hs₀ hr₀).treu ht

theorem Rolle.Form.nicht_mutex {kl : Klient} (h : Rolle.ruhe.Form B kl) (ca : Nat)
    (r : Welt → Ausgang VAStatus) : kl ≠ .haelt (.mutex ca) r := by
  rintro rfl
  obtain ⟨h | ⟨a, h⟩, -⟩ := h <;> cases h

theorem Rolle.Form.bereit {ρ : Rolle} (h : ρ.Form B .bereit) : ρ = .ruhe := by
  cases ρ <;> first | rfl | exact absurd h id

theorem Rolle.Form.mutex {ρ : Rolle} {ca : Nat} {r : Welt → Ausgang VAStatus}
    (h : ρ.Form B (.haelt (.mutex ca) r)) : ρ = .ende ca := by
  cases ρ with
  | ruhe => obtain ⟨h | ⟨a, h⟩, -⟩ := h <;> cases h
  | ende ca' => obtain ⟨h, -⟩ := h; cases h; rfl
  | abbau _ _ => obtain ⟨h, -⟩ := h; cases h
  | join _ _ => obtain ⟨h, -⟩ := h; cases h

/-- A client waiting for `resolveMutex` of a Context is inside its `nvEndPicture`, so the Context
    lives. -/
theorem FInv.endeWartet_lebt (hi : FInv B g) {ca : Nat} (h : EndeWartet g.sys ca) :
    Lebt g.sys.welt ca :=
  let ⟨k, _, hk⟩ := h
  hi.ende_lebt k ca (hi.form k _ hk).mutex

theorem FInv.endeWartet_of_rolle (hi : FInv B g) {k ca : Nat} (h : g.rollen k = .ende ca) :
    EndeWartet g.sys ca := by
  obtain ⟨kl, hk⟩ := hi.rollen_da k (by rw [h]; exact nofun)
  have hf := hi.form k kl hk
  rw [h] at hf
  rcases kl with _ | ⟨hh, r⟩
  · exact absurd hf id
  · obtain ⟨rfl, -⟩ := hf
    exact ⟨k, r, hk⟩

/-- **A client at rest that stays at rest, or starts waiting on a surface, keeps the invariant.** -/
theorem FInv.klient (hi : FInv B g) {k : Nat} {kl : Klient} (hk : g.sys.klienten.get? k = some kl)
    (hr : g.rollen k = .ruhe) {kl' : Klient} (hf : Rolle.ruhe.Form B kl') :
    FInv B ⟨⟨g.sys.welt, g.sys.klienten.set k kl'⟩, g.offen, g.rollen⟩ := by
  refine { hi with
    form := fun j kl₁ h => ?_
    rollen_da := fun j hj => ?_
    gedeckt := fun a s hs hres => ?_ }
  · by_cases e : k = j
    · subst e
      rw [get?_set_self hk] at h
      cases h
      rw [hr]
      exact hf
    · rw [get?_set_anders _ e] at h
      exact hi.form j kl₁ h
  · obtain ⟨kl₁, h⟩ := hi.rollen_da j hj
    by_cases e : k = j
    · subst e
      exact ⟨kl', get?_set_self h⟩
    · exact ⟨kl₁, by rw [get?_set_anders _ e, h]⟩
  · rcases hi.gedeckt a s hs hres with h | ⟨ca, ⟨j, r, hj⟩, hc⟩ | h | h
    · exact .inl h
    · refine .inr (.inl ⟨ca, ⟨j, r, ?_⟩, hc⟩)
      have hjk : k ≠ j := by
        rintro rfl
        rw [hk] at hj
        cases hj
        have := hi.form k _ hk
        rw [hr] at this
        exact this.nicht_mutex ca r rfl
      rwa [get?_set_anders _ hjk]
    · exact .inr (.inr (.inl h))
    · exact .inr (.inr (.inr h))

end Transport

end NvdecVaapi
