/-
  File:      NvdecVaapi/Kanal.lean
  Subject:   The ring of surface pointers against the spec's channel of resolve tasks: a ghost
             channel per Context records, at each enqueue of `nvEndPicture`, the render target with
             the fields it has then; the ring holds exactly the channel's surfaces, and a resolve
             thread takes the channel's oldest task with it.

  * `Blick.felder`, `schlangeIn`, `auftrag`, `KSys`, `KSys.nach`, `KErreichbar` -- the ghost channel
    and its runs;
  * `Anhaengig`, `Wahl.schreibt`, `KErlaubt` -- the protocol: no client writes the fields of a
    surface while it is pending;
  * `KInv` -- the ring mirrors the channel, each task taken is the thread's surface, and every
    pending task's fields are those its surface has;
  * `KInv.nach`, `kInv_erreichbar` -- every step of `Zug` keeps it, so every such run does.
-/
import NvdecVaapi.Pipeline.Zug
import NvdecVaapi.Pipeline.Weiter

namespace NvdecVaapi

/-! ## 1. The channel -/

/-- What the resolve step reads of a surface: its view without `resolving`. -/
def Blick.felder : Blick → Option SBlick
  | .surface s => some { s with resolving := false }
  | _ => none

/-- The pending entries of the ring of the Context at `c`; none where there is no Context. -/
def schlangeIn (N : Nat) (w : Welt) (c : Nat) : List (Option Nat) :=
  match sicht w c with
  | .context k => k.schlange N
  | _ => []

/-- The task `nvEndPicture` enqueues on the Context at `ca`: its render target, with the fields the
    target has at the enqueue. -/
def auftrag (w : Welt) (ca : Nat) : Option (Nat × Option SBlick) :=
  match sicht w ca with
  | .context k => k.renderTarget.map fun a => (a, (sicht w a).felder)
  | _ => none

/-- The system with the spec's channel as ghost: per Context the tasks of its ring, per resolve
    thread the task it took last. -/
structure KSys where
  g : GSys
  kanal : Nat → List (Option (Nat × Option SBlick))
  arbeit : Nat → Option (Nat × Option SBlick)

/-- The start: every channel empty, no task taken. -/
def KSys.anfang (s : Sys) : KSys := ⟨GSys.anfang s, fun _ => [], fun _ => none⟩

/-- The ghost after a step to `s'`: the enqueue of `nvEndPicture` under `resolveMutex` of `ca`
    appends its task to the channel of `ca`; the dequeue of a resolve thread hands the oldest task
    of its Context's channel to the thread. -/
def KSys.nach (m : KSys) (s' : Sys) (c : Wahl) : KSys :=
  match c with
  | .weiter k =>
    match m.g.sys.klienten.get? k with
    | some (.haelt (.mutex ca) _) =>
      ⟨m.g.nach s' c, Function.update m.kanal ca (m.kanal ca ++ [auftrag m.g.sys.welt ca]),
        m.arbeit⟩
    | _ => ⟨m.g.nach s' c, m.kanal, m.arbeit⟩
  | .faden i =>
    match m.g.sys.welt.faeden.get? i with
    | some f =>
      if f.pc = .frei then
        ⟨m.g.nach s' c, Function.update m.kanal f.ctx (m.kanal f.ctx).tail,
          Function.update m.arbeit i (m.kanal f.ctx).head?.join⟩
      else ⟨m.g.nach s' c, m.kanal, m.arbeit⟩
    | none => ⟨m.g.nach s' c, m.kanal, m.arbeit⟩
  | _ => ⟨m.g.nach s' c, m.kanal, m.arbeit⟩

@[simp] theorem KSys.nach_g (m : KSys) (s' : Sys) (c : Wahl) : (m.nach s' c).g = m.g.nach s' c := by
  unfold KSys.nach
  split
  · split <;> rfl
  · split
    · split <;> rfl
    · rfl
  · rfl

variable (B : Bau)

/-- The ghost states a run reaches from a start when `zul` allows each of its steps. -/
inductive KErreichbar (zul : KSys → Wahl → Sys → Prop) : KSys → Prop
  | anfang (orakel : Nat → Bool) (adressen : Nat → Nat) (f16 f444 : Bool) (n : Nat) :
      KErreichbar zul (KSys.anfang (Sys.anfang orakel adressen f16 f444 n))
  | schritt {m : KSys} {c : Wahl} {s' : Sys} :
      KErreichbar zul m → schritt B m.g.sys c = some s' → zul m c s' → KErreichbar zul (m.nach s' c)

variable {B}

/-! ## 2. The protocol -/

/-- The surface at `a` is pending: in the ring of a Context whose resolve thread runs, or taken by
    a resolve thread. -/
def Anhaengig (N : Nat) (w : Welt) (a : Nat) : Prop :=
  (∃ i f, w.faeden.get? i = some f ∧ f.pc ≠ .beendet ∧ some a ∈ schlangeIn N w f.ctx) ∨
    ∃ i f, w.faeden.get? i = some f ∧ f.pc = .loest (some a)

/-- The surface whose fields a call writes: the target of `nvBeginPicture`, and the render target
    of the Context whose picture `nvEndPicture` ends. -/
def Aufruf.schreibt (w : Welt) : Aufruf → Option Nat
  | .BeginPicture _ sid => getObjectPtr w.drv sid
  | .EndPicture cid =>
    match getObject w.drv cid with
    | some o =>
      match sicht w o.obj with
      | .context k => k.renderTarget
      | _ => none
    | none => none
  | _ => none

/-- The surface whose fields a step writes. -/
def Wahl.schreibt (w : Welt) : Wahl → Option Nat
  | .rufe _ a => a.schreibt w
  | _ => none

variable (B) in
/-- A step of the protocol of `Erlaubt` that writes no pending surface's fields. -/
def KErlaubt (m : KSys) (c : Wahl) (s' : Sys) : Prop :=
  Erlaubt B m.g c s' ∧
    ∀ x, c.schreibt m.g.sys.welt = some x → ¬ Anhaengig B.SURFACE_QUEUE_SIZE m.g.sys.welt x

/-! ## 3. The invariant -/

/-- The fields `vo` recorded for the surface at `a` are the fields it has. -/
def Stimmt (w : Welt) (a : Nat) (vo : Option SBlick) : Prop :=
  ∃ s, sicht w a = .surface s ∧ vo = some { s with resolving := false }

/-- **The channel's invariant.** -/
structure KInv (N : Nat) (w : Welt) (kanal : Nat → List (Option (Nat × Option SBlick)))
    (arbeit : Nat → Option (Nat × Option SBlick)) : Prop where
  schlange : ∀ c, schlangeIn N w c = (kanal c).map (Option.map Prod.fst)
  ziel : ∀ c k a, sicht w c = .context k → k.renderTarget = some a → ∃ s, sicht w a = .surface s
  genommen : ∀ i f x, w.faeden.get? i = some f → f.pc = .loest x → x = (arbeit i).map Prod.fst
  kanal_stimmt : ∀ i f a vo, w.faeden.get? i = some f → f.pc ≠ .beendet →
    some (a, vo) ∈ kanal f.ctx → Stimmt w a vo
  genommen_stimmt : ∀ i f a vo, w.faeden.get? i = some f → f.pc = .loest (some a) →
    arbeit i = some (a, vo) → Stimmt w a vo

/-! ## 4. Changes the invariant survives -/

section Transport

variable {N : Nat} {w w' : Welt} {kanal : Nat → List (Option (Nat × Option SBlick))}
  {arbeit : Nat → Option (Nat × Option SBlick)}

theorem schlangeIn_context {c : Nat} {k : KBlick} (h : sicht w c = .context k) :
    schlangeIn N w c = k.schlange N := by
  simp only [schlangeIn, h]

theorem schlangeIn_sonst {c : Nat} (h : ∀ k, sicht w c ≠ .context k) : schlangeIn N w c = [] := by
  unfold schlangeIn
  split
  · exact absurd ‹_› (h _)
  · rfl

/-- Two worlds with one Context at `c`, or none, have one ring there. -/
theorem schlangeIn_eq {c : Nat} (h : ∀ k, sicht w' c = .context k ↔ sicht w c = .context k) :
    schlangeIn N w' c = schlangeIn N w c := by
  by_cases e : ∃ k, sicht w c = .context k
  · obtain ⟨k, hk⟩ := e
    rw [schlangeIn_context ((h k).mpr hk), schlangeIn_context hk]
  · push_neg at e
    rw [schlangeIn_sonst e, schlangeIn_sonst fun k hk => e k ((h k).mp hk)]

theorem Stimmt.surface {a : Nat} {vo : Option SBlick} (h : Stimmt w a vo) :
    ∃ s, sicht w a = .surface s :=
  let ⟨s, hs, _⟩ := h; ⟨s, hs⟩

theorem Stimmt.weiter {a : Nat} {vo : Option SBlick} (h : Stimmt w a vo)
    (e : sicht w' a = sicht w a) : Stimmt w' a vo := by
  unfold Stimmt
  rwa [e]

/-- A surface is not at the address of a Context. -/
theorem ne_of_surface_context {a c : Nat} {k : KBlick} (ha : ∃ s, sicht w a = .surface s)
    (hc : sicht w c = .context k) : a ≠ c := by
  rintro rfl
  obtain ⟨s, hs⟩ := ha
  rw [hs] at hc
  cases hc

theorem KInv.anhaengig_kanal (hk : KInv N w kanal arbeit) {i : Nat} {f : ResolveFaden} {a : Nat}
    {vo : Option SBlick} (hf : w.faeden.get? i = some f) (hp : f.pc ≠ .beendet)
    (ha : some (a, vo) ∈ kanal f.ctx) : Anhaengig N w a :=
  .inl ⟨i, f, hf, hp, by rw [hk.schlange]; exact List.mem_map.mpr ⟨_, ha, rfl⟩⟩

/-- What a step does to the resolve threads that the invariant can see: each thread keeps its
    Context, does not come back from its return and resolves only what it resolved, or it is new,
    resolves nothing and has an empty channel. -/
def FaedenTreu (kanal : Nat → List (Option (Nat × Option SBlick))) (fs fs' : List ResolveFaden) :
    Prop :=
  ∀ i f', fs'.get? i = some f' →
    (∃ f, fs.get? i = some f ∧ f'.ctx = f.ctx ∧ (f'.pc ≠ .beendet → f.pc ≠ .beendet) ∧
      ∀ x, f'.pc = .loest x → f.pc = .loest x) ∨ (kanal f'.ctx = [] ∧ ∀ x, f'.pc ≠ .loest x)

theorem faedenTreu_refl (fs : List ResolveFaden) : FaedenTreu kanal fs fs :=
  fun _ f' h => .inl ⟨f', h, rfl, id, fun _ => id⟩

/-- A thread that has not returned moves to a place where it resolves nothing. -/
theorem faedenTreu_set {fs : List ResolveFaden} {i : Nat} {f : ResolveFaden} {pc : RT}
    (hf : fs.get? i = some f) (hp : f.pc ≠ .beendet) (hpc : ∀ x, pc ≠ .loest x) :
    FaedenTreu kanal fs (fs.set i ⟨f.ctx, pc⟩) := by
  intro j f' h
  by_cases e : j = i
  · subst e
    rw [get?_set_self hf] at h
    cases h
    exact .inl ⟨f, hf, rfl, fun _ => hp, fun x h => absurd h (hpc x)⟩
  · rw [get?_set_anders _ (Ne.symm e)] at h
    exact faedenTreu_refl fs j f' h

/-- A wakeup moves a thread from `wartet` to `geweckt` and nothing else. -/
theorem Geweckt.faden {fs fs' : List ResolveFaden} (hg : Geweckt fs fs') {i : Nat}
    {f' : ResolveFaden} (h : fs'.get? i = some f') :
    ∃ f, fs.get? i = some f ∧ f'.ctx = f.ctx ∧ (f'.pc ≠ .beendet → f.pc ≠ .beendet) ∧
      ∀ x, f'.pc = .loest x → f.pc = .loest x :=
  let ⟨f, hf, hc, hp⟩ := hg.2 i f' h
  ⟨f, hf, hc, fun hb => hp.elim (fun e => e ▸ hb) fun ⟨e, _⟩ => by rw [e]; nofun,
    fun x hx => hp.elim (fun e => e ▸ hx) fun ⟨_, e⟩ => by rw [e] at hx; cases hx⟩

theorem faedenTreu_geweckt {fs fs' : List ResolveFaden} (hg : Geweckt fs fs') :
    FaedenTreu kanal fs fs' := fun _ _ h => .inl (hg.faden h)

/-- **A change keeps the invariant** when it keeps the rings, leaves a surface at every render
    target, keeps the fields of every pending surface and changes the threads as `FaedenTreu`
    allows. -/
theorem KInv.aendern (hk : KInv N w kanal arbeit) (hq : ∀ c, schlangeIn N w' c = schlangeIn N w c)
    (hz : ∀ c k a, sicht w' c = .context k → k.renderTarget = some a → ∃ s, sicht w' a = .surface s)
    (hs : ∀ a vo, Anhaengig N w a → Stimmt w a vo → Stimmt w' a vo)
    (hf : FaedenTreu kanal w.faeden w'.faeden) : KInv N w' kanal arbeit := by
  refine ⟨fun c => (hq c).trans (hk.schlange c), hz, fun i f' x h hp => ?_,
    fun i f' a vo h hp ha => ?_, fun i f' a vo h hp ha => ?_⟩
  · rcases hf i f' h with ⟨f, hf, -, -, hl⟩ | ⟨-, hl⟩
    · exact hk.genommen i f x hf (hl x hp)
    · exact absurd hp (hl x)
  · rcases hf i f' h with ⟨f, hf, hc, hb, -⟩ | ⟨he, -⟩
    · rw [hc] at ha
      exact hs a vo (hk.anhaengig_kanal hf (hb hp) ha) (hk.kanal_stimmt i f a vo hf (hb hp) ha)
    · rw [he] at ha
      cases ha
  · rcases hf i f' h with ⟨f, hf, -, -, hl⟩ | ⟨-, hl⟩
    · exact hs a vo (.inr ⟨i, f, hf, hl _ hp⟩) (hk.genommen_stimmt i f a vo hf (hl _ hp) ha)
    · exact absurd hp (hl _)

/-- A change of the threads alone. -/
theorem KInv.faeden (hk : KInv N w kanal arbeit) (hd : w'.drv = w.drv)
    (hf : FaedenTreu kanal w.faeden w'.faeden) : KInv N w' kanal arbeit := by
  have hv : ∀ b, sicht w' b = sicht w b := fun b => by simp only [sicht, hd]
  exact hk.aendern (fun c => schlangeIn_eq fun k => by rw [hv])
    (fun c k a hc ht => by rw [hv c] at hc; rw [hv a]; exact hk.ziel c k a hc ht)
    (fun a _ _ hs => hs.weiter (hv a)) hf

theorem KInv.rahmen (hk : KInv N w kanal arbeit) (h : Rahmen w w') : KInv N w' kanal arbeit :=
  hk.aendern (fun c => schlangeIn_eq (h.treu.ctx c))
    (fun c k a hc ht =>
      let ⟨s, hs⟩ := hk.ziel c k a (h.context_rueck hc) ht
      ⟨s, (h.bleibt (by rw [hs]; nofun)).trans hs⟩)
    (fun _ _ _ hs => let ⟨_, e, _⟩ := hs; hs.weiter (h.bleibt (by rw [e]; nofun)))
    (h.faeden ▸ faedenTreu_refl _)

theorem KInv.nurAn (hk : KInv N w kanal arbeit) {x : Nat} (h : NurAn x w w')
    (hx : ¬ Anhaengig N w x) : KInv N w' kanal arbeit :=
  hk.aendern (fun c => schlangeIn_eq (h.treu.ctx c))
    (fun c k a hc ht => by
      obtain ⟨s, hs⟩ := hk.ziel c k a ((h.treu.ctx c k).mp hc) ht
      rcases h.2.2 a with e | ⟨-, -, s₂, -, e, -⟩
      · exact ⟨s, e.trans hs⟩
      · exact ⟨s₂, e⟩)
    (fun a _ ha hs => hs.weiter ((h.2.2 a).resolve_right fun ⟨e, _⟩ => hx (e ▸ ha)))
    (h.1 ▸ faedenTreu_refl _)

theorem KInv.begonnen (hk : KInv N w kanal arbeit) {x ca : Nat} (h : Begonnen x ca w w')
    (hx : ¬ Anhaengig N w x) : KInv N w' kanal arbeit := by
  obtain ⟨-, ⟨s', hs', -⟩, ⟨kc, hkc, hkc'⟩, hb, hf, -⟩ := id h
  have hsurf : ∀ a, a ≠ x → (∃ t, sicht w a = .surface t) → sicht w' a = sicht w a :=
    fun a h₁ ht => hb a h₁ (ne_of_surface_context ht hkc)
  refine hk.aendern (fun c => ?_) (fun c k a hc ht => ?_)
    (fun a _ ha hs => hs.weiter (hsurf a (by rintro rfl; exact hx ha) hs.surface))
    (hf ▸ faedenTreu_refl _)
  · by_cases e : c = ca
    · subst e
      rw [schlangeIn_context hkc', schlangeIn_context hkc]
      rfl
    · exact schlangeIn_eq fun k => ⟨fun hc => by
        obtain ⟨k₀, hk₀, rfl⟩ := h.ctx_rueck hc
        rwa [if_neg e], fun hc => by rw [h.ctx hc, if_neg e]⟩
  · obtain ⟨k₀, hk₀, rfl⟩ := h.ctx_rueck hc
    by_cases e : c = ca
    · rw [if_pos e] at ht
      obtain rfl := Option.some.inj ht
      exact ⟨s', hs'⟩
    · rw [if_neg e] at ht
      by_cases ea : a = x
      · subst ea
        exact ⟨s', hs'⟩
      · obtain ⟨t, ht'⟩ := hk.ziel c k₀ a hk₀ ht
        exact ⟨t, (hsurf a ea ⟨t, ht'⟩).trans ht'⟩

theorem KInv.markiert (hk : KInv N w kanal arbeit) {ca : Nat} (h : Markiert ca w w') :
    KInv N w' kanal arbeit := by
  obtain ⟨⟨kc, hkc, -⟩, hb, hf, -⟩ := id h
  have hsurf : ∀ a, (∃ t, sicht w a = .surface t) → sicht w' a = sicht w a :=
    fun a ht => hb a (ne_of_surface_context ht hkc)
  refine hk.aendern (fun c => ?_) (fun c k a hc ht => ?_)
    (fun a _ _ hs => hs.weiter (hsurf a hs.surface)) (hf ▸ faedenTreu_refl _)
  · by_cases e : c = ca
    · subst e
      rw [schlangeIn_context (h.ctx hkc), schlangeIn_context hkc, if_pos rfl]
      rfl
    · exact schlangeIn_eq fun k => ⟨fun hc => by
        obtain ⟨k₀, hk₀, rfl⟩ := h.ctx_rueck hc
        rwa [if_neg e], fun hc => by rw [h.ctx hc, if_neg e]⟩
  · obtain ⟨k₀, hk₀, rfl⟩ := h.ctx_rueck hc
    obtain ⟨t, ht'⟩ := hk.ziel c k₀ a hk₀ (by split at ht <;> exact ht)
    exact ⟨t, (hsurf a ⟨t, ht'⟩).trans ht'⟩

theorem KInv.mitContext (hk : KInv N w kanal arbeit) {b : Nat} (h : MitContext b w w') :
    KInv N w' kanal arbeit := by
  obtain ⟨hl, hn, hb, hf, -⟩ := id h
  have hsurf : ∀ a, (∃ t, sicht w a = .surface t) → sicht w' a = sicht w a :=
    fun a ⟨t, ht⟩ => hb a (by rintro rfl; rw [hl] at ht; cases ht)
  have hkb : kanal b = [] := by
    have e := hk.schlange b
    rw [schlangeIn_sonst (by rw [hl]; nofun)] at e
    exact List.map_eq_nil_iff.mp e.symm
  refine hk.aendern (fun c => ?_) (fun c k a hc ht => ?_)
    (fun a _ _ hs => hs.weiter (hsurf a hs.surface)) ?_
  · by_cases e : c = b
    · subst e
      rw [schlangeIn_context hn, schlangeIn_sonst (by rw [hl]; nofun)]
      simp [KBlick.schlange, KBlick.anzahl, KBlick.neu]
    · exact schlangeIn_eq fun k => by rw [hb c e]
  · by_cases e : c = b
    · subst e
      rw [hn] at hc
      cases hc
      cases ht
    · rw [hb c e] at hc
      obtain ⟨t, ht'⟩ := hk.ziel c k a hc ht
      exact ⟨t, (hsurf a ⟨t, ht'⟩).trans ht'⟩
  · intro i f' hi
    rcases h.faden hi with hi | ⟨-, rfl⟩
    · exact faedenTreu_refl _ i f' hi
    · exact .inr ⟨hkb, fun _ => nofun⟩

theorem KInv.geloest (hk : KInv N w kanal arbeit) {a : Nat} (h : Geloest a w w') :
    KInv N w' kanal arbeit := by
  obtain ⟨hf, -, s, e₁, e₂, hb⟩ := id h
  refine hk.aendern (fun c => schlangeIn_eq (h.treu.ctx c)) (fun c k b hc ht => ?_)
    (fun b vo _ hs => ?_) (hf ▸ faedenTreu_refl _)
  · obtain ⟨t, ht⟩ := hk.ziel c k b ((h.treu.ctx c k).mp hc) ht
    by_cases e : b = a
    · subst e
      exact ⟨_, e₂⟩
    · exact ⟨t, (hb b e).trans ht⟩
  · by_cases e : b = a
    · subst e
      obtain ⟨t, ht, rfl⟩ := hs
      rw [e₁] at ht
      cases ht
      exact ⟨_, e₂, rfl⟩
    · exact hs.weiter (hb b e)

/-- `deleteObject` of a Context whose ring is empty. -/
theorem KInv.loesche (hk : KInv N w kanal arbeit) {cid : Nat} {o : Object} {kc : KBlick}
    (ho : getObject w.drv cid = some o) (hkc : sicht w o.obj = .context kc) (h₀ : kc.anzahl N = 0) :
    KInv N { w with drv := deleteObject w.drv cid } kanal arbeit := by
  have hv := sicht_deleteObject ho
  have hsurf : ∀ a, (∃ t, sicht w a = .surface t) →
      sicht { w with drv := deleteObject w.drv cid } a = sicht w a :=
    fun a ht => by rw [hv, if_neg (ne_of_surface_context ht hkc)]
  refine hk.aendern (fun c => ?_) (fun c k a hc ht => ?_)
    (fun a _ _ hs => hs.weiter (hsurf a hs.surface)) (faedenTreu_refl _)
  · by_cases e : c = o.obj
    · subst e
      rw [schlangeIn_context hkc, schlangeIn_sonst (by rw [hv, if_pos rfl]; nofun)]
      simp [KBlick.schlange, h₀]
    · exact schlangeIn_eq fun k => by rw [hv, if_neg e]
  · rw [hv] at hc
    split at hc
    · cases hc
    · obtain ⟨t, ht'⟩ := hk.ziel c k a hc ht
      exact ⟨t, (hsurf a ⟨t, ht'⟩).trans ht'⟩

/-- **The enqueue of `nvEndPicture`** appends its task to the channel of its Context. -/
theorem KInv.eingereiht (hk : KInv N w kanal arbeit) {ca : Nat} {kc : KBlick} (hp : kc.Passt N)
    (hn : kc.anzahl N + 1 < N) (hkc : sicht w ca = .context kc)
    (hkc' : sicht w' ca = .context (einreihen N kc.ctx kc.renderTarget).kblick)
    (hb : ∀ b, b ≠ ca → sicht w' b = sicht w b) (hf : w'.faeden = weckeErsten ca w.faeden) :
    KInv N w' (Function.update kanal ca (kanal ca ++ [auftrag w ca])) arbeit := by
  have hsurf : ∀ a, (∃ t, sicht w a = .surface t) → sicht w' a = sicht w a :=
    fun a ht => hb a (ne_of_surface_context ht hkc)
  have hg : Geweckt w.faeden w'.faeden := hf ▸ geweckt_weckeErsten ca _
  have hziel : ∀ c k a, sicht w c = .context k → k.renderTarget = some a →
      ∃ t, sicht w' a = .surface t := fun c k a hc ht =>
    let ⟨t, ht'⟩ := hk.ziel c k a hc ht
    ⟨t, (hsurf a ⟨t, ht'⟩).trans ht'⟩
  refine ⟨fun c => ?_, fun c k a hc ht => ?_, fun i f' x h hp' => ?_, fun i f' a vo h hp' ha => ?_,
    fun i f' a vo h hp' ha => ?_⟩
  · by_cases e : c = ca
    · subst e
      rw [Function.update_same, schlangeIn_context hkc', (kblick_einreihen hp hn _).2.2,
        List.map_append, ← hk.schlange, schlangeIn_context hkc]
      simp only [auftrag, hkc, List.map_cons, List.map_nil, Option.map_map]
      cases kc.renderTarget <;> rfl
    · rw [Function.update_noteq e, ← hk.schlange]
      exact schlangeIn_eq fun k => by rw [hb c e]
  · by_cases e : c = ca
    · subst e
      rw [hkc'] at hc
      cases hc
      exact hziel c kc a hkc ht
    · rw [hb c e] at hc
      exact hziel c k a hc ht
  · obtain ⟨f, hf, -, -, hl⟩ := hg.faden h
    exact hk.genommen i f x hf (hl x hp')
  · obtain ⟨f, hf, hc, hbe, -⟩ := hg.faden h
    rw [hc] at ha
    by_cases e : f.ctx = ca
    · rw [e, Function.update_same] at ha
      rcases List.mem_append.mp ha with ha | ha
      · exact (hk.kanal_stimmt i f a vo hf (hbe hp') (e ▸ ha)).weiter
          (hsurf a (hk.kanal_stimmt i f a vo hf (hbe hp') (e ▸ ha)).surface)
      · simp only [List.mem_singleton, auftrag, hkc] at ha
        obtain ⟨a', hrt, he⟩ := Option.map_eq_some'.mp ha.symm
        cases he
        obtain ⟨t, ht⟩ := hk.ziel ca kc a hkc hrt
        exact ⟨t, (hsurf a ⟨t, ht⟩).trans ht, by rw [ht]; rfl⟩
    · rw [Function.update_noteq e] at ha
      have hs := hk.kanal_stimmt i f a vo hf (hbe hp') ha
      exact hs.weiter (hsurf a hs.surface)
  · obtain ⟨f, hf, -, -, hl⟩ := hg.faden h
    have hs := hk.genommen_stimmt i f a vo hf (hl _ hp') ha
    exact hs.weiter (hsurf a hs.surface)

/-- **The dequeue of a resolve thread** hands it the oldest task of its Context's channel. -/
theorem KInv.entnommen (hk : KInv N w kanal arbeit) {i c : Nat} {kc : KBlick}
    (hf : w.faeden.get? i = some ⟨c, .frei⟩) (hkc : sicht w c = .context kc) (hp : kc.Passt N)
    (h₀ : 0 < kc.anzahl N) (hkc' : sicht w' c = .context (entnehmen N kc.ctx).2.kblick)
    (hb : ∀ b, b ≠ c → sicht w' b = sicht w b) (hfd : w'.faeden = w.faeden) :
    KInv N { w' with faeden := w'.faeden.set i ⟨c, .loest (entnehmen N kc.ctx).1⟩ }
      (Function.update kanal c (kanal c).tail) (Function.update arbeit i (kanal c).head?.join) := by
  have hkan := hk.schlange c
  rw [schlangeIn_context hkc, (kblick_entnehmen hp h₀).2.2] at hkan
  obtain ⟨t, rest, hkr, ht, hrest⟩ : ∃ t rest, kanal c = t :: rest ∧
      (entnehmen N kc.ctx).1 = t.map Prod.fst ∧
      (entnehmen N kc.ctx).2.kblick.schlange N = rest.map (Option.map Prod.fst) := by
    cases e : kanal c with
    | nil => rw [e] at hkan; cases hkan
    | cons t rest =>
      rw [e, List.map_cons] at hkan
      exact ⟨t, rest, rfl, (List.cons.inj hkan).1, (List.cons.inj hkan).2⟩
  rw [hkr, List.tail_cons, List.head?_cons]
  change KInv N _ _ (Function.update arbeit i t)
  have hsurf : ∀ a, (∃ u, sicht w a = .surface u) → sicht w' a = sicht w a :=
    fun a hu => hb a (ne_of_surface_context hu hkc)
  have hw : ∀ {j f'}, (w'.faeden.set i ⟨c, .loest (entnehmen N kc.ctx).1⟩).get? j = some f' →
      j = i ∧ f' = ⟨c, .loest (t.map Prod.fst)⟩ ∨ j ≠ i ∧ w.faeden.get? j = some f' := by
    intro j f' h
    by_cases e : j = i
    · subst e
      rw [hfd, get?_set_self hf, ht] at h
      exact .inl ⟨rfl, (Option.some.inj h).symm⟩
    · rw [get?_set_anders _ (Ne.symm e), hfd] at h
      exact .inr ⟨e, h⟩
  have hkopf : ∀ a vo, some (a, vo) ∈ kanal c → Stimmt w' a vo := fun a vo ha =>
    have hs := hk.kanal_stimmt i _ a vo hf nofun ha
    hs.weiter (hsurf a hs.surface)
  refine ⟨fun c' => ?_, fun c' k a hc hrt => ?_, fun j f' x h hp' => ?_,
    fun j f' a vo h hp' ha => ?_, fun j f' a vo h hp' ha => ?_⟩
  · change schlangeIn N w' c' = _
    by_cases e : c' = c
    · subst e
      rw [Function.update_same, schlangeIn_context hkc', hrest]
    · rw [Function.update_noteq e, ← hk.schlange]
      exact schlangeIn_eq fun k => by rw [hb c' e]
  · change sicht w' c' = _ at hc
    change ∃ s, sicht w' a = _
    by_cases e : c' = c
    · subst e
      rw [hkc'] at hc
      cases hc
      obtain ⟨u, hu⟩ := hk.ziel c' kc a hkc hrt
      exact ⟨u, (hsurf a ⟨u, hu⟩).trans hu⟩
    · rw [hb c' e] at hc
      obtain ⟨u, hu⟩ := hk.ziel c' k a hc hrt
      exact ⟨u, (hsurf a ⟨u, hu⟩).trans hu⟩
  · rcases hw h with ⟨rfl, rfl⟩ | ⟨e, h⟩
    · rw [Function.update_same]
      exact (RT.loest.inj hp').symm
    · rw [Function.update_noteq e]
      exact hk.genommen j f' x h hp'
  · rcases hw h with ⟨rfl, rfl⟩ | ⟨e, h⟩
    · rw [Function.update_same] at ha
      exact hkopf a vo (by rw [hkr]; exact List.mem_cons_of_mem _ ha)
    · by_cases ec : f'.ctx = c
      · rw [ec, Function.update_same] at ha
        have hs := hk.kanal_stimmt j f' a vo h hp' (by rw [ec, hkr]; exact List.mem_cons_of_mem _ ha)
        exact hs.weiter (hsurf a hs.surface)
      · rw [Function.update_noteq ec] at ha
        have hs := hk.kanal_stimmt j f' a vo h hp' ha
        exact hs.weiter (hsurf a hs.surface)
  · rcases hw h with ⟨rfl, rfl⟩ | ⟨e, h⟩
    · rw [Function.update_same] at ha
      exact hkopf a vo (by rw [hkr, ha]; exact List.mem_cons_self _ _)
    · rw [Function.update_noteq e] at ha
      have hs := hk.genommen_stimmt j f' a vo h hp' ha
      exact hs.weiter (hsurf a hs.surface)

end Transport

/-! ## 5. Every step -/

variable {B : Bau}

theorem kInv_anfang (N : Nat) (orakel : Nat → Bool) (adressen : Nat → Nat) (f16 f444 : Bool) (n : Nat) :
    KInv N (Sys.anfang orakel adressen f16 f444 n).welt (fun _ => []) (fun _ => none) := by
  constructor <;> simp [Sys.anfang, sicht, blick, schlangeIn]

/-- **Every step of the protocol keeps the channel's invariant.** -/
theorem KInv.nach {m : KSys} {c : Wahl} {s' : Sys} (hi : FInv B m.g)
    (hk : KInv B.SURFACE_QUEUE_SIZE m.g.sys.welt m.kanal m.arbeit) (hz : Zug B m.g c s')
    (hp : ∀ x, c.schreibt m.g.sys.welt = some x →
      ¬ Anhaengig B.SURFACE_QUEUE_SIZE m.g.sys.welt x) :
    KInv B.SURFACE_QUEUE_SIZE s'.welt (m.nach s' c).kanal (m.nach s' c).arbeit := by
  cases hz with
  | einfach _ _ hR => exact hk.rahmen hR
  | blockiert _ _ _ hR => exact hk.rahmen hR
  | anlegen _ h =>
    rcases h with hR | ⟨b, hb⟩
    · exact hk.rahmen hR
    · exact hk.mitContext hb
  | beginn _ hsa _ _ _ _ hb =>
    exact hk.begonnen hb (hp _ (by simp only [Wahl.schreibt, Aufruf.schreibt, hsa]))
  | beginnFehler _ _ h =>
    rcases h with rfl | ⟨a, hsa, hN⟩
    · exact hk
    · exact hk.nurAn hN (hp _ (by simp only [Wahl.schreibt, Aufruf.schreibt, hsa]))
  | ende _ hob _ hkc ht hN =>
    exact hk.nurAn hN (hp _ (by simp only [Wahl.schreibt, Aufruf.schreibt, hob, hkc, ht]))
  | abbau _ _ _ _ _ _ _ hM => exact hk.markiert hM
  | abbauLeer => exact hk
  | ruhig hk' _ hR =>
    simp only [KSys.nach, hk']
    exact hk.rahmen hR
  | einreihen hk' _ hkc hn hkc' hb hf _ =>
    simp only [KSys.nach, hk']
    exact hk.eingereiht (hi.passt _ _ hkc) hn hkc hkc' hb hf
  | signal hk' _ =>
    simp only [KSys.nach, hk']
    exact hk.faeden rfl (faedenTreu_geweckt (geweckt_weckeErsten _ _))
  | join hk' hρ _ hg =>
    simp only [KSys.nach, hk']
    obtain ⟨hp', kc, hkc, hx⟩ := hi.abbau _ _ _ (.inr hρ)
    rw [getObjectPtr_eq] at hp'
    obtain ⟨o, ho, rfl⟩ := Option.map_eq_some'.mp hp'
    exact (hk.rahmen hg.rahmen).loesche (by rw [getObject_of_objects hg.2.2]; exact ho)
      (by rw [hg.1]; exact hkc) (hi.exiting_leer _ _ hkc hx)
  | faden hf hb hfr _ hpc hg =>
    simp only [KSys.nach, hf, hfr, ↓reduceIte]
    exact (hk.rahmen hg.rahmen).faeden rfl (faedenTreu_set (hg.2.1 ▸ hf) hb hpc)
  | entnehmen hf hkc hkc' hb hfd _ =>
    simp only [KSys.nach, hf, ↓reduceIte]
    obtain ⟨k, hk₁, hpos⟩ := hi.frei_voll _ _ hf rfl
    rw [hkc] at hk₁
    cases hk₁
    exact hk.entnommen hf hkc (hi.passt _ _ hkc) hpos hkc' hb hfd
  | loest hf hg =>
    simp only [KSys.nach, hf, reduceCtorEq, ↓reduceIte]
    exact (hk.geloest hg).faeden rfl
      (faedenTreu_set (hg.1 ▸ hf) (fun h => RT.noConfusion h) fun _ h => RT.noConfusion h)
  | spuriosKlient => exact hk
  | spuriosFaden hf =>
    exact hk.faeden rfl (faedenTreu_set hf (fun h => RT.noConfusion h) fun _ h => RT.noConfusion h)

/-- **The channel's invariant holds in every state a run of the protocol reaches.** -/
theorem kInv_erreichbar (hN : 0 < B.SURFACE_QUEUE_SIZE) {m : KSys}
    (h : KErreichbar B (KErlaubt B) m) :
    FInv B m.g ∧ KInv B.SURFACE_QUEUE_SIZE m.g.sys.welt m.kanal m.arbeit := by
  induction h with
  | anfang => exact ⟨fInv_anfang B _ _ _ _ _, kInv_anfang _ _ _ _ _ _⟩
  | schritt _ hs he ih =>
    obtain ⟨hi, hk⟩ := ih
    rw [KSys.nach_g, GSys.nach_sys]
    exact ⟨hi.nach hN hs he.1, hk.nach hi (zug hi hs he.1) he.2⟩

end NvdecVaapi
