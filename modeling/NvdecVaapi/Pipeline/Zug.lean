/-
  File:      NvdecVaapi/Pipeline/Zug.lean
  Subject:   What one step of a well-behaved run can do, said once: every step the protocol allows
             is one of sixteen kinds, each with what it does to the world and to the clients.

  * `Aufruf.wartetAuf`, `fuehreAus_halt_bedingung` -- only `nvSyncSurface` and `nvGetImage` block,
    and on the surface their argument names;
  * `Zug` -- the kinds of steps;
  * `zug` -- **every step allowed by the protocol is a `Zug`**, in every state the invariant holds in.
-/
import NvdecVaapi.Pipeline.Aufrufe

namespace NvdecVaapi

variable {B : Bau}

/-! ## 1. The calls that block -/

/-- The surface a call waits on while it is in flight: the argument of `nvSyncSurface`, and the
    surface of `nvGetImage`, which calls it. -/
def Aufruf.wartetAuf (w : Welt) : Aufruf → Option Nat
  | .SyncSurface s | .GetImage s .. => getObjectPtr w.drv s
  | _ => none

theorem nvSyncSurface_halt {sid : Nat} {w w' : Welt} {hh : Halt} {r : Welt → Ausgang VAStatus}
    (h : nvSyncSurface sid w = .halt hh w' r) :
    ∃ a, getObjectPtr w.drv sid = some a ∧ hh = .bedingung a := by
  unfold nvSyncSurface at h
  rw [holeDrv_bind] at h
  rcases ha : getObjectPtr w.drv sid with _ | a <;> rw [ha] at h <;> dsimp only at h
  · cases h
  refine ⟨a, rfl, ?_⟩
  rcases Prog.bind_eq_halt h with ⟨_, h₁, -⟩ | ⟨s, w₁, -, h₁⟩
  · exact absurd h₁ (ruhig_lies _ _).kein_halt
  split at h₁
  · rcases Prog.bind_eq_halt h₁ with ⟨_, h₂, -⟩ | ⟨_, _, _, h₂⟩ <;> cases h₂
    rfl
  · rcases Prog.bind_eq_halt h₁ with ⟨_, h₂, -⟩ | ⟨_, _, _, h₂⟩ <;> cases h₂

theorem nvGetImage_halt {sid iid width height : Nat} {x y : Int} {w w' : Welt} {hh : Halt}
    {r : Welt → Ausgang VAStatus} (h : nvGetImage B sid x y width height iid w = .halt hh w' r) :
    ∃ a, getObjectPtr w.drv sid = some a ∧ hh = .bedingung a := by
  unfold nvGetImage at h
  rw [holeDrv_bind] at h
  rcases e₁ : getObject w.drv sid with _ | so <;> rcases e₂ : getObject w.drv iid with _ | io <;>
    simp only [e₁, e₂] at h <;> try cases h
  rcases Prog.bind_eq_halt h with ⟨_, h₁, -⟩ | ⟨s, w₁, h₁, h⟩
  · exact absurd h₁ (ruhig_lies _ _).kein_halt
  obtain ⟨rfl, -⟩ := lies_fertig h₁
  rcases Prog.bind_eq_halt h with ⟨_, h₁, -⟩ | ⟨_, w₂, h₁, h⟩
  · exact absurd h₁ (ruhig_lies _ _).kein_halt
  obtain ⟨rfl, -⟩ := lies_fertig h₁
  rcases e₃ : s.context with _ | c <;> simp only [e₃] at h
  · cases h
  rcases Prog.bind_eq_halt h with ⟨_, h₁, -⟩ | ⟨_, _, -, h₁⟩
  · exact nvSyncSurface_halt h₁
  · exact absurd h₁ (kopiereBild_ruhig B _ _ _ _).kein_halt

/-- A call that keeps the frame blocks only on the surface it waits on. -/
theorem fuehreAus_halt_bedingung {a : Aufruf} (ha : a.einfach = true) {w w' : Welt} {hh : Halt}
    {r : Welt → Ausgang VAStatus} (h : fuehreAus B a w = .halt hh w' r) :
    ∃ x, a.wartetAuf w = some x ∧ hh = .bedingung x := by
  cases a
  case SyncSurface s => exact nvSyncSurface_halt h
  case GetImage s x y wd ht i => exact nvGetImage_halt (x := x) (y := y) h
  case CreateConfig p e l => exact absurd h (nvCreateConfig_ruhig B p e l).kein_halt
  case CreateSurfaces wd ht f n => exact absurd h (nvCreateSurfaces2_ruhig f wd ht n).kein_halt
  case CreateSurfaces2 f wd ht n => exact absurd h (nvCreateSurfaces2_ruhig f wd ht n).kein_halt
  case CreateBuffer c t s n d => exact absurd h (nvCreateBuffer_ruhig c t s n d).kein_halt
  case MapBuffer b => exact absurd h (nvMapBuffer_ruhig b).kein_halt
  case UnmapBuffer => cases h
  case RenderPicture c l => exact absurd h (nvRenderPicture_ruhig B c l).kein_halt
  case CreateImage f wd ht => exact absurd h (ruhig_map _ (nvCreateImage_ruhig B f wd ht)).kein_halt
  all_goals cases ha

/-! ## 2. The kinds of steps -/

variable (B) in
/-- **What one step of a well-behaved run does**, from the ghost state `g`: the kind of the step,
    with what it leaves in the world and in the client list. -/
inductive Zug (g : GSys) : Wahl → Sys → Prop
  /-- a call that keeps the frame returns -/
  | einfach {k : Nat} {a : Aufruf} {w' : Welt} :
      g.sys.klienten.get? k = some .bereit → a.einfach = true → Rahmen g.sys.welt w' →
      Zug g (.rufe k a) ⟨w', g.sys.klienten.set k .bereit⟩
  /-- `nvSyncSurface` or `nvGetImage` blocks on the surface at `x` it waits on, in flight -/
  | blockiert {k : Nat} {a : Aufruf} {w' : Welt} {x : Nat} {r : Welt → Ausgang VAStatus} :
      g.sys.klienten.get? k = some .bereit → a.einfach = true → a.wartetAuf g.sys.welt = some x →
      Rahmen g.sys.welt w' → (∃ s, sicht w' x = .surface s ∧ s.resolving = true) → Ruhig r →
      Zug g (.rufe k a) ⟨w', g.sys.klienten.set k (.haelt (.bedingung x) r)⟩
  /-- `nvCreateContext` returns, with a new Context and its thread or with none -/
  | anlegen {k cfg : Nat} {pw ph n : Int} {rts : List Nat} {w' : Welt} :
      g.sys.klienten.get? k = some .bereit → (Rahmen g.sys.welt w' ∨ ∃ b, MitContext b g.sys.welt w') →
      Zug g (.rufe k (.CreateContext cfg pw ph rts n)) ⟨w', g.sys.klienten.set k .bereit⟩
  /-- `nvBeginPicture` opens a picture on the idle Context at `ca` with the surface at `a` -/
  | beginn {k cid sid a ca : Nat} {w' : Welt} :
      g.sys.klienten.get? k = some .bereit → getObjectPtr g.sys.welt.drv sid = some a →
      getObjectPtr g.sys.welt.drv cid = some ca → Lebt g.sys.welt ca → ca ∉ g.offen →
      ¬ EndeWartet g.sys ca → Begonnen a ca g.sys.welt w' →
      offenNach g (.BeginPicture cid sid) = ca :: g.offen →
      Zug g (.rufe k (.BeginPicture cid sid)) ⟨w', g.sys.klienten.set k .bereit⟩
  /-- `nvBeginPicture` fails, having changed at most the fields of its surface -/
  | beginnFehler {k cid sid : Nat} {w' : Welt} :
      g.sys.klienten.get? k = some .bereit → offenNach g (.BeginPicture cid sid) = g.offen →
      (w' = g.sys.welt ∨ ∃ a, getObjectPtr g.sys.welt.drv sid = some a ∧ NurAn a g.sys.welt w') →
      Zug g (.rufe k (.BeginPicture cid sid)) ⟨w', g.sys.klienten.set k .bereit⟩
  /-- `nvEndPicture` of the open picture on the Context at `o.obj` writes the fields of its render
      target at `a` and stops at `resolveMutex` -/
  | ende {k cid a : Nat} {o : Object} {kc : KBlick} {st : VAStatus} {w' : Welt} :
      g.sys.klienten.get? k = some .bereit → getObject g.sys.welt.drv cid = some o → o.obj ∈ g.offen →
      sicht g.sys.welt o.obj = .context kc → kc.renderTarget = some a → NurAn a g.sys.welt w' →
      Zug g (.rufe k (.EndPicture cid))
        ⟨w', g.sys.klienten.set k (.haelt (.mutex o.obj) (reiheEinUnterMutex B (some o.obj) st))⟩
  /-- `nvDestroyContext` of the idle Context at `ca` sets `exiting` and stops before its signal -/
  | abbau {k cid ca : Nat} {kc : KBlick} {w' : Welt} :
      g.sys.klienten.get? k = some .bereit → getObjectPtr g.sys.welt.drv cid = some ca →
      sicht g.sys.welt ca = .context kc → kc.exiting = false → kc.anzahl B.SURFACE_QUEUE_SIZE = 0 →
      ca ∉ g.offen → ¬ EndeWartet g.sys ca → Markiert ca g.sys.welt w' →
      Zug g (.rufe k (.DestroyContext cid))
        ⟨w', g.sys.klienten.set k (.haelt .frei (destroyContextNachExiting (some ca) >>=
          loescheContext cid))⟩
  /-- `nvDestroyContext` of an id that names nothing -/
  | abbauLeer {k cid : Nat} :
      g.sys.klienten.get? k = some .bereit → getObjectPtr g.sys.welt.drv cid = none →
      Zug g (.rufe k (.DestroyContext cid)) ⟨g.sys.welt, g.sys.klienten.set k .bereit⟩
  /-- a client at rest in its role, woken, finishes its call -/
  | ruhig {k : Nat} {r : Welt → Ausgang VAStatus} {w' : Welt} :
      g.sys.klienten.get? k = some (.haelt .frei r) → g.rollen k = .ruhe → Rahmen g.sys.welt w' →
      Zug g (.weiter k) ⟨w', g.sys.klienten.set k .bereit⟩
  /-- `nvEndPicture` takes `resolveMutex` of the Context at `ca` and enqueues its render target -/
  | einreihen {k ca : Nat} {r : Welt → Ausgang VAStatus} {kc : KBlick} {w' : Welt} :
      g.sys.klienten.get? k = some (.haelt (.mutex ca) r) → g.rollen k = .ende ca →
      sicht g.sys.welt ca = .context kc →
      kc.anzahl B.SURFACE_QUEUE_SIZE + 1 < B.SURFACE_QUEUE_SIZE →
      sicht w' ca = .context (einreihen B.SURFACE_QUEUE_SIZE kc.ctx kc.renderTarget).kblick →
      (∀ b, b ≠ ca → sicht w' b = sicht g.sys.welt b) →
      w'.faeden = weckeErsten ca g.sys.welt.faeden → w'.drv.objects = g.sys.welt.drv.objects →
      Zug g (.weiter k) ⟨w', g.sys.klienten.set k .bereit⟩
  /-- `nvDestroyContext` signals `resolveCondition` and goes to its join -/
  | signal {k cid ca : Nat} {r : Welt → Ausgang VAStatus} :
      g.sys.klienten.get? k = some (.haelt .frei r) → g.rollen k = .abbau cid ca →
      Zug g (.weiter k) ⟨{ g.sys.welt with faeden := weckeErsten ca g.sys.welt.faeden },
        g.sys.klienten.set k (.haelt (.join ca) (destroyContextNachJoin (some ca) >>=
          loescheContext cid))⟩
  /-- `nvDestroyContext` joins the returned thread of the Context at `ca` and deletes `cid` -/
  | join {k cid ca : Nat} {r : Welt → Ausgang VAStatus} {w₁ : Welt} :
      g.sys.klienten.get? k = some (.haelt (.join ca) r) → g.rollen k = .join cid ca →
      (∀ i f, g.sys.welt.faeden.get? i = some f → f.ctx = ca → f.pc = .beendet) →
      Gleich g.sys.welt w₁ →
      Zug g (.weiter k) ⟨{ w₁ with drv := deleteObject w₁.drv cid }, g.sys.klienten.set k .bereit⟩
  /-- a resolve thread that neither dequeues nor resolves moves on -/
  | faden {i : Nat} {f : ResolveFaden} {pc : RT} {w' : Welt} :
      g.sys.welt.faeden.get? i = some f → f.pc ≠ .beendet → f.pc ≠ .frei → (∀ x, f.pc ≠ .loest x) →
      (∀ x, pc ≠ .loest x) → Gleich g.sys.welt w' →
      Zug g (.faden i) ⟨{ w' with faeden := w'.faeden.set i ⟨f.ctx, pc⟩ }, g.sys.klienten⟩
  /-- the resolve thread of the Context at `c` takes the oldest entry of its ring -/
  | entnehmen {i c : Nat} {kc : KBlick} {w' : Welt} :
      g.sys.welt.faeden.get? i = some ⟨c, .frei⟩ → sicht g.sys.welt c = .context kc →
      sicht w' c = .context (entnehmen B.SURFACE_QUEUE_SIZE kc.ctx).2.kblick →
      (∀ b, b ≠ c → sicht w' b = sicht g.sys.welt b) → w'.faeden = g.sys.welt.faeden →
      w'.drv.objects = g.sys.welt.drv.objects →
      Zug g (.faden i) ⟨{ w' with
        faeden := w'.faeden.set i ⟨c, .loest (entnehmen B.SURFACE_QUEUE_SIZE kc.ctx).1⟩ },
        g.sys.klienten⟩
  /-- the resolve thread resolves the surface at `a`, clears its `resolving` and signals it -/
  | loest {i c a : Nat} {w' : Welt} :
      g.sys.welt.faeden.get? i = some ⟨c, .loest (some a)⟩ → Geloest a g.sys.welt w' →
      Zug g (.faden i) ⟨{ w' with faeden := w'.faeden.set i ⟨c, .kopf⟩ },
        weckeKlient a g.sys.klienten⟩
  /-- a client blocked on a surface wakes without a signal -/
  | spuriosKlient {k a : Nat} {r : Welt → Ausgang VAStatus} :
      g.sys.klienten.get? k = some (.haelt (.bedingung a) r) →
      Zug g (.spuriosKlient k) { g.sys with klienten := g.sys.klienten.set k (.haelt .frei r) }
  /-- a resolve thread waiting on `resolveCondition` wakes without a signal -/
  | spuriosFaden {i c : Nat} :
      g.sys.welt.faeden.get? i = some ⟨c, .wartet⟩ →
      Zug g (.spuriosFaden i)
        { g.sys with welt := { g.sys.welt with faeden := g.sys.welt.faeden.set i ⟨c, .geweckt⟩ } }

/-! ## 3. Every allowed step is a `Zug` -/

variable {g : GSys} {s' : Sys}

theorem zug_rufe {k : Nat} {a : Aufruf} (hs : schritt B g.sys (.rufe k a) = some s')
    (he : Erlaubt B g (.rufe k a) s') : Zug B g (.rufe k a) s' := by
  obtain ⟨hk, hn⟩ := schritt_rufe B hs
  obtain ⟨ho, hst⟩ := he
  rcases AufrufOrdentlich.cases ho with hE | ⟨_, _, _, _, _, rfl⟩ | ⟨cid, sid, rfl⟩ | ⟨cid, rfl⟩ |
    ⟨cid, rfl⟩
  · rcases fuehreAus_wartet hE g.sys.welt with ⟨_, he⟩ | ⟨_, w', he, hR⟩ | ⟨x, w', r, he, hR, hx, hr⟩ <;>
      rw [he] at hn <;> cases hn
    · exact .einfach hk hE hR
    · obtain ⟨_, hw, ⟨⟩⟩ := fuehreAus_halt_bedingung hE he
      exact .blockiert hk hE hw hR hx hr
  · rcases Sys.nach_some hn with ⟨_, w', he, rfl⟩ | ⟨_, _, _, he, -⟩
    · exact .anlegen hk (nvCreateContext_wirkung B ho.1 ho.2 he)
    · exact absurd he (nvCreateContext_ohneHalt B _ _ _ _ _).kein_halt
  · rcases Sys.nach_some hn with ⟨st, w', he, rfl⟩ | ⟨_, _, _, he, -⟩
    swap
    · exact absurd he (nvBeginPicture_ohneHalt cid sid).kein_halt
    replace he : nvBeginPicture cid sid g.sys.welt = .fertig st w' := he
    obtain ⟨hs, hf⟩ := nvBeginPicture_wirkung he
    by_cases e : st = .success
    · subst e
      obtain ⟨a, ca, hsa, hc, hb⟩ := hs rfl
      obtain ⟨ca', hc', hl, hno, hew⟩ := ho
      rw [hc] at hc'
      cases hc'
      exact .beginn hk hsa hc hl hno hew hb (by simp only [offenNach, hc, he, Ausgang.wert, ↓reduceIte])
    · refine .beginnFehler hk ?_ (hf e)
      simp only [offenNach, he, Ausgang.wert, Option.some.injEq, e, ↓reduceIte]
      split <;> rfl
  · rcases Sys.nach_some hn with ⟨_, _, he, rfl⟩ | ⟨_, w', r, he, rfl⟩
    · exact absurd (nvEndPicture_fertig B he).2 hst
    obtain ⟨o, kc, a, st, hob, rfl, hkc, ht, hN, hr⟩ := nvEndPicture_halt B he
    obtain ⟨o', ho', hc⟩ := ho
    rw [hob] at ho'
    cases ho'
    obtain rfl := funext hr
    exact .ende hk hob hc hkc ht hN
  · rcases Sys.nach_some hn with ⟨_, w', he, rfl⟩ | ⟨_, w', r, he, rfl⟩
    · rcases nvDestroyContext_fertig he with ⟨hp, rfl⟩ | ⟨w₁, -, hsf, rfl⟩
      · exact .abbauLeer hk hp
      · exact absurd hsf hst
    obtain ⟨ca, kc, hp, rfl, hkc, hkc', hb, hf, hob, hr⟩ := nvDestroyContext_halt he
    obtain ⟨h₁, h₂, hno, hew⟩ := ho ca kc hp hkc
    obtain rfl := funext hr
    exact .abbau hk hp hkc h₁ h₂ hno hew ⟨⟨kc, hkc, hkc'⟩, hb, hf, hob⟩

theorem zug_weiter (hi : FInv B g) {k : Nat} (hs : schritt B g.sys (.weiter k) = some s')
    (ho : Ordentlich B g (.weiter k)) : Zug B g (.weiter k) s' := by
  obtain ⟨hh, r, hk, hn, hc⟩ := schritt_weiter B hs
  have hf := hi.form k _ hk
  simp only [Ordentlich, hk] at ho
  cases hρ : g.rollen k with
  | ruhe =>
    rw [hρ] at hf
    obtain ⟨hb, hr⟩ := hf
    obtain rfl : hh = .frei := by
      rcases hb with rfl | ⟨a, rfl⟩
      · rfl
      · rcases hc with h | ⟨_, h⟩ | ⟨_, h, -⟩ <;> cases h
    rcases Sys.nach_some hn with ⟨_, w', he, rfl⟩ | ⟨_, _, _, he, -⟩
    · exact .ruhig hk hρ (hr.rel he)
    · exact absurd he hr.kein_halt
  | ende ca =>
    rw [hρ] at hf
    obtain ⟨rfl, st, hr⟩ := hf
    rw [hr] at hn
    rcases Sys.nach_some hn with ⟨_, w', he, rfl⟩ | ⟨_, _, _, he, -⟩
    · obtain ⟨kc, hkc, hkc', hb, hf, hob⟩ := reiheEinUnterMutex_fertig B he
      obtain ⟨kc', hkc'', hcap⟩ := ho
      rw [hkc] at hkc''
      cases hkc''
      exact .einreihen hk hρ hkc hcap hkc' hb hf hob
    · exact absurd he (reiheEinUnterMutex_kein_halt B)
  | abbau cid ca =>
    rw [hρ] at hf
    obtain ⟨rfl, hr⟩ := hf
    rw [hr, destroyContextNachExiting_apply] at hn
    cases hn
    exact .signal hk hρ
  | join cid ca =>
    rw [hρ] at hf
    obtain ⟨rfl, hr⟩ := hf
    rw [hr] at hn
    rcases Sys.nach_some hn with ⟨_, w', he, rfl⟩ | ⟨_, _, _, he, -⟩
    · obtain ⟨w₁, hg, rfl⟩ := destroyContextNachJoin_fertig he
      exact .join hk hρ ho hg
    · exact absurd he destroyContextNachJoin_kein_halt

theorem zug_faden {i : Nat} (hs : schritt B g.sys (.faden i) = some s')
    (hst : ¬ StapelFehler g.sys.welt s'.welt) : Zug B g (.faden i) s' := by
  obtain ⟨⟨c, q⟩, p, pc, sig, w₀, hf, hp, hw, rfl⟩ := schritt_faden B hs
  cases q with
  | start =>
    obtain ⟨rfl, hg, rfl | ⟨rfl, hst'⟩⟩ := resolveSchritt_start B hp hw
    · exact .faden hf nofun nofun (fun _ => nofun) (fun _ => nofun) hg
    · exact absurd hst' hst
  | kopf | geweckt =>
    obtain ⟨rfl, rfl, k, -, rfl⟩ := resolveSchritt_exiting B (by simp) hp hw
    exact .faden hf nofun nofun (fun _ => nofun) (fun _ h => by split at h <;> cases h) (Gleich.refl _)
  | geprueft =>
    obtain ⟨rfl, rfl, k, -, rfl⟩ := resolveSchritt_geprueft B hp hw
    exact .faden hf nofun nofun (fun _ => nofun) (fun _ h => by split at h <;> cases h) (Gleich.refl _)
  | wartet => cases hp
  | frei =>
    obtain ⟨rfl, k, hk, rfl, h₁, h₂, h₃, h₄⟩ := resolveSchritt_frei B hp hw
    exact .entnehmen hf hk h₁ h₂ h₃ h₄
  | loest e =>
    rcases e with _ | a
    · exact absurd hw (resolveSchritt_loest_none B hp)
    obtain ⟨rfl, rfl, hg⟩ := resolveSchritt_loest B hp hw
    exact .loest hf hg
  | beendet => cases hp

/-- **Every step the protocol allows is a `Zug`**, from a state the invariant holds in. -/
theorem zug (hi : FInv B g) {c : Wahl} (hs : schritt B g.sys c = some s') (he : Erlaubt B g c s') :
    Zug B g c s' := by
  cases c with
  | rufe k a => exact zug_rufe hs he
  | weiter k => exact zug_weiter hi hs he.1
  | faden i => exact zug_faden hs he.2
  | spuriosKlient k =>
    obtain ⟨a, r, hk, rfl⟩ := schritt_spuriosKlient B hs
    exact .spuriosKlient hk
  | spuriosFaden i =>
    obtain ⟨c, hf, rfl⟩ := schritt_spuriosFaden B hs
    exact .spuriosFaden hf

end NvdecVaapi
