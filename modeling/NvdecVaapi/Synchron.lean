/-
  File:      NvdecVaapi/Synchron.lean
  Subject:   What `nvSyncSurface` waits for. It tests `resolving` once, with an `if`: a client that
             wakes from `pthread_cond_wait` returns `SUCCESS` whatever `resolving` is then.

  * `nvSyncSurface_blockiert` -- a call on a surface whose `resolving` is set stops on the
    surface's condition in the world it found, and returns `SUCCESS` in whatever world it resumes;
  * **`sync_ohne_aufloesung`** -- from every state, a client's `nvSyncSurface` on a surface whose
    `resolving` is set, a spurious wakeup and the resumption lead back to that very state: the call
    has returned `SUCCESS` and the surface's picture is as unresolved as before.
-/
import NvdecVaapi.Aufloesung

namespace NvdecVaapi

variable (B : Bau)

/-! ## 1. One test, no loop -/

/-- `nvSyncSurface` on a surface whose `resolving` is set waits on the surface's condition, and the
    rest of the call returns `SUCCESS` without a second look at `resolving`. -/
theorem nvSyncSurface_blockiert {S a : Nat} {w : Welt} {x : NVSurface}
    (ha : getObjectPtr w.drv S = some a) (hx : w.drv.mem a = some (.surface x))
    (hr : x.resolving = true) :
    ∃ r, nvSyncSurface S w = .halt (.bedingung a) w r ∧ ∀ w', r w' = .fertig .success w' :=
  ⟨_, by simp [nvSyncSurface, ha, liesSurface, lies, hx, Payload.alsSurface, hr, halte,
    Prog.bind_apply, Ausgang.bind], fun _ => rfl⟩

/-- **A spurious wakeup ends `nvSyncSurface` before the resolve**: in every state in which client
    `k` is at rest and the surface `S` (at `a`) has `resolving` set, the call `nvSyncSurface(S)`
    waits on the surface's condition and returns `SUCCESS` in whatever world it resumes, and the
    call, a spurious wakeup of the client and its resumption lead back to the state they started
    from: the call has returned while the surface's picture is exactly as unresolved as before. -/
theorem sync_ohne_aufloesung {s : Sys} {k S a : Nat} {x : NVSurface}
    (hk : s.klienten.get? k = some .bereit) (ha : getObjectPtr s.welt.drv S = some a)
    (hx : s.welt.drv.mem a = some (.surface x)) (hr : x.resolving = true) :
    (∃ r, nvSyncSurface S s.welt = .halt (.bedingung a) s.welt r ∧
      ∀ w, r w = .fertig .success w) ∧
      laufe B s [.rufe k (.SyncSurface S), .spuriosKlient k, .weiter k] = some s := by
  obtain ⟨r, hs, hf⟩ := nvSyncSurface_blockiert ha hx hr
  refine ⟨⟨r, hs, hf⟩, ?_⟩
  obtain ⟨hl, hb⟩ := List.get?_eq_some.1 hk
  rw [List.get_eq_getElem] at hb
  have he : s.klienten.set k .bereit = s.klienten := by
    refine List.ext_getElem? fun j => ?_
    rw [List.get?_eq_getElem?] at hk
    by_cases e : k = j
    · rw [← e, List.getElem?_set_self hl, hk]
    · rw [List.getElem?_set_ne e]
  simp [laufe, schritt, hb, fuehreAus, hs, Sys.nach, hl, hf, he]

/-- `Anhaengig`, decided, in the other direction. -/
theorem anhaengig_of_anhaengigB {N : Nat} {w : Welt} {a : Nat} (h : anhaengigB N w a = true) :
    Anhaengig N w a := by
  simp only [anhaengigB, Bool.or_eq_true, List.any_eq_true, Bool.and_eq_true, bne_iff_ne, ne_eq,
    List.elem_iff, beq_iff_eq, List.contains] at h
  rcases h with ⟨f, hf, hp, hm⟩ | ⟨f, hf, hp⟩
  · obtain ⟨i, hi⟩ := List.mem_iff_get?.1 hf
    exact .inl ⟨i, f, hi, hp, hm⟩
  · obtain ⟨i, hi⟩ := List.mem_iff_get?.1 hf
    exact .inr ⟨i, f, hi, hp⟩

/-- The picture of `einBild` enqueued by the resumed `nvEndPicture`, before the resolve thread of
    its Context has taken a step. -/
def einBildEingereiht : List Wahl := einBild ++ [.weiter 0]

theorem sync_ohne_aufloesung_beispiel :
    ∃ g x, GErreichbar beispielBau (Erlaubt beispielBau) g ∧
      g.sys.welt.drv.mem 3 = some (.surface x) ∧ x.resolving = true ∧
      Anhaengig beispielBau.SURFACE_QUEUE_SIZE g.sys.welt 3 ∧
      (∃ r, nvSyncSurface 2 g.sys.welt = .halt (.bedingung 3) g.sys.welt r ∧
        ∀ w, r w = .fertig .success w) ∧
      laufe beispielBau g.sys [.rufe 0 (.SyncSurface 2), .spuriosKlient 0, .weiter 0] =
        some g.sys := by
  have hl : ((glaufe beispielBau (erlaubtB beispielBau) (einBildStart 100) einBildEingereiht).map
      fun g => ((g.sys.klienten.get? 0).map fun | .bereit => true | .haelt .. => false,
        getObjectPtr g.sys.welt.drv 2,
        ((g.sys.welt.drv.mem 3).bind Payload.alsSurface).map NVSurface.resolving,
        anhaengigB beispielBau.SURFACE_QUEUE_SIZE g.sys.welt 3)) =
      some (some true, some 3, some true, true) := by decide
  obtain ⟨g, hg, hf⟩ := Option.map_eq_some'.mp hl
  simp only [Prod.mk.injEq] at hf
  obtain ⟨hk, ha, hx, hp⟩ := hf
  obtain ⟨k, hk, hb⟩ := Option.map_eq_some'.mp hk
  obtain ⟨v, hv, hres⟩ := Option.map_eq_some'.mp hx
  obtain ⟨q, hm, hq⟩ := Option.bind_eq_some.mp hv
  cases k with
  | haelt => cases hb
  | bereit =>
    cases q <;> simp only [Payload.alsSurface, Option.some.injEq, reduceCtorEq] at hq
    subst hq
    exact ⟨g, _, gerreichbar_glaufe (fun _ _ _ => erlaubtB_sound) (.anfang _ _ _ _ _) hg, hm, hres,
      anhaengig_of_anhaengigB hp, sync_ohne_aufloesung beispielBau hk ha hm hres⟩

end NvdecVaapi
