/-
  File:      NvdecVaapi/Abbau.lean
  Subject:   `destroyContext` against a resolve thread that is between its test of `exiting` and
             its wait.

  `destroyContext` sets `ctx->exiting` and signals `resolveCondition` without taking
  `resolveMutex`. The resolve thread tests `exiting` and then `readIdx == writeIdx` while it holds
  the mutex, and only then waits: a signal sent between the two finds no waiter and is lost.

  * `weckeErsten_ohneWartenden`, `signal_ohneWartenden` -- from every world in which no resolve
    thread of the Context waits, the signal changes nothing: the call reaches its timed join in
    the world it signalled in;
  * `abbauStart`, `abbauBisWarten` -- one client and the scheduler's choices: a Context is
    created, its thread passes its `exiting` test, the client sets `exiting` and signals, the
    thread waits;
  * `abbau_signal_verloren` -- the state so reached is reachable, the thread waits with
    `exiting` set, and once the client's timed join gives up the Context is deleted with the
    thread still waiting.
-/
import NvdecVaapi.Schritte

namespace NvdecVaapi

/-! ## 1. A signal with no waiter -/

/-- With no thread of the Context at `a` waiting, the wakeup wakes none. -/
theorem weckeErsten_ohneWartenden {a : Nat} :
    ∀ {fs : List ResolveFaden}, (∀ f ∈ fs, f.ctx = a → f.pc ≠ .wartet) → weckeErsten a fs = fs
  | [], _ => rfl
  | f :: fs, h => by
    rw [weckeErsten, if_neg fun hf => h f (.head _) hf.1 hf.2,
      weckeErsten_ohneWartenden fun g hg => h g (.tail _ hg)]

/-- **The signal of `destroyContext` is lost when no resolve thread waits**: from every world in
    which no thread of the Context at `ca` is blocked in `pthread_cond_wait`, the rest of
    `nvDestroyContext` after `exiting = true` reaches its timed join in that same world. -/
theorem signal_ohneWartenden {ca cid : Nat} {w : Welt}
    (h : ∀ f ∈ w.faeden, f.ctx = ca → f.pc ≠ .wartet) :
    (destroyContextNachExiting (some ca) >>= loescheContext cid) w =
      .halt (.join ca) w (destroyContextNachJoin (some ca) >>= loescheContext cid) := by
  rw [destroyContextNachExiting_apply, weckeErsten_ohneWartenden h]

/-! ## 2. A run that loses it -/

/-- One client, every external call succeeding, fresh addresses from 1 on. -/
def abbauStart : Sys := Sys.anfang (fun _ => true) (fun k => k + 1) false false 1

/-- Config (id 1) and Context (id 2, at address 4, resolve thread 0); the thread starts and passes
    its test of `exiting`; the client calls `nvDestroyContext`, sets `exiting`, and after its
    first halt signals; the thread then finds the ring empty and waits. -/
def abbauBisWarten : List Wahl :=
  [.rufe 0 (.CreateConfig .HEVCMain .VLD []), .rufe 0 (.CreateContext 1 16 16 [] 0),
    .faden 0, .faden 0, .rufe 0 (.DestroyContext 2), .weiter 0, .faden 0]

/-- **The signal of `destroyContext` is lost**: in a reachable state the resolve thread of a
    Context whose `exiting` is set waits on `resolveCondition` with the client in its timed join,
    and when the join returns the Context is deleted while the thread still waits; nothing
    signals it again. -/
theorem abbau_signal_verloren :
    ∃ s, Erreichbar beispielBau (fun _ _ _ => True) s ∧ s.welt.faeden = [⟨4, .wartet⟩] ∧
      ((s.welt.drv.mem 4).bind Payload.alsContext).map NVContext.exiting = some true ∧
      (∃ r, s.klienten = [.haelt (.join 4) r]) ∧
      ∃ s', schritt beispielBau s (.weiter 0) = some s' ∧ s'.welt.faeden = [⟨4, .wartet⟩] ∧
        getObject s'.welt.drv 2 = none ∧ s'.klienten = [.bereit] := by
  have h₁ : (laufe beispielBau abbauStart abbauBisWarten).map (fun s =>
      (s.welt.faeden, ((s.welt.drv.mem 4).bind Payload.alsContext).map NVContext.exiting,
        s.klienten.map fun k => match k with | .haelt (.join a) _ => some a | _ => none)) =
      some ([⟨4, .wartet⟩], some true, [some 4]) := by decide
  have h₂ : (laufe beispielBau abbauStart abbauBisWarten).map (fun s =>
      (schritt beispielBau s (.weiter 0)).map fun s' => (s'.welt.faeden,
        (getObject s'.welt.drv 2).isNone, s'.klienten.map fun k => match k with
          | .bereit => true
          | _ => false)) =
      some (some ([⟨4, .wartet⟩], true, [true])) := by decide
  obtain ⟨s, hl, hs⟩ := Option.map_eq_some'.mp h₁
  rw [hl, Option.map_some', Option.some.injEq] at h₂
  obtain ⟨s', hs', he⟩ := Option.map_eq_some'.mp h₂
  simp only [Prod.mk.injEq] at hs he
  obtain ⟨hf, hx, hk⟩ := hs
  obtain ⟨hf', hg, hk'⟩ := he
  obtain ⟨k, _, hkl, hk, h⟩ := List.map_eq_cons_iff.1 hk
  obtain ⟨k', _, hkl', hk', h'⟩ := List.map_eq_cons_iff.1 hk'
  rw [List.map_eq_nil_iff] at h h'
  subst h h'
  refine ⟨s, erreichbar_laufe beispielBau (.anfang _ _ _ _ _) hl, hf, hx, ?_, s', hs', hf',
    Option.isNone_iff_eq_none.1 hg, ?_⟩
  · rcases k with _ | ⟨_ | _ | _ | _, r⟩ <;> cases hk
    exact ⟨r, hkl⟩
  · rcases k' with _ | ⟨_, r⟩
    · exact hkl'
    · cases hk'

end NvdecVaapi
