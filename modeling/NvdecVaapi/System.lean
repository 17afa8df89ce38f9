/-
  File:      NvdecVaapi/System.lean
  Subject:   The driver as a system of threads: client threads running entry points, one resolve
             thread per Context running `resolveSurfaces`, and a scheduler that picks who goes
             next.

  A client runs an entry point until it returns or stops at a `Halt`; it goes on when the
  scheduler resumes it, which for `Halt.bedingung` needs a signal (or a spurious wakeup) and for
  `Halt.mutex` needs `resolveMutex` free; a timed join (`Halt.join`) may return at any time, the
  deadline being outside the model. A resolve thread takes one step of `resolveSurfaces` at
  a time, from the place `RT` it stands at; between two of its steps any other thread may run.

  * `exportCudaPtr` -- the backend call that ends a successful resolve, modelled from the spec;
  * `resolveSchritt` -- one step of `resolveSurfaces` from each place;
  * `Klient`, `Sys`, `weckeKlient`, `haeltMutex` -- the client threads, the whole system, the
    signal on a surface's condition, who holds `resolveMutex`;
  * `Wahl`, `schritt` -- the scheduler's choices and the step each one takes;
  * `schritt_rufe`, `schritt_weiter`, `schritt_faden`, ... -- what each choice can do;
  * `Erreichbar` -- the states reached from a start by steps a predicate allows; `laufe`,
    `erreichbar_laufe` -- a list of choices run one after another, for concrete runs.
-/
import NvdecVaapi.Rahmen

namespace NvdecVaapi

variable (B : Bau)

/-! ## 1. The resolve thread -/

/-- Modelled from the spec: `exportCudaPtr` "copies (or re-references) one decoded picture out of
    the decoder into the Surface's backing image"; as the spec's resolve step 7 requires, the
    success path then clears `resolving` and signals the Surface's condition (the resolve step
    returns the surface whose waiter is woken). -/
def exportCudaPtr (a : Nat) : Prog Unit := do
  let _ ← ruf .exportCudaPtr
  aendereSurface (some a) fun x =>
    { x with backingImage := some (x.backingImage.getD a), resolving := false }

/-- `surface->resolving = 0` under the surface's mutex (the caller signals). -/
def gibFrei (a : Nat) : Prog Unit := aendereSurface (some a) fun x => { x with resolving := false }

/-- One step of `resolveSurfaces` for the Context at `c` from the place `pc`: the place it
    reaches and the surface whose condition it signalled. A thread blocked in
    `pthread_cond_wait` (`wartet`) or returned (`beendet`) has no step of its own. -/
def resolveSchritt (c : Nat) : RT → Option (Prog (RT × Option Nat))
  | .start => some do
    if (← ruf .cuCtxPushCurrent) then pure (.kopf, none) else pure (.beendet, none)
  | .kopf => some do
    let ctx ← liesContext (some c)
    pure (if ctx.exiting then .beendet else .geprueft, none)
  | .geprueft => some do
    let ctx ← liesContext (some c)
    pure (if ringLeer ctx then .wartet else .frei, none)
  | .wartet => none
  | .geweckt => some do
    let ctx ← liesContext (some c)
    pure (if ctx.exiting then .beendet else .geprueft, none)
  | .frei => some do
    let ctx ← liesContext (some c)
    speichere c (.context (entnehmen B.SURFACE_QUEUE_SIZE ctx).2)
    pure (.loest (entnehmen B.SURFACE_QUEUE_SIZE ctx).1, none)
  | .loest none => some (abbrechen .nullDeref)
  | .loest (some a) => some do
    let surface ← liesSurface (some a)
    if surface.decodeFailed then
      gibFrei a
      pure (.kopf, some a)
    else do
      let _ ← liesContext (some c)
      if (← ruf (.cuvidMapVideoFrame surface.pictureIdx surface.progressiveFrame
          surface.topFieldFirst surface.secondField)) then
        exportCudaPtr a
        let _ ← ruf .cuvidUnmapVideoFrame
        pure (.kopf, some a)
      else
        gibFrei a
        pure (.kopf, some a)
  | .beendet => none

/-! ## 2. Threads and the system -/

/-- A client thread: at rest between calls, or inside an entry point stopped at a `Halt`, with the
    rest of the call to run in the world it finds when it resumes. -/
inductive Klient where
  | bereit
  | haelt (h : Halt) (weiter : Welt → Ausgang VAStatus)

/-- The driver, its resolve threads (in `welt`) and the client threads. -/
structure Sys where
  welt : Welt
  klienten : List Klient

/-- `pthread_cond_signal(&surface->cond)` for the surface at `a`: the first client blocked on it
    may go on; a signal nobody waits for is lost. -/
def weckeKlient (a : Nat) : List Klient → List Klient
  | [] => []
  | .haelt (.bedingung b) r :: ks =>
    if b = a then .haelt .frei r :: ks else .haelt (.bedingung b) r :: weckeKlient a ks
  | k :: ks => k :: weckeKlient a ks

/-- Whether the resolve thread of the Context at `a` holds `resolveMutex`. -/
def haeltMutex (w : Welt) (a : Nat) : Bool :=
  w.faeden.any fun f => f.ctx = a && (f.pc = .geprueft || f.pc = .geweckt)

/-- Client `k` after its run reached `o`: at rest when the call returned, stopped at the halt, and
    no state at all when the run has undefined behaviour. -/
def Sys.nach (s : Sys) (k : Nat) : Ausgang VAStatus → Option Sys
  | .abbruch _ => none
  | .fertig _ w => some ⟨w, s.klienten.set k .bereit⟩
  | .halt h w r => some ⟨w, s.klienten.set k (.haelt h r)⟩

/-- The start: a zeroed driver with the capability flags, no resolve thread, no call made yet, and
    `n` client threads at rest; the oracles answer the external calls and `calloc`. -/
def Sys.anfang (orakel : Nat → Bool) (adressen : Nat → Nat) (f16 f444 : Bool) (n : Nat) : Sys :=
  ⟨{ drv := { supports16BitSurface := f16, supports444Surface := f444 }, orakel := orakel,
     adressen := adressen }, List.replicate n .bereit⟩

/-! ## 3. The scheduler -/

/-- What the scheduler lets happen next. -/
inductive Wahl where
  /-- client `k`, at rest, calls an entry point -/
  | rufe (k : Nat) (a : Aufruf)
  /-- client `k` goes on from its halt -/
  | weiter (k : Nat)
  /-- resolve thread `i` takes a step -/
  | faden (i : Nat)
  /-- client `k`, blocked on a surface's condition, wakes without a signal -/
  | spuriosKlient (k : Nat)
  /-- resolve thread `i`, blocked on `resolveCondition`, wakes without a signal -/
  | spuriosFaden (i : Nat)

/-- The step a choice takes, if it can be taken and has no undefined behaviour. -/
def schritt (s : Sys) : Wahl → Option Sys
  | .rufe k a =>
    match s.klienten.get? k with
    | some .bereit => s.nach k (fuehreAus B a s.welt)
    | _ => none
  | .weiter k =>
    match s.klienten.get? k with
    | some (.haelt .frei r) => s.nach k (r s.welt)
    | some (.haelt (.join _) r) => s.nach k (r s.welt)
    | some (.haelt (.mutex a) r) => if haeltMutex s.welt a then none else s.nach k (r s.welt)
    | _ => none
  | .faden i =>
    match s.welt.faeden.get? i with
    | some f =>
      match resolveSchritt B f.ctx f.pc with
      | some p =>
        match p s.welt with
        | .fertig (pc, sig) w =>
          some ⟨{ w with faeden := w.faeden.set i ⟨f.ctx, pc⟩ },
            match sig with
            | some a => weckeKlient a s.klienten
            | none => s.klienten⟩
        | _ => none
      | none => none
    | none => none
  | .spuriosKlient k =>
    match s.klienten.get? k with
    | some (.haelt (.bedingung _) r) => some { s with klienten := s.klienten.set k (.haelt .frei r) }
    | _ => none
  | .spuriosFaden i =>
    match s.welt.faeden.get? i with
    | some ⟨c, .wartet⟩ =>
      some { s with welt := { s.welt with faeden := s.welt.faeden.set i ⟨c, .geweckt⟩ } }
    | _ => none

/-! ## 4. What each choice can do -/

theorem Sys.nach_some {s s' : Sys} {k : Nat} {o : Ausgang VAStatus} (h : s.nach k o = some s') :
    (∃ st w, o = .fertig st w ∧ s' = ⟨w, s.klienten.set k .bereit⟩) ∨
      ∃ hh w r, o = .halt hh w r ∧ s' = ⟨w, s.klienten.set k (.haelt hh r)⟩ := by
  cases o with
  | abbruch => cases h
  | fertig st w => cases h; exact .inl ⟨st, w, rfl, rfl⟩
  | halt hh w r => cases h; exact .inr ⟨hh, w, r, rfl, rfl⟩

theorem schritt_rufe {s s' : Sys} {k : Nat} {a : Aufruf} (h : schritt B s (.rufe k a) = some s') :
    s.klienten.get? k = some .bereit ∧ s.nach k (fuehreAus B a s.welt) = some s' := by
  simp only [schritt] at h
  split at h
  · exact ⟨‹_›, h⟩
  · cases h

theorem schritt_weiter {s s' : Sys} {k : Nat} (h : schritt B s (.weiter k) = some s') :
    ∃ hh r, s.klienten.get? k = some (.haelt hh r) ∧ s.nach k (r s.welt) = some s' ∧
      (hh = .frei ∨ (∃ ca, hh = .join ca) ∨ ∃ ca, hh = .mutex ca ∧ haeltMutex s.welt ca = false) := by
  simp only [schritt] at h
  split at h
  · exact ⟨_, _, ‹_›, h, .inl rfl⟩
  · exact ⟨_, _, ‹_›, h, .inr (.inl ⟨_, rfl⟩)⟩
  · split at h
    · cases h
    · exact ⟨_, _, ‹_›, h, .inr (.inr ⟨_, rfl, Bool.eq_false_iff.mpr ‹_›⟩)⟩
  · cases h

theorem schritt_faden {s s' : Sys} {i : Nat} (h : schritt B s (.faden i) = some s') :
    ∃ f p pc sig w, s.welt.faeden.get? i = some f ∧ resolveSchritt B f.ctx f.pc = some p ∧
      p s.welt = .fertig (pc, sig) w ∧
      s' = ⟨{ w with faeden := w.faeden.set i ⟨f.ctx, pc⟩ },
        match sig with
        | some a => weckeKlient a s.klienten
        | none => s.klienten⟩ := by
  simp only [schritt] at h
  split at h
  · split at h
    · split at h
      · cases h
        exact ⟨_, _, _, _, _, ‹_›, ‹_›, ‹_›, rfl⟩
      · cases h
    · cases h
  · cases h

theorem schritt_spuriosKlient {s s' : Sys} {k : Nat} (h : schritt B s (.spuriosKlient k) = some s') :
    ∃ a r, s.klienten.get? k = some (.haelt (.bedingung a) r) ∧
      s' = { s with klienten := s.klienten.set k (.haelt .frei r) } := by
  simp only [schritt] at h
  split at h
  · cases h
    exact ⟨_, _, ‹_›, rfl⟩
  · cases h

theorem schritt_spuriosFaden {s s' : Sys} {i : Nat} (h : schritt B s (.spuriosFaden i) = some s') :
    ∃ c, s.welt.faeden.get? i = some ⟨c, .wartet⟩ ∧
      s' = { s with welt := { s.welt with faeden := s.welt.faeden.set i ⟨c, .geweckt⟩ } } := by
  simp only [schritt] at h
  split at h
  · cases h
    exact ⟨_, ‹_›, rfl⟩
  · cases h

/-- The states a run reaches from a start when `zul` allows each of its steps. -/
inductive Erreichbar (zul : Sys → Wahl → Sys → Prop) : Sys → Prop
  | anfang (orakel : Nat → Bool) (adressen : Nat → Nat) (f16 f444 : Bool) (n : Nat) :
      Erreichbar zul (Sys.anfang orakel adressen f16 f444 n)
  | schritt {s s' : Sys} {c : Wahl} :
      Erreichbar zul s → schritt B s c = some s' → zul s c s' → Erreichbar zul s'

/-- Run the choices of a list in order. -/
def laufe : Sys → List Wahl → Option Sys
  | s, [] => some s
  | s, c :: cs => (schritt B s c).bind fun s' => laufe s' cs

/-- A state a list of choices leads to from a reachable state is reachable, when the allowed
    steps are those whose choice has the property `P` and every choice of the list has it. -/
theorem erreichbar_laufe_wahl {P : Wahl → Prop} {s s' : Sys} {l : List Wahl}
    (hs : Erreichbar B (fun _ c _ => P c) s) (hl : ∀ c ∈ l, P c) (h : laufe B s l = some s') :
    Erreichbar B (fun _ c _ => P c) s' := by
  induction l generalizing s with
  | nil =>
    cases h
    exact hs
  | cons c cs ih =>
    simp only [laufe] at h
    cases hc : schritt B s c with
    | none => simp [hc] at h
    | some s₁ =>
      simp only [hc, Option.bind_some] at h
      exact ih (.schritt hs hc (hl c (.head _))) (fun c' h' => hl c' (.tail _ h')) h

/-- A state a list of choices leads to from a reachable state is reachable, with every step
    allowed. -/
theorem erreichbar_laufe {s s' : Sys} {l : List Wahl}
    (hs : Erreichbar B (fun _ _ _ => True) s) (h : laufe B s l = some s') :
    Erreichbar B (fun _ _ _ => True) s' :=
  erreichbar_laufe_wahl B (P := fun _ => True) hs (fun _ _ => trivial) h

end NvdecVaapi
