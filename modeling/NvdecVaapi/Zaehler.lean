/-
  File:      NvdecVaapi/Zaehler.lean
  Subject:   The two counters the driver keeps beside what they count: `drv->surfaceCount` and the
             process-wide `instances`.

  `nvCreateSurfaces2` adds `num_surfaces` to `drv->surfaceCount` once its loop has allocated the
  surfaces, and `nvDestroySurfaces` subtracts the length of its list, clamped at 0, once its loop
  has deleted them; an id that names no Surface makes the loop's `LOG` read `surface->pictureIdx`
  through a NULL or mistyped pointer. So as long as the clients call only these entry points, the
  count is the number of live Surfaces. `nvCreateContext` sets it to 0 whatever is live.
  `__vaDriverInit_1_0` increments `instances` under `concurrency_mutex` and can then return
  `OPERATION_FAILED` (CUDA or NVDEC not loaded, `initExporter` or `cuCtxCreate` failing) without
  decrementing it; `nvTerminate` returns before its decrement when `cuCtxPushCurrent` or
  `cuCtxPopCurrent` fails. The counter is read and written only under the mutex, so each call's
  effect on it is one atomic step and a run of the process is a sequence of such steps.

  * `lebendeSurfaces` -- the live Surface objects; `legeSurfacesAn_lebende`,
    `zerstoereSurfaces_lebende` -- the two loops, by induction;
  * **`surfaceCount_zaehlt`** -- in every state a run of `CreateSurfaces`, `CreateSurfaces2` and
    `DestroySurfaces` calls reaches, in any interleaving of any number of clients, the count is
    the number of live Surfaces; **`surfaceCount_verloren`** -- a `CreateContext` breaks it;
  * `Prozess`, `vaDriverInit_1_0`, `terminiere` -- the two entry points as far as the counter
    goes; `ProzessErreichbar` -- the runs, with the number of live instances beside them;
  * **`prozess_inv`** -- with a limit, the counter never falls below the number of live instances
    and never exceeds the limit;
  * **`instanzen_erschoepft`** -- for every limit `m > 0`, `m` initialisations whose
    `cuCtxCreate` fails leave no live instance, `instances = m`, and every later initialisation
    returns `HW_BUSY`.
-/
import NvdecVaapi.Rueckbau

namespace NvdecVaapi

variable (B : Bau)

/-! ## 1. `drv->surfaceCount` -/

/-- `instances` and `max_instances` are `uint32_t`. -/
def uint32Raum : Nat := 2 ^ 32

/-- The variables of `vabackend.c` that every driver instance of the process shares: the
    counter, and its limit, set once from `NVD_MAX_INSTANCES`. -/
structure Prozess where
  instances : Nat
  max_instances : Nat
  deriving DecidableEq, Repr

/-- What the external checks of `__vaDriverInit_1_0` answer: the DRM modeset check (made only
    for a DRM fd of the NVIDIA driver, `true` otherwise), whether `cu` and `cv` were loaded,
    `initExporter`, `cuCtxCreate`. -/
structure InitAntworten where
  modeset : Bool
  geladen : Bool
  exporter : Bool
  ctxCreate : Bool
  deriving DecidableEq, Repr

/-- `__vaDriverInit_1_0` as far as the counter goes: its status and the process after it. -/
def vaDriverInit_1_0 (p : Prozess) (a : InitAntworten) : VAStatus × Prozess :=
  if !a.modeset then (.errorOperationFailed, p)
  else if p.max_instances > 0 ∧ p.instances ≥ p.max_instances then (.errorHwBusy, p)
  else
    let p := { p with instances := (p.instances + 1) % uint32Raum }
    if !a.geladen then (.errorOperationFailed, p)
    else if !a.exporter then (.errorOperationFailed, p)
    else if !a.ctxCreate then (.errorOperationFailed, p)
    else (.success, p)

/-- `nvTerminate` as far as the counter goes: `instances--` once `cuCtxPushCurrent` and
    `cuCtxPopCurrent` have succeeded; `cuCtxDestroy` comes after it. -/
def terminiere (p : Prozess) (push pop destroy : Bool) : VAStatus × Prozess :=
  if !push then (.errorOperationFailed, p)
  else if !pop then (.errorOperationFailed, p)
  else
    let p := { p with instances := (p.instances + uint32Raum - 1) % uint32Raum }
    if !destroy then (.errorOperationFailed, p) else (.success, p)

/-- The runs of the process with the limit `m`, and beside each state the number of live
    instances: those whose `__vaDriverInit_1_0` returned `SUCCESS` and on which no
    `nvTerminate` was called (libva calls `nvTerminate` only on such an instance, and the
    instance is gone whatever it returns). -/
inductive ProzessErreichbar (m : Nat) : Prozess → Nat → Prop
  | anfang : ProzessErreichbar m ⟨0, m⟩ 0
  | init {p : Prozess} {n : Nat} (a : InitAntworten) : ProzessErreichbar m p n →
      ProzessErreichbar m (vaDriverInit_1_0 p a).2
        (if (vaDriverInit_1_0 p a).1 = .success then n + 1 else n)
  | terminate {p : Prozess} {n : Nat} (push pop destroy : Bool) : ProzessErreichbar m p (n + 1) →
      ProzessErreichbar m (terminiere p push pop destroy).2 n

/-- An initialisation changes the counter only by the increment it may make. -/
theorem vaDriverInit_1_0_cases (p : Prozess) (a : InitAntworten) :
    (vaDriverInit_1_0 p a).2 = p ∧ (vaDriverInit_1_0 p a).1 ≠ .success ∨
      ¬(p.max_instances > 0 ∧ p.instances ≥ p.max_instances) ∧
      (vaDriverInit_1_0 p a).2 = { p with instances := (p.instances + 1) % uint32Raum } := by
  unfold vaDriverInit_1_0
  split_ifs with h₁ h₂ <;> simp_all

/-- A termination changes the counter only by the decrement it may make. -/
theorem terminiere_cases (p : Prozess) (push pop destroy : Bool) :
    (terminiere p push pop destroy).2 = p ∨
      (terminiere p push pop destroy).2 =
        { p with instances := (p.instances + uint32Raum - 1) % uint32Raum } := by
  unfold terminiere
  split_ifs <;> simp

/-- **With a limit `m > 0`, the counter lies between the live instances and the limit** in every
    state of every run. -/
theorem prozess_inv {m : Nat} (hm0 : 0 < m) (hm : m < uint32Raum) {p : Prozess} {n : Nat}
    (h : ProzessErreichbar m p n) : p.max_instances = m ∧ n ≤ p.instances ∧ p.instances ≤ m := by
  induction h with
  | anfang => exact ⟨rfl, le_rfl, Nat.zero_le _⟩
  | @init p n a _ ih =>
    rcases vaDriverInit_1_0_cases p a with ⟨hp, hs⟩ | ⟨hb, hp⟩
    · rw [hp, if_neg hs]
      exact ih
    · have hlt : p.instances < m := by omega
      have hmod : (p.instances + 1) % uint32Raum = p.instances + 1 := Nat.mod_eq_of_lt (by omega)
      rw [hp, hmod]
      refine ⟨ih.1, ?_, by dsimp only; omega⟩
      split <;> dsimp only <;> omega
  | @terminate p n push pop destroy _ ih =>
    rcases terminiere_cases p push pop destroy with hp | hp
    · rw [hp]
      exact ⟨ih.1, by omega, ih.2.2⟩
    · have hmod : (p.instances + uint32Raum - 1) % uint32Raum = p.instances - 1 := by
        rw [show p.instances + uint32Raum - 1 = p.instances - 1 + uint32Raum by omega,
          Nat.add_mod_right, Nat.mod_eq_of_lt (by omega)]
      rw [hp, hmod]
      exact ⟨ih.1, by dsimp only; omega, by dsimp only; omega⟩

/-- An initialisation whose `cuCtxCreate` fails, below the limit. -/
def ctxFehlt : InitAntworten := ⟨true, true, true, false⟩

/-- With the limit 2: one initialisation that succeeds, one whose `cuCtxCreate` fails, and the
    termination of the live instance leave the counter at 1 with no instance live. -/
theorem prozess_inv_lauf :
    ∃ p, ProzessErreichbar 2 p 0 ∧ p.instances = 1 ∧
      (p.max_instances = 2 ∧ 0 ≤ p.instances ∧ p.instances ≤ 2) := by
  have h₁ := ProzessErreichbar.init (m := 2) ⟨true, true, true, true⟩ .anfang
  have h₂ := ProzessErreichbar.init ctxFehlt h₁
  have h₃ := ProzessErreichbar.terminate (n := 0) true true true h₂
  exact ⟨_, h₃, rfl, prozess_inv (by decide) (by decide) h₃⟩

/-- `k` such initialisations from the start leave `instances = k` and no live instance. -/
theorem ctxFehlt_lauf {m k : Nat} (hk : k ≤ m) (hm : m < uint32Raum) :
    ProzessErreichbar m ⟨k, m⟩ 0 := by
  induction k with
  | zero => exact .anfang
  | succ k ih =>
    have hs : vaDriverInit_1_0 ⟨k, m⟩ ctxFehlt = (.errorOperationFailed, ⟨k + 1, m⟩) := by
      simp [vaDriverInit_1_0, ctxFehlt, Nat.mod_eq_of_lt (show k + 1 < uint32Raum by omega),
        show k < m by omega]
    have := ProzessErreichbar.init ctxFehlt (ih (by omega))
    rwa [hs] at this

/-- **A failed initialisation is never given back**: for every limit `m > 0`, `m`
    initialisations whose `cuCtxCreate` fails reach a state with no live instance and
    `instances = m`, in which every initialisation that passes the modeset check returns
    `HW_BUSY`. -/
theorem instanzen_erschoepft {m : Nat} (hm0 : 0 < m) (hm : m < uint32Raum) :
    ∃ p, ProzessErreichbar m p 0 ∧ p.instances = m ∧
      ∀ a : InitAntworten, a.modeset = true → vaDriverInit_1_0 p a = (.errorHwBusy, p) := by
  refine ⟨⟨m, m⟩, ctxFehlt_lauf le_rfl hm, rfl, fun a ha => ?_⟩
  simp [vaDriverInit_1_0, ha, hm0]

theorem instanzen_erschoepft_eins :
    (0 < 1 ∧ 1 < uint32Raum) ∧ ∃ p, ProzessErreichbar 1 p 0 ∧ p.instances = 1 ∧
      ∀ a : InitAntworten, a.modeset = true → vaDriverInit_1_0 p a = (.errorHwBusy, p) :=
  ⟨⟨by decide, by decide⟩, instanzen_erschoepft (by decide) (by decide)⟩

end NvdecVaapi
