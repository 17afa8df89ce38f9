/-
  File:      NvdecVaapi/Ring.lean
  Subject:   The resolve ring of one Context: `nvEndPicture` writes at `surfaceQueueWriteIdx`,
             the resolve thread reads at `surfaceQueueReadIdx`, both wrap at `SURFACE_QUEUE_SIZE`.

  `SURFACE_QUEUE_SIZE` is defined in `vabackend.h`, which is not part of the repository; it is the
  parameter `N` throughout.

  * `einreihen`, `entnehmen`, `weiter` -- the two halves of the ring code, on the fields of
    `NVContext` they touch; `nvEndPicture` and the resolve thread use exactly these;
  * `RingSchritt` -- one step of the producer (`produziere`, atomic under `resolveMutex`) or of
    the consumer, whose emptiness test (`pruefe`, under the mutex) and read (`lese`, after the
    mutex is released) are two steps, so a producer step may fall between them;
  * `RingLauf N P` -- runs from the zeroed Context through states satisfying `P`;
    `RingInv` -- the pending entries are the enqueued ones not yet dequeued, read from
    `surfaceQueueReadIdx` on, and `surfaceQueueWriteIdx` lies that many slots further;
  * **`ring_fifo`** -- while fewer than `N` entries are pending, the dequeued sequence is a
    prefix of the enqueued one, and an empty-looking ring has nothing pending;
    `ring_fifo_zwei` -- a run on two slots in which both indices wrap;
  * `ring_ueberlauf` -- whatever `N` is, `N` pictures ended before the resolve thread reads any
    make the ring look empty with all `N` pending: the producer never checks for a full ring.
-/
import NvdecVaapi.Zustand

namespace NvdecVaapi

/-! ## 1. The two halves of the ring code -/

/-- `i++` followed by `if (i >= SURFACE_QUEUE_SIZE) i = 0`. -/
def weiter (N i : Nat) : Nat := if i + 1 ≥ N then 0 else i + 1

theorem weiter_eq_mod {N i : Nat} (h : i < N) : weiter N i = (i + 1) % N := by
  unfold weiter
  split
  · have : i + 1 = N := by omega
    simp [this]
  · rw [Nat.mod_eq_of_lt (by omega)]

/-- The producer half of `nvEndPicture`: `surfaceQueue[surfaceQueueWriteIdx++] = s`, wrapped. -/
def einreihen (N : Nat) (c : NVContext) (s : Option Nat) : NVContext :=
  { c with
    surfaceQueue := fun i => if i = c.surfaceQueueWriteIdx then s else c.surfaceQueue i
    surfaceQueueWriteIdx := weiter N c.surfaceQueueWriteIdx }

/-- The dequeue of `resolveSurfaces`: `surfaceQueue[surfaceQueueReadIdx++]`, wrapped. -/
def entnehmen (N : Nat) (c : NVContext) : Option Nat × NVContext :=
  (c.surfaceQueue c.surfaceQueueReadIdx,
    { c with surfaceQueueReadIdx := weiter N c.surfaceQueueReadIdx })

/-- The resolve thread's test `surfaceQueueReadIdx == surfaceQueueWriteIdx`. -/
def ringLeer (c : NVContext) : Bool := c.surfaceQueueReadIdx == c.surfaceQueueWriteIdx

@[simp] theorem einreihen_read (N : Nat) (c : NVContext) (s : Option Nat) :
    (einreihen N c s).surfaceQueueReadIdx = c.surfaceQueueReadIdx := rfl

@[simp] theorem einreihen_write (N : Nat) (c : NVContext) (s : Option Nat) :
    (einreihen N c s).surfaceQueueWriteIdx = weiter N c.surfaceQueueWriteIdx := rfl

@[simp] theorem entnehmen_read (N : Nat) (c : NVContext) :
    (entnehmen N c).2.surfaceQueueReadIdx = weiter N c.surfaceQueueReadIdx := rfl

@[simp] theorem entnehmen_write (N : Nat) (c : NVContext) :
    (entnehmen N c).2.surfaceQueueWriteIdx = c.surfaceQueueWriteIdx := rfl

@[simp] theorem entnehmen_queue (N : Nat) (c : NVContext) :
    (entnehmen N c).2.surfaceQueue = c.surfaceQueue := rfl

/-! ## 2. The pending entries -/

/-- The `k` entries from `surfaceQueueReadIdx` on, in ring order. -/
def ausstehend (N : Nat) (c : NVContext) (k : Nat) : List (Option Nat) :=
  (List.range k).map fun i => c.surfaceQueue ((c.surfaceQueueReadIdx + i) % N)

/-- Two offsets below one revolution name two slots. -/
theorem mod_ne_of_lt {N r i k : Nat} (hi : i < k) (hk : k < N) : (r + i) % N ≠ (r + k) % N := by
  intro e
  have := Nat.ModEq.add_left_cancel' r e
  unfold Nat.ModEq at this
  rw [Nat.mod_eq_of_lt (by omega), Nat.mod_eq_of_lt hk] at this
  omega

/-- A write `k` slots ahead appends to the `k` pending entries. -/
theorem ausstehend_einreihen {N : Nat} {c : NVContext} {k : Nat} (hk : k < N)
    (hw : c.surfaceQueueWriteIdx = (c.surfaceQueueReadIdx + k) % N) (s : Option Nat) :
    ausstehend N (einreihen N c s) (k + 1) = ausstehend N c k ++ [s] := by
  simp only [ausstehend, einreihen, List.range_succ, List.map_append, List.map_cons,
    List.map_nil, hw, if_pos]
  congr 1
  refine List.map_congr_left fun i hi => ?_
  rw [if_neg (mod_ne_of_lt (List.mem_range.mp hi) hk)]

/-- A read takes the first pending entry. -/
theorem ausstehend_entnehmen {N : Nat} {c : NVContext} (hr : c.surfaceQueueReadIdx < N) (k : Nat) :
    ausstehend N c (k + 1) = (entnehmen N c).1 :: ausstehend N (entnehmen N c).2 k := by
  simp only [ausstehend, entnehmen, List.range_succ_eq_map, List.map_cons, List.map_map,
    Nat.add_zero, Nat.mod_eq_of_lt hr, weiter_eq_mod hr]
  congr 1
  refine List.map_congr_left fun i _ => ?_
  simp only [Function.comp, Nat.mod_add_mod, Nat.add_assoc, Nat.add_comm 1 i]

/-! ## 3. Runs of the ring -/

/-- The ring of one Context together with what was enqueued and dequeued so far; `liest` is set
    while the consumer has found the ring non-empty and not yet read. -/
structure RingZustand where
  c : NVContext
  rein : List (Option Nat)
  raus : List (Option Nat)
  liest : Bool

/-- The zeroed Context, nothing enqueued. -/
def ringStart : RingZustand := ⟨{}, [], [], false⟩

/-- One step of producer or consumer. -/
inductive RingSchritt (N : Nat) : RingZustand → RingZustand → Prop where
  | produziere (z : RingZustand) (s : Option Nat) :
      RingSchritt N z ⟨einreihen N z.c s, z.rein ++ [s], z.raus, z.liest⟩
  | pruefe (z : RingZustand) (hl : z.liest = false) (hne : ringLeer z.c = false) :
      RingSchritt N z { z with liest := true }
  | lese (z : RingZustand) (hl : z.liest = true) :
      RingSchritt N z ⟨(entnehmen N z.c).2, z.rein, z.raus ++ [(entnehmen N z.c).1], false⟩

/-- Runs from `ringStart` through states that satisfy `P`. -/
inductive RingLauf (N : Nat) (P : RingZustand → Prop) : RingZustand → Prop where
  | start (h : P ringStart) : RingLauf N P ringStart
  | schritt {z z' : RingZustand} (h : RingLauf N P z) (hs : RingSchritt N z z') (hp : P z') :
      RingLauf N P z'

/-- The number of entries enqueued and not yet dequeued. -/
def RingZustand.offen (z : RingZustand) : Nat := z.rein.length - z.raus.length

/-- Fewer than `N` entries pending. -/
def UnterN (N : Nat) (z : RingZustand) : Prop := z.rein.length < z.raus.length + N

instance (N : Nat) : DecidablePred (UnterN N) := fun _ => inferInstanceAs (Decidable (_ < _))

/-- **The ring invariant.** -/
structure RingInv (N : Nat) (z : RingZustand) : Prop where
  lesen_lt : z.c.surfaceQueueReadIdx < N
  inhalt : z.rein = z.raus ++ ausstehend N z.c z.offen
  schreib : z.c.surfaceQueueWriteIdx = (z.c.surfaceQueueReadIdx + z.offen) % N
  liest : z.liest = true → 0 < z.offen

theorem RingInv.laenge {N : Nat} {z : RingZustand} (hi : RingInv N z) :
    z.raus.length ≤ z.rein.length := by
  have := congrArg List.length hi.inhalt
  rw [List.length_append] at this
  omega

/-- While fewer than `N` entries are pending, the ring is empty exactly when nothing is. -/
theorem RingInv.leer_iff {N : Nat} {z : RingZustand} (hi : RingInv N z) (hu : UnterN N z) :
    ringLeer z.c = true ↔ z.offen = 0 := by
  have hl := hi.laenge
  unfold ringLeer
  rw [beq_iff_eq, hi.schreib]
  unfold UnterN at hu
  constructor
  · intro e
    by_contra hne
    have hk : z.offen < N := by unfold RingZustand.offen; omega
    exact mod_ne_of_lt (N := N) (r := z.c.surfaceQueueReadIdx) (Nat.pos_of_ne_zero hne) hk
      (by rw [Nat.add_zero, Nat.mod_eq_of_lt hi.lesen_lt]; exact e)
  · intro e
    rw [e, Nat.add_zero, Nat.mod_eq_of_lt hi.lesen_lt]

theorem ringInv_start {N : Nat} (hN : 0 < N) : RingInv N ringStart :=
  ⟨hN, rfl, (Nat.zero_mod N).symm, fun h => by cases h⟩

/-- **One step keeps the invariant** while fewer than `N` entries are pending after it. -/
theorem ringInv_schritt {N : Nat} {z z' : RingZustand} (hi : RingInv N z) (hu : UnterN N z)
    (hs : RingSchritt N z z') (hu' : UnterN N z') : RingInv N z' := by
  have hl := hi.laenge
  cases hs with
  | produziere s =>
    have hk : z.offen < N := by unfold UnterN at hu'; simp at hu'; unfold RingZustand.offen; omega
    have ho : RingZustand.offen ⟨einreihen N z.c s, z.rein ++ [s], z.raus, z.liest⟩ = z.offen + 1 := by
      simp only [RingZustand.offen, List.length_append, List.length_singleton]; omega
    refine ⟨hi.lesen_lt, ?_, ?_, fun h => by rw [ho]; omega⟩
    · rw [ho, ausstehend_einreihen hk hi.schreib, ← List.append_assoc, ← hi.inhalt]
    · simp only [ho, einreihen_write, einreihen_read, hi.schreib]
      rw [weiter_eq_mod (Nat.mod_lt _ (by omega)), Nat.mod_add_mod, Nat.add_assoc]
  | pruefe hl' hne =>
    refine ⟨hi.lesen_lt, hi.inhalt, hi.schreib, fun _ => ?_⟩
    have := (hi.leer_iff hu).not
    rw [hne] at this
    exact Nat.pos_of_ne_zero (this.mp (by simp))
  | lese hl' =>
    obtain ⟨k, hk⟩ : ∃ k, z.offen = k + 1 := ⟨z.offen - 1, by have := hi.liest hl'; omega⟩
    have ho : RingZustand.offen ⟨(entnehmen N z.c).2, z.rein, z.raus ++ [(entnehmen N z.c).1], false⟩
        = k := by
      unfold RingZustand.offen at hk ⊢
      simp only [List.length_append, List.length_singleton]
      omega
    refine ⟨?_, ?_, ?_, fun h => by cases h⟩
    · simp only [entnehmen_read, weiter_eq_mod hi.lesen_lt]
      exact Nat.mod_lt _ (Nat.zero_lt_of_lt hi.lesen_lt)
    · rw [ho, List.append_assoc, List.singleton_append, ← ausstehend_entnehmen hi.lesen_lt, ← hk]
      exact hi.inhalt
    · simp only [ho, entnehmen_write, entnehmen_read, hi.schreib, hk, weiter_eq_mod hi.lesen_lt]
      rw [Nat.mod_add_mod, Nat.add_comm k 1, ← Nat.add_assoc]

/-- The ring invariant on every run that keeps fewer than `N` entries pending. -/
theorem ringLauf_inv {N : Nat} {z : RingZustand} (h : RingLauf N (UnterN N) z) : RingInv N z := by
  induction h with
  | start hp => exact ringInv_start (by unfold UnterN ringStart at hp; simpa using hp)
  | schritt h hs hp ih =>
    exact ringInv_schritt ih (by cases h <;> assumption) hs hp

/-- The ring behaves as a FIFO in a state: the dequeued entries are a prefix of the enqueued ones,
    and when the consumer would find the ring empty, everything enqueued has been dequeued. -/
def RingFifo (z : RingZustand) : Prop :=
  z.raus <+: z.rein ∧ (ringLeer z.c = true → z.raus = z.rein)

/-- **The ring is a lossless FIFO while fewer than `SURFACE_QUEUE_SIZE` entries are pending.** -/
theorem ring_fifo {N : Nat} {z : RingZustand} (h : RingLauf N (UnterN N) z) : RingFifo z := by
  have hi := ringLauf_inv h
  have hu : UnterN N z := by cases h <;> assumption
  refine ⟨⟨_, hi.inhalt.symm⟩, fun he => ?_⟩
  have h0 := (hi.leer_iff hu).mp he
  rw [hi.inhalt, h0]
  simp [ausstehend]

/-- On a ring of two slots, three pictures ended and two resolved in turn: both indices wrap
    from 1 back to 0. -/
theorem ring_fifo_zwei :
    ∃ z, RingLauf 2 (UnterN 2) z ∧ z.rein = [some 0, some 1, some 2] ∧
      z.raus = [some 0, some 1] ∧ z.c.surfaceQueueReadIdx = 0 ∧ z.c.surfaceQueueWriteIdx = 1 ∧
      RingFifo z := by
  have h₁ := RingLauf.schritt (.start (N := 2) (P := UnterN 2) (by decide)) (.produziere _ (some 0)) (by decide)
  have h₂ := RingLauf.schritt h₁ (.pruefe _ rfl rfl) (by decide)
  have h₃ := RingLauf.schritt h₂ (.lese _ rfl) (by decide)
  have h₄ := RingLauf.schritt h₃ (.produziere _ (some 1)) (by decide)
  have h₅ := RingLauf.schritt h₄ (.pruefe _ rfl rfl) (by decide)
  have h₆ := RingLauf.schritt h₅ (.lese _ rfl) (by decide)
  have h₇ := RingLauf.schritt h₆ (.produziere _ (some 2)) (by decide)
  exact ⟨_, h₇, rfl, rfl, rfl, rfl, ring_fifo h₇⟩

/-! ## 4. A full ring looks empty -/

/-- `k` pictures ended, nothing resolved. -/
def fuelle (N : Nat) : Nat → RingZustand
  | 0 => ringStart
  | k + 1 => ⟨einreihen N (fuelle N k).c (some k), (fuelle N k).rein ++ [some k], [], false⟩

theorem fuelle_lauf (N k : Nat) : RingLauf N (fun _ => True) (fuelle N k) := by
  induction k with
  | zero => exact .start trivial
  | succ k ih =>
    have e : (fuelle N k).raus = [] ∧ (fuelle N k).liest = false := by
      cases k <;> exact ⟨rfl, rfl⟩
    refine .schritt ih ?_ trivial
    have := RingSchritt.produziere (N := N) (fuelle N k) (some k)
    rw [e.1, e.2] at this
    exact this

theorem fuelle_eigenschaften {N : Nat} (hN : 0 < N) (k : Nat) :
    (fuelle N k).c.surfaceQueueReadIdx = 0 ∧ (fuelle N k).c.surfaceQueueWriteIdx = k % N ∧
      (fuelle N k).rein.length = k ∧ (fuelle N k).raus = [] := by
  induction k with
  | zero => exact ⟨rfl, (Nat.zero_mod N).symm, rfl, rfl⟩
  | succ k ih =>
    obtain ⟨h1, h2, h3, _⟩ := ih
    refine ⟨h1, ?_, by simp [fuelle, h3], rfl⟩
    simp only [fuelle, einreihen_write, h2]
    rw [weiter_eq_mod (Nat.mod_lt _ hN), Nat.mod_add_mod]

/-- Whatever `SURFACE_QUEUE_SIZE` is, ending that many pictures before the resolve thread reads
    one leaves the ring looking empty while every entry is still pending. -/
def RingUeberlauf : Prop :=
  ∀ N, 0 < N → RingLauf N (fun _ => True) (fuelle N N) ∧ ringLeer (fuelle N N).c = true ∧
    (fuelle N N).raus ≠ (fuelle N N).rein

theorem ring_ueberlauf : RingUeberlauf := by
  intro N hN
  obtain ⟨h1, h2, h3, h4⟩ := fuelle_eigenschaften hN N
  refine ⟨fuelle_lauf N N, ?_, ?_⟩
  · simp [ringLeer, h1, h2]
  · intro e
    have := congrArg List.length e
    rw [h3, h4] at this
    simp at this
    omega

end NvdecVaapi
