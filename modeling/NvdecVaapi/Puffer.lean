/-
  File:      NvdecVaapi/Puffer.lean
  Subject:   `appendBuffer`, the growing scratch buffer the codec handlers append bitstream and
             slice offsets to: what it holds, and when its growth loop ends.

  On the first append `appendBuffer` asks `memalign` for twice the chunk; afterwards it grows
  `allocated` by `allocated >> 1` until the data fits and copies the used bytes into a fresh
  block. `nvEndPicture` resets `size` to 0 and keeps the block; `freeBuffer` frees it and zeroes
  the struct. A first append of zero bytes asks `memalign` for 0 bytes: glibc answers with a
  block, `allocated` stays 0, and the growth loop of the next non-empty append never ends,
  since `0 >> 1 = 0`.

  `vabackend.h`, with the field types of `AppendableBuffer`, is not part of the repository; the
  sizes are unbounded naturals here (no buffer that exists is larger than the address space, so
  the 64-bit sums and doublings do not wrap on one).

  * `Memalign` -- an answer of `memalign(16, n)`: `NULL` or a block of `n` bytes of any content;
    `kopiere`, `liesVorne` -- `memcpy` into and out of a block, undefined past its end;
  * `wachse` -- the growth loop with a bound on its rounds; `appendBuffer`; `PufferOp`,
    `pufferLauf` -- appends, resets and frees in sequence; `angehaengt` -- the bytes appended
    since the last reset or free;
  * `wachse_endet`, `wachse_haengt` -- from `allocated ≥ 2` the loop ends within `size + n`
    rounds with the data fitting; from `allocated ≤ 1` with data that does not fit it never ends;
  * `Haelt`, `haelt_lauf` -- the invariant of every run;
  * **`puffer_inhalt`** -- after every append that returns, `allocated ≥ size`, `size` is the
    number of bytes appended since the last reset or free, and the first `size` bytes of the
    block are those bytes in order;
  * **`puffer_haengt`** -- a zero-length first append, then any non-empty one: the second never
    returns, whatever bound its loop is given.
-/
import NvdecVaapi.Einstieg.Dekodieren

namespace NvdecVaapi

/-! ## 1. The model -/

/-- An answer of `memalign(16, n)`: `NULL`, or a block of `n` bytes whose content is whatever the
    allocator left there. -/
structure Memalign where
  antwort : Nat → Option (List UInt8)
  laenge : ∀ n l, antwort n = some l → l.length = n

/-- `memcpy(dst + off, src, src.length)`: the bytes from `off` on are replaced; a write past the
    block's end is undefined (`none`). -/
def kopiere (dst : List UInt8) (off : Nat) (src : List UInt8) : Option (List UInt8) :=
  if off + src.length ≤ dst.length then some (dst.take off ++ src ++ dst.drop (off + src.length))
  else none

/-- The first `n` bytes of a block, as `memcpy` reads them; a read past its end is undefined. -/
def liesVorne (blk : List UInt8) (n : Nat) : Option (List UInt8) :=
  if n ≤ blk.length then some (blk.take n) else none

/-- `while (ab->size + size > ab->allocated) ab->allocated += ab->allocated >> 1` for a need of
    `bedarf` bytes, run for at most `fuel` rounds (`none`: the data does not fit yet). -/
def wachse : Nat → Nat → Nat → Option Nat
  | 0, bedarf, a => if bedarf > a then none else some a
  | fuel + 1, bedarf, a => if bedarf > a then wachse fuel bedarf (a + (a >>> 1)) else some a

/-- `appendBuffer(ab, b, b.length)` with `memalign`'s answer `m` and `fuel` rounds for the growth
    loop; `none` when the call does not return (a copy through `NULL` or past a block's end, or
    the loop still running). -/
def appendBuffer (m : Memalign) (fuel : Nat) (ab : AppendableBuffer) (b : List UInt8) :
    Option AppendableBuffer :=
  match ab.buf with
  | none => do
    let blk ← m.antwort (b.length * 2)
    let blk ← kopiere blk 0 b
    pure { buf := some blk, size := b.length, allocated := b.length * 2 }
  | some alt =>
    if ab.size + b.length > ab.allocated then do
      let allocated ← wachse fuel (ab.size + b.length) ab.allocated
      let nb ← m.antwort allocated
      let alterInhalt ← liesVorne alt ab.size
      let nb ← kopiere nb 0 alterInhalt
      let nb ← kopiere nb ab.size b
      pure { buf := some nb, size := ab.size + b.length, allocated := allocated }
    else do
      let alt ← kopiere alt ab.size b
      pure { ab with buf := some alt, size := ab.size + b.length }

/-- What happens to one scratch buffer of a Context: a handler's `appendBuffer`, the reset of
    `size` in `nvEndPicture`, `freeBuffer` in `destroyContext`. -/
inductive PufferOp where
  | anhaengen (m : Memalign) (b : List UInt8)
  | zuruecksetzen
  | freigeben

/-- A sequence of them, each append with `fuel` rounds for its loop. -/
def pufferLauf (fuel : Nat) : AppendableBuffer → List PufferOp → Option AppendableBuffer
  | ab, [] => some ab
  | ab, .anhaengen m b :: ops => (appendBuffer m fuel ab b).bind fun ab' => pufferLauf fuel ab' ops
  | ab, .zuruecksetzen :: ops => pufferLauf fuel { ab with size := 0 } ops
  | ab, .freigeben :: ops => pufferLauf fuel (freeBuffer ab) ops

/-- What one operation leaves of the bytes appended so far. -/
def PufferOp.nach : PufferOp → List UInt8 → List UInt8
  | .anhaengen _ b, inhalt => inhalt ++ b
  | _, _ => []

/-- The bytes appended since the last reset or free. -/
def angehaengt (ops : List PufferOp) : List UInt8 := ops.foldl (fun i op => op.nach i) []

theorem pufferLauf_append (fuel : Nat) (ab : AppendableBuffer) (ops ops' : List PufferOp) :
    pufferLauf fuel ab (ops ++ ops') = (pufferLauf fuel ab ops).bind fun ab' =>
      pufferLauf fuel ab' ops' := by
  induction ops generalizing ab with
  | nil => rfl
  | cons op ops ih =>
    cases op with
    | anhaengen m b =>
      simp only [List.cons_append, pufferLauf]
      cases appendBuffer m fuel ab b <;> simp [ih]
    | zuruecksetzen => exact ih _
    | freigeben => exact ih _

/-! ## 2. Copies -/

theorem kopiere_some {dst src r : List UInt8} {off : Nat} (h : kopiere dst off src = some r) :
    r.length = dst.length ∧ r.take (off + src.length) = dst.take off ++ src := by
  unfold kopiere at h
  split at h
  · cases h
    have hl : (dst.take off ++ src).length = off + src.length := by simp; omega
    refine ⟨by simp; omega, ?_⟩
    rw [List.append_assoc, ← List.append_assoc _ src, List.take_left' hl]
  · cases h

theorem liesVorne_some {blk r : List UInt8} {n : Nat} (h : liesVorne blk n = some r) :
    r = blk.take n := by
  unfold liesVorne at h
  split at h <;> cases h
  rfl

/-! ## 3. The growth loop -/

/-- What the loop returns fits the data. -/
theorem wachse_passt {fuel bedarf a a' : Nat} (h : wachse fuel bedarf a = some a') :
    bedarf ≤ a' := by
  induction fuel generalizing a with
  | zero =>
    unfold wachse at h
    split at h <;> cases h
    omega
  | succ fuel ih =>
    unfold wachse at h
    split at h
    · exact ih h
    · cases h
      omega

/-- **From `allocated ≥ 2` the loop ends**: every round adds at least one byte, so `bedarf`
    rounds suffice. -/
theorem wachse_endet {bedarf a : Nat} (ha : 2 ≤ a) : ∃ a', wachse bedarf bedarf a = some a' := by
  suffices ∀ fuel a, 2 ≤ a → bedarf ≤ a + fuel → ∃ a', wachse fuel bedarf a = some a' from
    this bedarf a ha (by omega)
  intro fuel
  induction fuel with
  | zero => exact fun a _ h => ⟨a, by simp [wachse]; omega⟩
  | succ fuel ih =>
    intro a ha h
    unfold wachse
    split
    · have : 1 ≤ a >>> 1 := by rw [Nat.shiftRight_eq_div_pow]; omega
      exact ih _ (by omega) (by omega)
    · exact ⟨a, rfl⟩

/-- **From `allocated ≤ 1` the loop never ends** when the data does not fit: `a >> 1 = 0`. -/
theorem wachse_haengt {bedarf a : Nat} (ha : a ≤ 1) (hb : a < bedarf) (fuel : Nat) :
    wachse fuel bedarf a = none := by
  have h0 : a + (a >>> 1) = a := by
    rw [Nat.shiftRight_eq_div_pow]
    omega
  induction fuel with
  | zero => simp [wachse, hb]
  | succ fuel ih => rw [wachse, if_pos hb, h0, ih]

/-! ## 4. What the buffer holds -/

/-- `ab` holds `inhalt`: `size` is its length and at most `allocated`, the block (if any) has
    `allocated` bytes and begins with `inhalt`, and without a block nothing is held. -/
def Haelt (ab : AppendableBuffer) (inhalt : List UInt8) : Prop :=
  ab.size = inhalt.length ∧ ab.size ≤ ab.allocated ∧
    match ab.buf with
    | none => inhalt = []
    | some blk => blk.length = ab.allocated ∧ blk.take ab.size = inhalt

theorem haelt_leer : Haelt {} [] := ⟨rfl, le_rfl, rfl⟩

theorem Haelt.zuruecksetzen {ab : AppendableBuffer} {i : List UInt8} (h : Haelt ab i) :
    Haelt { ab with size := 0 } [] := by
  obtain ⟨-, -, hb⟩ := h
  refine ⟨rfl, Nat.zero_le _, ?_⟩
  cases e : ab.buf with
  | none => rfl
  | some blk => rw [e] at hb; exact ⟨hb.1, List.take_zero _⟩

theorem haelt_freeBuffer {ab : AppendableBuffer} {i : List UInt8} (h : Haelt ab i) :
    Haelt (freeBuffer ab) [] := by
  obtain ⟨hs, hle, hb⟩ := h
  cases e : ab.buf with
  | none =>
    rw [e] at hb
    subst hb
    rw [show freeBuffer ab = ab by simp [freeBuffer, e]]
    exact ⟨hs, hle, by rw [e]⟩
  | some _ =>
    simpa [freeBuffer, e] using haelt_leer

/-- **One append that returns appends its bytes** and leaves a block. -/
theorem Haelt.anhaengen {ab ab' : AppendableBuffer} {i b : List UInt8} {m : Memalign}
    {fuel : Nat} (h : Haelt ab i) (ha : appendBuffer m fuel ab b = some ab') :
    Haelt ab' (i ++ b) ∧ ab'.buf.isSome := by
  obtain ⟨hs, hle, hb⟩ := h
  unfold appendBuffer at ha
  split at ha
  · rename_i e
    rw [e] at hb
    subst hb
    obtain ⟨blk, hm, ha⟩ := Option.bind_eq_some.mp ha
    obtain ⟨blk', hk, ha⟩ := Option.bind_eq_some.mp ha
    cases ha
    obtain ⟨hl, ht⟩ := kopiere_some hk
    have hl' := m.laenge _ _ hm
    refine ⟨⟨by simp, show b.length ≤ b.length * 2 by omega, ?_⟩, rfl⟩
    show blk'.length = b.length * 2 ∧ blk'.take b.length = [] ++ b
    exact ⟨hl.trans hl', by simpa using ht⟩
  · rename_i alt e
    rw [e] at hb
    obtain ⟨hl, ht⟩ := hb
    split at ha
    · obtain ⟨a', hw, ha⟩ := Option.bind_eq_some.mp ha
      obtain ⟨nb, hm, ha⟩ := Option.bind_eq_some.mp ha
      obtain ⟨v, hv, ha⟩ := Option.bind_eq_some.mp ha
      obtain ⟨nb₁, hk₁, ha⟩ := Option.bind_eq_some.mp ha
      obtain ⟨nb₂, hk₂, ha⟩ := Option.bind_eq_some.mp ha
      cases ha
      rw [liesVorne_some hv, ht] at hk₁
      obtain ⟨hl₁, ht₁⟩ := kopiere_some hk₁
      obtain ⟨hl₂, ht₂⟩ := kopiere_some hk₂
      refine ⟨⟨by simp [hs], wachse_passt hw, ?_⟩, rfl⟩
      show nb₂.length = a' ∧ nb₂.take (ab.size + b.length) = i ++ b
      rw [Nat.zero_add, List.take_zero, List.nil_append, ← hs] at ht₁
      exact ⟨hl₂.trans (hl₁.trans (m.laenge _ _ hm)), by rw [ht₂, ht₁]⟩
    · obtain ⟨alt', hk, ha⟩ := Option.bind_eq_some.mp ha
      cases ha
      obtain ⟨hl', ht'⟩ := kopiere_some hk
      refine ⟨⟨by simp [hs], show ab.size + b.length ≤ ab.allocated by omega, ?_⟩, rfl⟩
      show alt'.length = ab.allocated ∧ alt'.take (ab.size + b.length) = i ++ b
      exact ⟨hl'.trans hl, by rw [ht', ht]⟩

/-- Every operation keeps the invariant, with the bytes it leaves. -/
theorem Haelt.nach {ab ab' : AppendableBuffer} {i : List UInt8} {op : PufferOp} {fuel : Nat}
    (h : Haelt ab i) (hl : pufferLauf fuel ab [op] = some ab') : Haelt ab' (op.nach i) := by
  cases op with
  | anhaengen m b =>
    obtain ⟨ab₁, ha, hl⟩ := Option.bind_eq_some.mp hl
    cases hl
    exact (h.anhaengen ha).1
  | zuruecksetzen =>
    cases hl
    exact h.zuruecksetzen
  | freigeben =>
    cases hl
    exact haelt_freeBuffer h

/-- **The invariant over a whole run.** -/
theorem haelt_lauf {fuel : Nat} {ops : List PufferOp} {ab ab' : AppendableBuffer}
    {i : List UInt8} (h : Haelt ab i) (hl : pufferLauf fuel ab ops = some ab') :
    Haelt ab' (ops.foldl (fun i op => op.nach i) i) := by
  induction ops generalizing ab i with
  | nil =>
    cases hl
    exact h
  | cons op ops ih =>
    rw [← List.singleton_append, pufferLauf_append] at hl
    obtain ⟨ab₁, h₁, hl⟩ := Option.bind_eq_some.mp hl
    exact ih (h.nach h₁) hl

/-- **The appendable buffer holds exactly what was appended**: for every sequence of appends of
    chunks of any lengths, resets and frees from the zeroed buffer, after an append that
    returns, `allocated ≥ size`, `size` is the number of bytes appended since the last reset or
    free, and the first `size` bytes of the block are those bytes in order. -/
theorem puffer_inhalt {fuel : Nat} {ops : List PufferOp} {m : Memalign} {b : List UInt8}
    {ab : AppendableBuffer} (h : pufferLauf fuel {} (ops ++ [.anhaengen m b]) = some ab) :
    ab.size ≤ ab.allocated ∧ ab.size = (angehaengt (ops ++ [.anhaengen m b])).length ∧
      ∃ blk, ab.buf = some blk ∧ blk.take ab.size = angehaengt (ops ++ [.anhaengen m b]) := by
  rw [pufferLauf_append] at h
  obtain ⟨ab₁, h₁, h⟩ := Option.bind_eq_some.mp h
  obtain ⟨ab₂, h₂, h⟩ := Option.bind_eq_some.mp h
  cases h
  have ha : angehaengt (ops ++ [.anhaengen m b]) = angehaengt ops ++ b := by
    simp [angehaengt, PufferOp.nach]
  obtain ⟨⟨hs, hle, hb⟩, hsome⟩ := (haelt_lauf haelt_leer h₁).anhaengen h₂
  obtain ⟨blk, e⟩ := Option.isSome_iff_exists.mp hsome
  rw [e] at hb
  exact ⟨hle, ha ▸ hs, blk, e, ha ▸ hb.2⟩

/-- A `memalign` whose blocks are zeroed. -/
def nullen : Memalign := ⟨fun n => some (List.replicate n 0), fun n _ h => by
  cases h
  exact List.length_replicate n 0⟩

/-- Two bytes (a block of 4), then three more: the loop grows the block once, to 6. -/
theorem puffer_inhalt_beispiel :
    pufferLauf 2 {} ([.anhaengen nullen [1, 2]] ++ [.anhaengen nullen [3, 4, 5]]) =
        some ⟨some [1, 2, 3, 4, 5, 0], 5, 6⟩ ∧ 5 ≤ 6 ∧
      5 = (angehaengt ([.anhaengen nullen [1, 2]] ++ [.anhaengen nullen [3, 4, 5]])).length ∧
      ∃ blk, some [1, 2, 3, 4, 5, 0] = some blk ∧
        blk.take 5 = angehaengt ([.anhaengen nullen [1, 2]] ++ [.anhaengen nullen [3, 4, 5]]) := by
  have h : pufferLauf 2 {} ([.anhaengen nullen [1, 2]] ++ [.anhaengen nullen [3, 4, 5]]) =
      some ⟨some [1, 2, 3, 4, 5, 0], 5, 6⟩ := by decide
  exact ⟨h, puffer_inhalt h⟩

/-- **A zero-length first append makes the next non-empty append hang**: when
    `memalign(16, 0)` answers with a block, as glibc does, the zeroed buffer after a zero-length
    append holds a block with `allocated = 0`, and no non-empty append after it returns,
    whatever bound its growth loop is given. -/
theorem puffer_haengt {m m' : Memalign} {b : List UInt8} (hm : (m.antwort 0).isSome)
    (hb : b ≠ []) (fuel : Nat) :
    (∃ blk, pufferLauf fuel {} [.anhaengen m []] = some ⟨some blk, 0, 0⟩) ∧
      pufferLauf fuel {} [.anhaengen m [], .anhaengen m' b] = none := by
  obtain ⟨blk, hblk⟩ := Option.isSome_iff_exists.mp hm
  obtain rfl : blk = [] := List.eq_nil_of_length_eq_zero (m.laenge _ _ hblk)
  have hw : wachse fuel b.length 0 = none :=
    wachse_haengt (Nat.zero_le 1) (List.length_pos.mpr hb) fuel
  have h₁ : appendBuffer m fuel {} [] = some ⟨some [], 0, 0⟩ := by
    simp [appendBuffer, hblk, kopiere]
  refine ⟨⟨[], by simp [pufferLauf, h₁]⟩, ?_⟩
  simp only [pufferLauf, h₁, Option.bind_some]
  simp [appendBuffer, hw, List.length_pos.mpr hb]

theorem puffer_haengt_beispiel :
    (∃ blk, pufferLauf 100 {} [.anhaengen nullen []] = some ⟨some blk, 0, 0⟩) ∧
      pufferLauf 100 {} [.anhaengen nullen [], .anhaengen nullen [1]] = none :=
  puffer_haengt (m := nullen) rfl (List.cons_ne_nil 1 []) 100

end NvdecVaapi
