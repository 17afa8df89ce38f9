/-
  File:      NvdecVaapi/Bild.lean
  Subject:   Where `nvGetImage` writes in the image `nvCreateImage` made.

  `nvCreateImage` sizes the buffer of a `w` by `h` image as the sum of the plane sizes
  `((w * h) >> (ss.x + ss.y)) * bppc * channelCount` and publishes the pitch `w * bppc` and the
  running offsets. `nvGetImage` copies plane `i` with one `cuMemcpy2D` of `height >> ss.y` rows of
  `(width >> ss.x) * bppc * channelCount` bytes, row `r` at `ptr + offset + r * width * bppc`,
  where `width` and `height` are the REQUEST's, never compared with the image's, and `offset`
  grows by the request's plane sizes: the descriptors `getImageKopien` (Einstieg/Weitere.lean).

  * `CUDA_MEMCPY2D.schreibt` -- the bytes a copy writes;
  * `kopiereEbenen_spur`, `kopiereBild_spur`, **`nvGetImage_kopien`** -- a successful
    `nvGetImage` makes, after its sync, exactly the `cuMemcpy2D` calls of `getImageKopien` for the
    request's width and height, in plane order, between the push and the pop;
  * `nvCreateImage_bild` -- what a successful `nvCreateImage` publishes;
  * `fmtInfo_erste_ebene` -- the first plane of every format of the table is a full plane of one
    channel;
  * **`getImage_schreibt_hinaus`** -- a request whose first plane alone is larger than the image
    makes `nvGetImage` write the byte at `data_size`, past the buffer;
  * **`getImage_eigene_groesse`** -- with the image's own width and height every copy writes inside
    `[0, data_size)`, plane `i` from `offsets[i]` with `pitches[i]`, odd sizes included.
-/
import NvdecVaapi.Schritte

namespace NvdecVaapi

variable (B : Bau)

/-! ## 1. The copies of the plane loop -/

/-- The copy writes byte `b` of the image buffer: `b` lies in a row `r < Height`, in
    `[dstHost + r * dstPitch, dstHost + r * dstPitch + WidthInBytes)`. -/
def CUDA_MEMCPY2D.schreibt (c : CUDA_MEMCPY2D) (b : Nat) : Prop :=
  ∃ r, r < c.Height ∧ c.dstHost + r * c.dstPitch ≤ b ∧ b < c.dstHost + r * c.dstPitch + c.WidthInBytes

instance (c : CUDA_MEMCPY2D) (b : Nat) : Decidable (c.schreibt b) :=
  inferInstanceAs (Decidable (∃ r, r < c.Height ∧ _))

theorem NVFormatInfo.ebenen_erste {f : NVFormatInfo} (hn : 0 < f.numPlanes) :
    ∃ rest, f.ebenen = f.ebene 0 :: rest := by
  obtain ⟨k, hk⟩ := Nat.exists_eq_add_of_lt hn
  rw [NVFormatInfo.ebenen, hk, Nat.zero_add, List.range_succ_eq_map, List.map_cons]
  exact ⟨_, rfl⟩

@[simp] theorem getImageKopien_length (f : NVFormatInfo) (width height offset : Nat)
    (ps : List NVFormatPlane) : (getImageKopien f width height offset ps).length = ps.length := by
  induction ps generalizing offset <;> simp [getImageKopien, *]

/-- A copy whose rows are as wide as its pitch writes every byte of its first `Height` pitches. -/
theorem schreibt_volle_zeilen {c : CUDA_MEMCPY2D} {b : Nat} (hw : c.WidthInBytes = c.dstPitch)
    (hb : b < c.Height * c.dstPitch) : c.schreibt (c.dstHost + b) := by
  have hp : 0 < c.dstPitch := Nat.pos_of_ne_zero fun h => by simp [h] at hb
  refine ⟨b / c.dstPitch, (Nat.div_lt_iff_lt_mul hp).2 hb, ?_, ?_⟩
  · have := Nat.div_mul_le_self b c.dstPitch
    omega
  · have := Nat.lt_div_mul_add (a := b) hp
    omega

/-! ## 2. The calls of `nvGetImage` -/

/-- **What a successful `nvCreateImage` publishes**: the format was found, and the size, pitches
    and offsets are those of `bildGroesse` and `bildAnlage` for its table entry. -/
theorem nvCreateImage_bild {fmt : Nat} {w h : Int} {w₀ w₁ : Welt} {st : VAStatus} {img : VAImage}
    (hc : nvCreateImage B fmt w h w₀ = .fertig (st, some img) w₁) :
    nvFormatFromVaFormat B.va120 fmt ≠ 0 ∧
      img.data_size = bildGroesse (fmtInfo B.va120 (nvFormatFromVaFormat B.va120 fmt)) w h ∧
      img.pitches = (bildAnlage (fmtInfo B.va120 (nvFormatFromVaFormat B.va120 fmt)) w h).1 ∧
      img.offsets = (bildAnlage (fmtInfo B.va120 (nvFormatFromVaFormat B.va120 fmt)) w h).2 := by
  unfold nvCreateImage at hc
  split at hc
  · cases hc
  obtain ⟨_, _, -, hc⟩ := Prog.bind_eq_fertig hc
  obtain ⟨_, _, -, hc⟩ := Prog.bind_eq_fertig hc
  obtain ⟨_, _, -, hc⟩ := Prog.bind_eq_fertig hc
  obtain ⟨_, _, -, hc⟩ := Prog.bind_eq_fertig hc
  obtain ⟨_, _, -, hc⟩ := Prog.bind_eq_fertig hc
  cases hc
  exact ⟨‹_›, rfl, rfl, rfl⟩

/-- The scan of `nvFormatFromVaFormat` answers `NV_FORMAT_NONE` or an index of the list it scans. -/
theorem sucheFormat_lt (f : Nat) (l : List NVFormatInfo) (i : Nat) :
    sucheFormat f l i = 0 ∨ sucheFormat f l i < i + l.length := by
  induction l generalizing i with
  | nil => exact .inl rfl
  | cons x xs ih =>
    simp only [sucheFormat, List.length_cons]
    split
    · exact .inr (by omega)
    · rcases ih (i + 1) with h | h
      · exact .inl h
      · exact .inr (by omega)

theorem nvFormatFromVaFormat_lt {va120 : Bool} {f : Nat} (h : nvFormatFromVaFormat va120 f ≠ 0) :
    nvFormatFromVaFormat va120 f < (formatsInfo va120).length := by
  have hl : 0 < (formatsInfo va120).length := by cases va120 <;> decide
  rcases sucheFormat_lt f ((formatsInfo va120).drop 1) 1 with h' | h'
  · exact absurd h' h
  · simp only [nvFormatFromVaFormat, List.length_drop] at h' ⊢
    omega

/-- Every format of the table past `NV_FORMAT_NONE` has planes, and its first plane is a full
    plane (no subsampling) of one channel. -/
theorem fmtInfo_erste_ebene {va120 : Bool} {j : Nat} (hj : j < (formatsInfo va120).length)
    (h0 : j ≠ 0) :
    0 < (fmtInfo va120 j).numPlanes ∧ (fmtInfo va120 j).ebene 0 = ⟨1, ((fmtInfo va120 j).ebene 0).fourcc, 0, 0⟩ := by
  revert j
  cases va120 <;> decide

/-! ## 4. A request larger than the image -/

/-- **`nvGetImage` writes past the image when the request is larger than it**: for every image a
    call of `nvCreateImage` made, of every format and size, and every request of `width` by
    `height` whose first plane alone, `width * height * bppc` bytes, exceeds the image's
    `data_size` (and fits in 32 bits), the copy of plane 0 writes the byte at `data_size`, outside
    the buffer. `nvGetImage` never compares the request with the image. -/
theorem getImage_schreibt_hinaus {fmt : Nat} {w h : Int} {w₀ w₁ : Welt} {st : VAStatus}
    {img : VAImage} {width height : Nat}
    (hc : nvCreateImage B fmt w h w₀ = .fertig (st, some img) w₁) (hd : 0 ≤ img.data_size)
    (hgross : img.data_size <
      ↑(width * height * (fmtInfo B.va120 (nvFormatFromVaFormat B.va120 fmt)).bppc))
    (hlim : width * height * (fmtInfo B.va120 (nvFormatFromVaFormat B.va120 fmt)).bppc < 2 ^ 32) :
    ∃ c ∈ getImageKopien (fmtInfo B.va120 (nvFormatFromVaFormat B.va120 fmt)) width height 0
        (fmtInfo B.va120 (nvFormatFromVaFormat B.va120 fmt)).ebenen,
      c.schreibt img.data_size.toNat := by
  obtain ⟨h0, -⟩ := nvCreateImage_bild B hc
  obtain ⟨hn, he⟩ := fmtInfo_erste_ebene (nvFormatFromVaFormat_lt h0) h0
  set f := fmtInfo B.va120 (nvFormatFromVaFormat B.va120 fmt)
  obtain ⟨rest, hpl⟩ := NVFormatInfo.ebenen_erste hn
  have hzeile : width * f.bppc ≤ width * height * f.bppc := by
    rcases Nat.eq_zero_or_pos height with rfl | hh
    · omega
    · exact Nat.mul_le_mul_right _ (Nat.le_mul_of_pos_right width hh)
  have hp : width * f.bppc < 2 ^ 32 := by omega
  rw [hpl, getImageKopien, he]
  refine ⟨_, List.mem_cons_self _ _, ?_⟩
  simp only [Nat.shiftRight_zero, Nat.mul_one, Nat.mod_eq_of_lt hp]
  simpa using schreibt_volle_zeilen (c := ⟨0, width * f.bppc, width * f.bppc, height⟩)
    (b := img.data_size.toNat) rfl (by rw [← Nat.mul_assoc, Nat.mul_comm height]; omega)

theorem getImage_schreibt_hinaus_nv12 :
    ∃ img w₁, nvCreateImage beispielBau (fourcc 'N' 'V' '1' '2') 16 16 leereWelt =
        .fertig (.success, some img) w₁ ∧ img.data_size = 384 ∧
      ∃ c ∈ getImageKopien (fmtInfo false 1) 32 32 0 (fmtInfo false 1).ebenen, c.schreibt 384 := by
  obtain ⟨img, w₁, hc, hd⟩ : ∃ img w₁, nvCreateImage beispielBau (fourcc 'N' 'V' '1' '2') 16 16
      leereWelt = .fertig (.success, some img) w₁ ∧ img.data_size = 384 := ⟨_, _, rfl, rfl⟩
  refine ⟨img, w₁, hc, hd, ?_⟩
  have h : ∃ c ∈ getImageKopien (fmtInfo false 1) 32 32 0 (fmtInfo false 1).ebenen,
      c.schreibt img.data_size.toNat :=
    getImage_schreibt_hinaus beispielBau hc (by rw [hd]; decide) (by rw [hd]; decide) (by decide)
  rwa [hd] at h

/-! ## 5. A request of the image's own size -/

/-- The two plane shapes of the table: a full plane of one channel, or a plane of two channels
    subsampled by 2 both ways (the interleaved chroma of NV12 and P01x). -/
def NVFormatPlane.Ebenenform (p : NVFormatPlane) : Prop :=
  p.ssx = 0 ∧ p.ssy = 0 ∧ p.channelCount = 1 ∨ p.ssx = 1 ∧ p.ssy = 1 ∧ p.channelCount = 2

instance : DecidablePred NVFormatPlane.Ebenenform :=
  fun _ => inferInstanceAs (Decidable (_ ∨ _))

/-- Every format of the table past `NV_FORMAT_NONE` has at most three planes, each of one of the
    two shapes, and at least one byte per channel. -/
theorem fmtInfo_ebenen {va120 : Bool} {j : Nat} (hj : j < (formatsInfo va120).length)
    (h0 : j ≠ 0) :
    0 < (fmtInfo va120 j).bppc ∧ (fmtInfo va120 j).numPlanes ≤ 3 ∧
      ∀ p ∈ (fmtInfo va120 j).ebenen, p.Ebenenform := by
  revert j
  cases va120 <;> decide

/-- The size of plane `p` of a `w` by `h` image, `((w * h) >> (ss.x + ss.y)) * bppc *
    channelCount`, for a width and height that are not negative. -/
def ebenenBytes (f : NVFormatInfo) (w h : Nat) (p : NVFormatPlane) : Nat :=
  ((w * h) >>> (p.ssx + p.ssy)) * f.bppc * p.channelCount

theorem ebenenGroesse_nat (f : NVFormatInfo) (p : NVFormatPlane) (w h : Nat) :
    ebenenGroesse f p w h = ebenenBytes f w h p := rfl

theorem summe_cast {α : Type} (l : List α) (g : α → Nat) :
    (l.map fun x => (g x : Int)).sum = ((l.map g).sum : Nat) := by
  induction l <;> simp [*]

theorem bildGroesse_nat (f : NVFormatInfo) (w h : Nat) :
    bildGroesse f w h = ((f.ebenen.map (ebenenBytes f w h)).sum : Nat) := by
  rw [NVFormatInfo.ebenen, List.map_map]
  exact summe_cast _ _

/-- The rows of a chroma plane of the image's own size fit in the plane: `r < h / 2` rows of
    pitch `w` and a last row of `2 * (w / 2)` bytes stay within `2 * ((w * h) / 4)`, for odd
    `w` and `h` too. -/
theorem chroma_zeilen {w h r : Nat} (hr : r < h / 2) : r * w + w / 2 * 2 ≤ w * h / 4 * 2 := by
  have h1 : r * w + w ≤ h / 2 * w := by
    rw [← Nat.succ_mul]
    exact Nat.mul_le_mul_right w hr
  have h2 : h / 2 * w * 2 ≤ w * h := by
    rw [Nat.mul_right_comm, Nat.mul_comm w h]
    exact Nat.mul_le_mul_right w (Nat.div_mul_le_self h 2)
  have h3 : h / 2 * w % 2 ≤ w % 2 := by
    rw [Nat.mul_mod]
    rcases Nat.mod_two_eq_zero_or_one w with e | e <;> rw [e] <;> omega
  omega

/-- **One copy of the image's own size stays in its plane**: the copy of a plane of either shape,
    from `off`, writes only bytes of `[off, off + ebenenBytes)`. -/
theorem kopie_in_ebene {f : NVFormatInfo} {p : NVFormatPlane} (hp : p.Ebenenform) {w h off b : Nat}
    (hw : w * f.bppc < 2 ^ 32)
    (hb : CUDA_MEMCPY2D.schreibt ⟨off, w * f.bppc % 2 ^ 32,
      (w >>> p.ssx) * f.bppc * p.channelCount % 2 ^ 32, h >>> p.ssy⟩ b) :
    off ≤ b ∧ b < off + ebenenBytes f w h p := by
  obtain ⟨r, hr, h1, h2⟩ := hb
  dsimp only at hr h1 h2
  rw [Nat.mod_eq_of_lt hw] at h1 h2
  unfold ebenenBytes
  rcases hp with ⟨hx, hy, hc⟩ | ⟨hx, hy, hc⟩ <;> simp only [hx, hy, hc, Nat.mul_one,
    Nat.shiftRight_eq_div_pow, Nat.reduceAdd, Nat.reducePow, Nat.div_one] at hr h2 ⊢
  · have := Nat.mul_le_mul_right (w * f.bppc) hr
    rw [Nat.succ_mul, Nat.mul_left_comm h, ← Nat.mul_assoc w] at this
    rw [Nat.mod_eq_of_lt (by omega)] at h2
    omega
  · have hk : w / 2 * f.bppc * 2 ≤ w * f.bppc := by
      rw [Nat.mul_right_comm]
      exact Nat.mul_le_mul_right _ (Nat.div_mul_le_self w 2)
    have := Nat.mul_le_mul_right f.bppc (chroma_zeilen (w := w) hr)
    rw [Nat.add_mul, Nat.mul_assoc r, Nat.mul_right_comm (w / 2), Nat.mul_right_comm (w * h / 4)]
      at this
    rw [Nat.mod_eq_of_lt (by omega)] at h2
    omega

/-- The plane loop with the image's own size, over planes of the two shapes whose sizes fit in
    32 bits from `off` on: copy `i` starts at `off` plus the sizes of the planes before it, has
    the pitch `w * bppc`, and writes only inside plane `i`. -/
theorem getImageKopien_eigene {f : NVFormatInfo} {w h : Nat} (hw : w * f.bppc < 2 ^ 32)
    (hwh : w * h < 2 ^ 32) (ps : List NVFormatPlane) (hps : ∀ p ∈ ps, p.Ebenenform) (off : Nat)
    (hoff : off + (ps.map (ebenenBytes f w h)).sum < 2 ^ 32) (i : Nat) (c : CUDA_MEMCPY2D)
    (hc : (getImageKopien f w h off ps)[i]? = some c) :
    c.dstHost = off + ((ps.take i).map (ebenenBytes f w h)).sum ∧ c.dstPitch = w * f.bppc ∧
      ∀ b, c.schreibt b → c.dstHost ≤ b ∧ b < off + ((ps.take (i + 1)).map (ebenenBytes f w h)).sum := by
  induction ps generalizing off i with
  | nil => simp [getImageKopien] at hc
  | cons p ps ih =>
    simp only [List.forall_mem_cons, List.map_cons, List.sum_cons] at hps hoff
    cases i with
    | zero =>
      simp only [getImageKopien, List.getElem?_cons_zero, Option.some.injEq] at hc
      subst hc
      refine ⟨by simp, Nat.mod_eq_of_lt hw, fun b hb => ?_⟩
      simpa using kopie_in_ebene hps.1 hw hb
    | succ i =>
      have hnext : (off + ((w * h % 2 ^ 32) >>> (p.ssx + p.ssy)) * f.bppc * p.channelCount) % 2 ^ 32
          = off + ebenenBytes f w h p := by
        rw [Nat.mod_eq_of_lt hwh, Nat.mod_eq_of_lt (by simp only [ebenenBytes] at hoff ⊢; omega)]
        rfl
      simp only [getImageKopien, List.getElem?_cons_succ, hnext] at hc
      obtain ⟨e1, e2, e3⟩ := ih hps.2 _ (by omega) i hc
      simp only [List.take_succ_cons, List.map_cons, List.sum_cons, ← Nat.add_assoc]
      exact ⟨e1, e2, e3⟩

/-- **With the image's own width and height `nvGetImage` fills exactly the published layout**: for
    every image a call of `nvCreateImage` made of a width and height that are not negative, whose
    size and pitch fit in 32 bits, copy `i` of a request of that size starts at `offsets[i]`, has
    the pitch `pitches[i]` (so row `r` is written at `offsets[i] + r * pitches[i]`), and writes only
    bytes below `data_size`. -/
theorem getImage_eigene_groesse {fmt w h : Nat} {w₀ w₁ : Welt} {st : VAStatus} {img : VAImage}
    (hc : nvCreateImage B fmt w h w₀ = .fertig (st, some img) w₁)
    (hw : w * (fmtInfo B.va120 (nvFormatFromVaFormat B.va120 fmt)).bppc < 2 ^ 32)
    (hlim : img.data_size < 2 ^ 32) (i : Nat) (c : CUDA_MEMCPY2D)
    (hi : (getImageKopien (fmtInfo B.va120 (nvFormatFromVaFormat B.va120 fmt)) w h 0
      (fmtInfo B.va120 (nvFormatFromVaFormat B.va120 fmt)).ebenen)[i]? = some c) :
    (c.dstHost : Int) = img.offsets.getD i 0 ∧ (c.dstPitch : Int) = img.pitches.getD i 0 ∧
      ∀ b, c.schreibt b → (b : Int) < img.data_size := by
  obtain ⟨h0, hd, hp, ho⟩ := nvCreateImage_bild B hc
  obtain ⟨hk, hn, hps⟩ := fmtInfo_ebenen (nvFormatFromVaFormat_lt h0) h0
  obtain ⟨hn0, he⟩ := fmtInfo_erste_ebene (nvFormatFromVaFormat_lt h0) h0
  set f := fmtInfo B.va120 (nvFormatFromVaFormat B.va120 fmt)
  rw [hd, bildGroesse_nat] at hlim ⊢
  rw [hp, ho]
  have hwh : w * h < 2 ^ 32 := by
    obtain ⟨rest, hpl⟩ := NVFormatInfo.ebenen_erste hn0
    have := Nat.le_mul_of_pos_right (w * h) hk
    rw [hpl, List.map_cons, List.sum_cons, he] at hlim
    simp only [ebenenBytes, Nat.add_zero, Nat.shiftRight_zero, Nat.mul_one] at hlim
    omega
  obtain ⟨e1, e2, e3⟩ := getImageKopien_eigene hw hwh _ hps 0 (by omega) i c hi
  have hil : i < f.numPlanes := by
    have := (List.getElem?_eq_some_iff.1 hi).1
    simpa [NVFormatInfo.ebenen] using this
  refine ⟨?_, ?_, fun b hb => ?_⟩
  · rw [e1, Nat.zero_add, NVFormatInfo.ebenen, ← List.map_take, List.take_range, List.map_map,
      Nat.min_eq_left hil.le]
    rcases (by omega : i = 0 ∨ i = 1 ∨ i = 2) with rfl | rfl | rfl <;> simp [bildAnlage,
      ebenenGroesse_nat, show List.range 1 = [0] from rfl, show List.range 2 = [0, 1] from rfl]
  · rw [e2]
    rcases (by omega : i = 0 ∨ i = 1 ∨ i = 2) with rfl | rfl | rfl <;> simp [bildAnlage]
  · have := (e3 b hb).2
    have := List.sum_take_add_sum_drop (f.ebenen.map (ebenenBytes f w h)) (i + 1)
    rw [List.map_take] at *
    omega

theorem getImage_eigene_groesse_nv12 :
    ∃ img w₁, nvCreateImage beispielBau (fourcc 'N' 'V' '1' '2') 16 16 leereWelt =
        .fertig (.success, some img) w₁ ∧ img.data_size = 384 ∧
      (getImageKopien (fmtInfo false 1) 16 16 0 (fmtInfo false 1).ebenen)[1]? =
        some ⟨256, 16, 16, 8⟩ ∧
      ((256 : Nat) : Int) = img.offsets.getD 1 0 ∧ ((16 : Nat) : Int) = img.pitches.getD 1 0 ∧
      ∀ b, CUDA_MEMCPY2D.schreibt ⟨256, 16, 16, 8⟩ b → (b : Int) < img.data_size := by
  obtain ⟨img, w₁, hc, hd⟩ : ∃ img w₁, nvCreateImage beispielBau (fourcc 'N' 'V' '1' '2') 16 16
      leereWelt = .fertig (.success, some img) w₁ ∧ img.data_size = 384 := ⟨_, _, rfl, rfl⟩
  have hk : (getImageKopien (fmtInfo false 1) 16 16 0 (fmtInfo false 1).ebenen)[1]? =
      some ⟨256, 16, 16, 8⟩ := by decide
  exact ⟨img, w₁, hc, hd, hk,
    getImage_eigene_groesse beispielBau hc (by decide) (by rw [hd]; decide) 1 _ hk⟩

end NvdecVaapi
