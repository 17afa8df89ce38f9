/-
  File:      NvdecVaapi/Konfiguration.lean
  Subject:   The configs of `vabackend.c`: the formats `nvCreateConfig` gives a config, and
             what the other config entry points answer about a config it created.

  `nvCreateConfig` starts from 4:2:0, NV12, 8 bit and runs three `switch`es over the profile:
  one under `supports16BitSurface`, one under `supports444Surface`, one under both; the VP9 and
  AV1 cases read the first attribute when it is an RT-format attribute. `nvGetConfigAttributes`
  and `nvQueryConfigAttributes` advertise the RT formats of a profile with one shared `switch`
  (`rtFormate`), masked by the same two flags; `nvQuerySurfaceAttributes` rejects a config whose
  format the flags exclude. The results here say how these agree.

  * `schalter16`, `schalter444`, `schalter444_16` -- `konfiguriere` cut at its three `switch`es
    (`konfiguriere_eq`, by `rfl`), each with its lemmas;
  * `NVConfig.HatArt`, `beworben`, `Ausnahme`, `Art` -- the RT format a config stands for, the
    formats a profile advertises, and the one case where the two part;
  * `Gueltig` -- what `nvQuerySurfaceAttributes` checks of a config; `Art.gueltig`;
  * **`nvGetConfigAttributes_antwort`** -- every RT-format attribute gets the profile's formats,
    which hold 4:2:0 and nothing the flags exclude;
  * **`config_abfrage`** -- `nvQueryConfigAttributes` on a created config answers its profile,
    `VLD` and the formats `nvGetConfigAttributes` advertises;
  * **`config_oberflaechen`** -- a created config has the format of surfaces of one RT format,
    and `nvQuerySurfaceAttributes` accepts it;
  * **`config_beworben`** -- that RT format is advertised for the profile, except when an AV1
    profile is asked for a 12-bit format it does not advertise.
-/
import NvdecVaapi.Rueckbau

namespace NvdecVaapi

/-! ## 1. The three `switch`es of `nvCreateConfig` -/

/-- The `switch` under `supports16BitSurface`: the 4:2:0 profiles of 10 and 12 bits. -/
def schalter16 (drv : NVDriver) (attrib_list : List VAConfigAttrib) (cfg : NVConfig) : NVConfig :=
  if drv.supports16BitSurface then
    match cfg.profile with
    | .HEVCMain10 => { cfg with surfaceFormat := .P016, bitDepth := 10 }
    | .HEVCMain12 => { cfg with surfaceFormat := .P016, bitDepth := 12 }
    | .VP9Profile2 | .AV1Profile0 =>
      match ersteRtFormat attrib_list with
      | some v =>
        match hochBit420 v with
        | some (f, b) => { cfg with surfaceFormat := f, bitDepth := b }
        | none => cfg
      | none => if cfg.profile = .VP9Profile2 then { cfg with surfaceFormat := .P016, bitDepth := 10 }
                else cfg
    | _ => cfg
  else cfg

/-- The `switch` under `supports444Surface`: the 4:4:4 profiles of 8 bits. -/
def schalter444 (drv : NVDriver) (cfg : NVConfig) : NVConfig :=
  if drv.supports444Surface then
    match cfg.profile with
    | .HEVCMain444 | .VP9Profile1 | .AV1Profile1 =>
      { cfg with surfaceFormat := .YUV444, chromaFormat := .«444», bitDepth := 8 }
    | _ => cfg
  else cfg

/-- The `switch` under both flags: the 4:4:4 profiles of 10 and 12 bits. -/
def schalter444_16 (drv : NVDriver) (attrib_list : List VAConfigAttrib) (cfg : NVConfig) :
    NVConfig :=
  if drv.supports444Surface ∧ drv.supports16BitSurface then
    match cfg.profile with
    | .HEVCMain444_10 => { cfg with surfaceFormat := .YUV444_16Bit, chromaFormat := .«444», bitDepth := 10 }
    | .HEVCMain444_12 => { cfg with surfaceFormat := .YUV444_16Bit, chromaFormat := .«444», bitDepth := 12 }
    | .VP9Profile3 | .AV1Profile1 =>
      match ersteRtFormat attrib_list with
      | some v =>
        match hochBit444 v with
        | some (f, b) => { cfg with surfaceFormat := f, chromaFormat := .«444», bitDepth := b }
        | none => cfg
      | none => if cfg.profile = .VP9Profile3 then
                  { cfg with surfaceFormat := .YUV444_16Bit, chromaFormat := .«444», bitDepth := 10 }
                else cfg
    | _ => cfg
  else cfg

theorem konfiguriere_eq (drv : NVDriver) (cfg : NVConfig) (l : List VAConfigAttrib) :
    konfiguriere drv cfg l = schalter444_16 drv l (schalter444 drv (schalter16 drv l cfg)) := rfl

/-- `c'` is `c` with at most the surface format, the chroma format and the bit depth changed. -/
structure NurArt (c c' : NVConfig) : Prop where
  profile : c'.profile = c.profile
  entrypoint : c'.entrypoint = c.entrypoint
  cudaCodec : c'.cudaCodec = c.cudaCodec

theorem NurArt.trans {c c' c'' : NVConfig} (h : NurArt c c') (h' : NurArt c' c'') : NurArt c c'' :=
  ⟨h'.1.trans h.1, h'.2.trans h.2, h'.3.trans h.3⟩

theorem schalter16_nurArt (drv : NVDriver) (l : List VAConfigAttrib) (cfg : NVConfig) :
    NurArt cfg (schalter16 drv l cfg) := by
  unfold schalter16
  repeat' split
  all_goals exact ⟨rfl, rfl, rfl⟩

theorem schalter444_nurArt (drv : NVDriver) (cfg : NVConfig) : NurArt cfg (schalter444 drv cfg) := by
  unfold schalter444
  repeat' split
  all_goals exact ⟨rfl, rfl, rfl⟩

theorem schalter444_16_nurArt (drv : NVDriver) (l : List VAConfigAttrib) (cfg : NVConfig) :
    NurArt cfg (schalter444_16 drv l cfg) := by
  unfold schalter444_16
  repeat' split
  all_goals exact ⟨rfl, rfl, rfl⟩

theorem konfiguriere_nurArt (drv : NVDriver) (cfg : NVConfig) (l : List VAConfigAttrib) :
    NurArt cfg (konfiguriere drv cfg l) :=
  ((schalter16_nurArt drv l cfg).trans (schalter444_nurArt drv _)).trans (schalter444_16_nurArt drv l _)

theorem hochBit420_some {v : Nat} {f : cudaVideoSurfaceFormat} {b : Nat}
    (h : hochBit420 v = some (f, b)) :
    v = VA_RT_FORMAT_YUV420_12 ∧ f = .P016 ∧ b = 12 ∨ v = VA_RT_FORMAT_YUV420_10 ∧ f = .P016 ∧ b = 10 := by
  unfold hochBit420 at h
  split_ifs at h with h₁ h₂ <;> cases h
  · exact .inl ⟨h₁, rfl, rfl⟩
  · exact .inr ⟨h₂, rfl, rfl⟩

theorem hochBit444_some {v : Nat} {f : cudaVideoSurfaceFormat} {b : Nat}
    (h : hochBit444 v = some (f, b)) :
    v = VA_RT_FORMAT_YUV444_12 ∧ f = .YUV444_16Bit ∧ b = 12 ∨
    v = VA_RT_FORMAT_YUV444_10 ∧ f = .YUV444_16Bit ∧ b = 10 ∨
    v = VA_RT_FORMAT_YUV444 ∧ f = .YUV444 ∧ b = 8 := by
  unfold hochBit444 at h
  split_ifs at h with h₁ h₂ h₃ <;> cases h
  · exact .inl ⟨h₁, rfl, rfl⟩
  · exact .inr (.inl ⟨h₂, rfl, rfl⟩)
  · exact .inr (.inr ⟨h₃, rfl, rfl⟩)

/-! ## 2. The advertised formats -/

/-- `x & ~m` keeps bit 0 when `m` does not hold it. -/
theorem ohneBits_and_one {x m : Nat} (hm : (0xffffffff ^^^ m) &&& 1 = 1) :
    ohneBits x m &&& 1 = x &&& 1 := by
  rw [ohneBits, Nat.land_assoc, hm]

theorem ohneBits_and {x m b : Nat} (hm : (0xffffffff ^^^ m) &&& b = 0) : ohneBits x m &&& b = 0 := by
  rw [ohneBits, Nat.land_assoc, hm, Nat.and_zero]

theorem ohneBits_and_of {x m b : Nat} (hx : x &&& b = 0) : ohneBits x m &&& b = 0 := by
  rw [ohneBits, Nat.land_assoc, Nat.land_comm _ b, ← Nat.land_assoc, hx, Nat.zero_and]

theorem lor_and_one (r : Nat) : (1 ||| r) &&& 1 = 1 :=
  Nat.eq_of_testBit_eq fun i => by
    simp only [Nat.testBit_land, Nat.testBit_lor]
    cases Nat.testBit 1 i <;> simp

/-- Every profile advertises 4:2:0 of 8 bits. -/
theorem rtFormate_yuv420 (drv : NVDriver) (p : VAProfile) :
    rtFormate drv p &&& VA_RT_FORMAT_YUV420 = VA_RT_FORMAT_YUV420 := by
  unfold rtFormate VA_RT_FORMAT_YUV420
  dsimp only
  split_ifs <;> (repeat rw [ohneBits_and_one]) <;> first | exact lor_and_one _ | decide

/-- Without 16-bit surfaces no profile advertises a format of 10 or 12 bits. -/
theorem rtFormate_ohne16 {drv : NVDriver} (h : drv.supports16BitSurface = false) (p : VAProfile) :
    rtFormate drv p &&& (VA_RT_FORMAT_YUV420_10 ||| VA_RT_FORMAT_YUV420_12 |||
      VA_RT_FORMAT_YUV444_10 ||| VA_RT_FORMAT_YUV444_12) = 0 := by
  unfold rtFormate
  simp only [h, Bool.false_eq_true, ↓reduceIte]
  split_ifs
  · exact ohneBits_and (by decide)
  · exact ohneBits_and_of (ohneBits_and (by decide))

/-- Without 4:4:4 surfaces no profile advertises a 4:4:4 format. -/
theorem rtFormate_ohne444 {drv : NVDriver} (h : drv.supports444Surface = false) (p : VAProfile) :
    rtFormate drv p &&& (VA_RT_FORMAT_YUV444 ||| VA_RT_FORMAT_YUV444_10 ||| VA_RT_FORMAT_YUV444_12) =
      0 := by
  unfold rtFormate
  simp only [h, Bool.false_eq_true, ↓reduceIte]
  exact ohneBits_and (by decide)

/-- `v` is among the RT formats `nvGetConfigAttributes` writes for `p`. -/
def beworben (drv : NVDriver) (p : VAProfile) (v : Nat) : Bool := v &&& rtFormate drv p != 0

/-- Only the flags of the driver count. -/
theorem beworben_flags (drv : NVDriver) (p : VAProfile) (v : Nat) :
    beworben drv p v =
      beworben { supports16BitSurface := drv.supports16BitSurface,
                 supports444Surface := drv.supports444Surface } p v := rfl

/-- A format of a mask the advertised formats miss is not advertised. -/
theorem beworben_of_maske {drv : NVDriver} {p : VAProfile} {v m : Nat} (hv : v &&& m = v)
    (hm : rtFormate drv p &&& m = 0) : beworben drv p v = false := by
  have : v &&& rtFormate drv p = 0 := by
    rw [← hv, Nat.land_assoc, Nat.land_comm m, hm, Nat.and_zero]
  simp [beworben, this]

/-- A 10- or 12-bit format is advertised only with 16-bit surfaces. -/
theorem beworben_tief {drv : NVDriver} {p : VAProfile} {v : Nat}
    (hv : v = VA_RT_FORMAT_YUV420_10 ∨ v = VA_RT_FORMAT_YUV420_12 ∨ v = VA_RT_FORMAT_YUV444_10 ∨
      v = VA_RT_FORMAT_YUV444_12) (hb : beworben drv p v) : drv.supports16BitSurface := by
  cases h : drv.supports16BitSurface
  · rw [beworben_of_maske (by rcases hv with rfl | rfl | rfl | rfl <;> decide) (rtFormate_ohne16 h p)] at hb
    cases hb
  · rfl

/-- A 4:4:4 format is advertised only with 4:4:4 surfaces. -/
theorem beworben_vier {drv : NVDriver} {p : VAProfile} {v : Nat}
    (hv : v = VA_RT_FORMAT_YUV444 ∨ v = VA_RT_FORMAT_YUV444_10 ∨ v = VA_RT_FORMAT_YUV444_12)
    (hb : beworben drv p v) : drv.supports444Surface := by
  cases h : drv.supports444Surface
  · rw [beworben_of_maske (by rcases hv with rfl | rfl | rfl <;> decide) (rtFormate_ohne444 h p)] at hb
    cases hb
  · rfl

/-- `cfg` has the format of the RT format `v`: `nvCreateSurfaces2` gives the surfaces of `v`
    exactly the config's surface format, chroma format and bit depth. -/
def NVConfig.HatArt (cfg : NVConfig) (v : Nat) : Prop :=
  surfaceArt v = some (cfg.surfaceFormat, cfg.chromaFormat, cfg.bitDepth)

/-- The first attribute asks an AV1 profile for a 12-bit format the profile does not advertise,
    and the GPU holds surfaces of that format. -/
def Ausnahme (drv : NVDriver) (p : VAProfile) (l : List VAConfigAttrib) (v : Nat) : Prop :=
  ersteRtFormat l = some v ∧ drv.supports16BitSurface ∧
    (p = .AV1Profile0 ∧ v = VA_RT_FORMAT_YUV420_12 ∨
     p = .AV1Profile1 ∧ v = VA_RT_FORMAT_YUV444_12 ∧ drv.supports444Surface)

/-- A config built for `p` and `l` has the format of an RT format, and that format is advertised
    for `p` exactly when it is not the exception. -/
def Art (drv : NVDriver) (p : VAProfile) (l : List VAConfigAttrib) (cfg : NVConfig) : Prop :=
  ∃ v, cfg.HatArt v ∧ (beworben drv p v ↔ ¬ Ausnahme drv p l v)

section Schalter

variable {drv : NVDriver} {p : VAProfile} {l : List VAConfigAttrib} {cfg : NVConfig}

theorem Art.of_beworben {v : Nat} (hv : cfg.HatArt v) (hb : beworben drv p v)
    (ha : ¬ Ausnahme drv p l v) : Art drv p l cfg := ⟨v, hv, iff_of_true hb ha⟩

theorem Art.of_ausnahme {v : Nat} (hv : cfg.HatArt v) (hb : beworben drv p v = false)
    (ha : Ausnahme drv p l v) : Art drv p l cfg :=
  ⟨v, hv, iff_of_false (by simp [hb]) (not_not.mpr ha)⟩

theorem nicht_ausnahme {v : Nat} (h₀ : p ≠ .AV1Profile0 ∨ v ≠ VA_RT_FORMAT_YUV420_12)
    (h₁ : p ≠ .AV1Profile1 ∨ v ≠ VA_RT_FORMAT_YUV444_12) : ¬ Ausnahme drv p l v := by
  rintro ⟨-, -, ⟨hp, hv⟩ | ⟨hp, hv, -⟩⟩
  · exact h₀.elim (· hp) (· hv)
  · exact h₁.elim (· hp) (· hv)

/-- The `switch` under `supports16BitSurface` on a 4:2:0 config: 10 and 12 bits are advertised
    for the profiles it handles, but for AV1 Profile 0 with a 12-bit first attribute. -/
theorem schalter16_art (hp : cfg.profile = p) (hch : cfg.chromaFormat = .«420»)
    (h : Art drv p l cfg) : Art drv p l (schalter16 drv l cfg) := by
  subst hp
  unfold schalter16
  split
  · rename_i h16
    have hb : ∀ v, beworben drv cfg.profile v =
        beworben { supports16BitSurface := true, supports444Surface := drv.supports444Surface }
          cfg.profile v := fun v => by rw [beworben_flags, h16]
    have h10 : beworben drv cfg.profile VA_RT_FORMAT_YUV420_10 → Art drv cfg.profile l
        { cfg with surfaceFormat := .P016, bitDepth := 10 } := fun hb' =>
      .of_beworben (by rw [NVConfig.HatArt, hch]; rfl) hb' (nicht_ausnahme (.inr (by decide))
        (.inr (by decide)))
    split <;> rename_i hp <;> simp only [hp] at hb h h10 ⊢
    · exact h10 (by rw [hb]; cases drv.supports444Surface <;> rfl)
    · exact .of_beworben (v := VA_RT_FORMAT_YUV420_12) (by rw [NVConfig.HatArt, hch]; rfl)
        (by rw [hb]; cases drv.supports444Surface <;> rfl) (nicht_ausnahme (by decide) (by decide))
    · split
      · split
        · rename_i v hl _ f b hv
          obtain ⟨rfl, rfl, rfl⟩ | ⟨rfl, rfl, rfl⟩ := hochBit420_some hv
          · exact .of_beworben (v := VA_RT_FORMAT_YUV420_12) (by rw [NVConfig.HatArt, hch]; rfl)
              (by rw [hb]; cases drv.supports444Surface <;> rfl) (nicht_ausnahme (by decide) (by decide))
          · exact h10 (by rw [hb]; cases drv.supports444Surface <;> rfl)
        · exact h
      · exact h10 (by rw [hb]; cases drv.supports444Surface <;> rfl)
    · split
      · split
        · rename_i v hl _ f b hv
          obtain ⟨rfl, rfl, rfl⟩ | ⟨rfl, rfl, rfl⟩ := hochBit420_some hv
          · exact .of_ausnahme (v := VA_RT_FORMAT_YUV420_12) (by rw [NVConfig.HatArt, hch]; rfl)
              (by rw [hb]; cases drv.supports444Surface <;> rfl) ⟨hl, h16, .inl ⟨rfl, rfl⟩⟩
          · exact h10 (by rw [hb]; cases drv.supports444Surface <;> rfl)
        · exact h
      · exact h
    · exact h
  · exact h

/-- The `switch` under `supports444Surface`: 4:4:4 of 8 bits is advertised for its profiles. -/
theorem schalter444_art (hp : cfg.profile = p) (h : Art drv p l cfg) :
    Art drv p l (schalter444 drv cfg) := by
  subst hp
  unfold schalter444
  split
  · rename_i h444
    have hb : ∀ v, beworben drv cfg.profile v =
        beworben { supports16BitSurface := drv.supports16BitSurface, supports444Surface := true }
          cfg.profile v := fun v => by rw [beworben_flags, h444]
    split <;> rename_i hp <;> simp only [hp] at hb h ⊢
    all_goals first
      | exact h
      | exact .of_beworben (v := VA_RT_FORMAT_YUV444) rfl
          (by rw [hb]; cases drv.supports16BitSurface <;> rfl) (nicht_ausnahme (by decide) (by decide))
  · exact h

/-- The `switch` under both flags: 10 and 12 bits of 4:4:4 are advertised for its profiles, but
    for AV1 Profile 1 with a 12-bit first attribute. -/
theorem schalter444_16_art (hp : cfg.profile = p) (h : Art drv p l cfg) :
    Art drv p l (schalter444_16 drv l cfg) := by
  subst hp
  unfold schalter444_16
  split
  · rename_i hf
    have hb : ∀ v, beworben drv cfg.profile v =
        beworben { supports16BitSurface := true, supports444Surface := true } cfg.profile v :=
      fun v => by rw [beworben_flags, hf.1, hf.2]
    split <;> rename_i hp <;> simp only [hp] at hb h ⊢
    · exact .of_beworben (v := VA_RT_FORMAT_YUV444_10) rfl (by rw [hb]; rfl)
        (nicht_ausnahme (by decide) (by decide))
    · exact .of_beworben (v := VA_RT_FORMAT_YUV444_12) rfl (by rw [hb]; rfl)
        (nicht_ausnahme (by decide) (by decide))
    · split
      · split
        · rename_i v hl _ f b hv
          obtain ⟨rfl, rfl, rfl⟩ | ⟨rfl, rfl, rfl⟩ | ⟨rfl, rfl, rfl⟩ := hochBit444_some hv
          · exact .of_beworben (v := VA_RT_FORMAT_YUV444_12) rfl (by rw [hb]; rfl)
              (nicht_ausnahme (by decide) (by decide))
          · exact .of_beworben (v := VA_RT_FORMAT_YUV444_10) rfl (by rw [hb]; rfl)
              (nicht_ausnahme (by decide) (by decide))
          · exact .of_beworben (v := VA_RT_FORMAT_YUV444) rfl (by rw [hb]; rfl)
              (nicht_ausnahme (by decide) (by decide))
        · exact h
      · exact .of_beworben (v := VA_RT_FORMAT_YUV444_10) rfl (by rw [hb]; rfl)
          (nicht_ausnahme (by decide) (by decide))
    · split
      · split
        · rename_i v hl _ f b hv
          obtain ⟨rfl, rfl, rfl⟩ | ⟨rfl, rfl, rfl⟩ | ⟨rfl, rfl, rfl⟩ := hochBit444_some hv
          · exact .of_ausnahme (v := VA_RT_FORMAT_YUV444_12) rfl (by rw [hb]; rfl)
              ⟨hl, hf.2, .inr ⟨rfl, rfl, hf.1⟩⟩
          · exact .of_beworben (v := VA_RT_FORMAT_YUV444_10) rfl (by rw [hb]; rfl)
              (nicht_ausnahme (by decide) (by decide))
          · exact .of_beworben (v := VA_RT_FORMAT_YUV444) rfl (by rw [hb]; rfl)
              (nicht_ausnahme (by decide) (by decide))
        · exact h
      · exact h
    · exact h
  · exact h

end Schalter

/-- Every profile advertises 4:2:0 of 8 bits, the format `nvCreateConfig` starts from. -/
theorem beworben_yuv420 (drv : NVDriver) (p : VAProfile) : beworben drv p VA_RT_FORMAT_YUV420 := by
  rw [beworben, Nat.land_comm, rtFormate_yuv420]
  rfl

/-- The three `switch`es from the defaults: every config `nvCreateConfig` builds has a format. -/
theorem konfiguriere_art (drv : NVDriver) (profile : VAProfile) (entrypoint : VAEntrypoint)
    (cudaCodec : cudaVideoCodec) (l : List VAConfigAttrib) :
    Art drv profile l (konfiguriere drv
      { profile := profile, entrypoint := entrypoint, cudaCodec := cudaCodec,
        chromaFormat := .«420», surfaceFormat := .NV12, bitDepth := 8 } l) := by
  have h₁ := schalter16_nurArt drv l
    { profile := profile, entrypoint := entrypoint, cudaCodec := cudaCodec,
      chromaFormat := .«420», surfaceFormat := .NV12, bitDepth := 8 }
  rw [konfiguriere_eq]
  exact schalter444_16_art (h₁.trans (schalter444_nurArt drv _)).profile
    (schalter444_art h₁.profile (schalter16_art rfl rfl (.of_beworben (v := VA_RT_FORMAT_YUV420) rfl
      (beworben_yuv420 _ _) (nicht_ausnahme (.inr (by decide)) (.inr (by decide))))))

/-- Only the flags of the driver count. -/
theorem Art.of_flags {d d' : NVDriver} {p : VAProfile} {l : List VAConfigAttrib} {cfg : NVConfig}
    (h16 : d'.supports16BitSurface = d.supports16BitSurface)
    (h444 : d'.supports444Surface = d.supports444Surface) (h : Art d p l cfg) : Art d' p l cfg := by
  obtain ⟨v, hv, hb⟩ := h
  refine ⟨v, hv, ?_⟩
  rw [beworben_flags, h16, h444, ← beworben_flags]
  simpa only [Ausnahme, h16, h444] using hb

/-! ## 4. What `nvQuerySurfaceAttributes` accepts -/

/-- The checks `nvQuerySurfaceAttributes` makes of a config: 4:2:0 or 4:4:4, a 4:4:4 format only
    with 4:4:4 surfaces, P016 only with 16-bit surfaces. -/
structure Gueltig (drv : NVDriver) (cfg : NVConfig) : Prop where
  chroma : cfg.chromaFormat = .«420» ∨ cfg.chromaFormat = .«444»
  vier : cfg.chromaFormat = .«444» ∨ cfg.surfaceFormat = .YUV444_16Bit → drv.supports444Surface
  tief : cfg.surfaceFormat = .P016 → drv.supports16BitSurface

theorem surfaceArt_some {v : Nat} {f : cudaVideoSurfaceFormat} {c : cudaVideoChromaFormat} {b : Nat}
    (h : surfaceArt v = some (f, c, b)) :
    v = VA_RT_FORMAT_YUV420 ∧ f = .NV12 ∧ c = .«420» ∨
    (v = VA_RT_FORMAT_YUV420_10 ∨ v = VA_RT_FORMAT_YUV420_12) ∧ f = .P016 ∧ c = .«420» ∨
    v = VA_RT_FORMAT_YUV444 ∧ f = .YUV444 ∧ c = .«444» ∨
    (v = VA_RT_FORMAT_YUV444_10 ∨ v = VA_RT_FORMAT_YUV444_12) ∧ f = .YUV444_16Bit ∧ c = .«444» := by
  unfold surfaceArt at h
  split_ifs at h with h₁ h₂ h₃ h₄ h₅ h₆ <;> cases h
  · exact .inl ⟨h₁, rfl, rfl⟩
  · exact .inr (.inl ⟨.inl h₂, rfl, rfl⟩)
  · exact .inr (.inl ⟨.inr h₃, rfl, rfl⟩)
  · exact .inr (.inr (.inl ⟨h₄, rfl, rfl⟩))
  · exact .inr (.inr (.inr ⟨.inl h₅, rfl, rfl⟩))
  · exact .inr (.inr (.inr ⟨.inr h₆, rfl, rfl⟩))

/-- A config of an advertised format, or of the exception, passes the checks: the flags that
    mask a format out of the advertised ones are the flags the checks ask for. -/
theorem Art.gueltig {drv : NVDriver} {p : VAProfile} {l : List VAConfigAttrib} {cfg : NVConfig}
    (h : Art drv p l cfg) : Gueltig drv cfg := by
  obtain ⟨v, hv, hb⟩ := h
  have h16 : v = VA_RT_FORMAT_YUV420_10 ∨ v = VA_RT_FORMAT_YUV420_12 → drv.supports16BitSurface :=
    fun hv' => by
      by_cases ha : Ausnahme drv p l v
      · exact ha.2.1
      · exact beworben_tief (hv'.elim .inl (.inr ∘ .inl)) (hb.mpr ha)
  have h444 : v = VA_RT_FORMAT_YUV444 ∨ v = VA_RT_FORMAT_YUV444_10 ∨ v = VA_RT_FORMAT_YUV444_12 →
      drv.supports444Surface := fun hv' => by
    by_cases ha : Ausnahme drv p l v
    · obtain ⟨-, -, ⟨-, rfl⟩ | ⟨-, -, h⟩⟩ := ha
      · rcases hv' with h | h | h <;> cases h
      · exact h
    · exact beworben_vier hv' (hb.mpr ha)
  rcases surfaceArt_some hv with ⟨-, hf, hc⟩ | ⟨hv', hf, hc⟩ | ⟨hv', hf, hc⟩ | ⟨hv', hf, hc⟩
  · exact ⟨.inl hc, by simp [hf, hc], by simp [hf]⟩
  · exact ⟨.inl hc, by simp [hf, hc], fun _ => h16 hv'⟩
  · exact ⟨.inr hc, fun _ => h444 (.inl hv'), by simp [hf]⟩
  · exact ⟨.inr hc, fun _ => h444 (.inr hv'), by simp [hf]⟩

/-- The first call of libva's pair, `attrib_list == NULL`, on a config that passes the checks
    writes the count and succeeds; `config_oberflaechen` applies it to a created config. -/
theorem nvQuerySurfaceAttributes_gueltig (B : Bau) {w : Welt} {config a : Nat} {cfg : NVConfig}
    (hp : getObjectPtr w.drv config = some a) (hm : w.drv.mem a = some (.config cfg))
    (hg : Gueltig w.drv cfg) :
    nvQuerySurfaceAttributes B config true false w =
      .fertig .success { w with aus := w.aus ++ [attributAnzahl w.drv cfg B.va120] } := by
  have h₁ : ¬ (cfg.chromaFormat ≠ .«420» ∧ cfg.chromaFormat ≠ .«444») := fun h =>
    hg.chroma.elim h.1 h.2
  have h₂ : ¬ ((cfg.chromaFormat = .«444» ∨ cfg.surfaceFormat = .YUV444_16Bit) ∧
      ¬ w.drv.supports444Surface) := fun h => h.2 (hg.vier h.1)
  have h₃ : ¬ (cfg.surfaceFormat = .P016 ∧ ¬ w.drv.supports16BitSurface) := fun h => h.2 (hg.tief h.1)
  simp only [nvQuerySurfaceAttributes, Prog.bind_apply, holeDrv_apply, Prog.bind_fertig', hp,
    liesConfig, lies, hm, Payload.alsConfig, if_neg h₁, if_neg h₂, if_neg h₃, Bool.false_eq_true,
    ↓reduceIte]
  rfl

/-! ## 5. Created configs, as the other entry points see them -/

/-- A build whose one codec decodes `VAProfileAV1Profile0`. -/
def av1Bau : Bau := ⟨[⟨[.AV1Profile0], fun p => if p = .AV1Profile0 then .AV1 else .NONE, []⟩], 4, false⟩

/-- An empty driver on a GPU that holds 16-bit surfaces but no 4:4:4 ones. -/
def tiefeWelt : Welt := { leereWelt with drv := { NVDriver.leer with supports16BitSurface := true } }

/-- An attribute list whose first attribute asks for 4:2:0 of 12 bits. -/
def zwoelfBit : List VAConfigAttrib := [⟨.RTFormat, VA_RT_FORMAT_YUV420_12⟩]

/-- What a successful `nvCreateConfig` did: the entrypoint was `VLD`, a codec translates the
    profile, and one config object was appended, holding the config of the three `switch`es, its
    id written out. -/
theorem nvCreateConfig_erfolg (B : Bau) {profile : VAProfile} {entrypoint : VAEntrypoint}
    {attrib_list : List VAConfigAttrib} {w w₁ : Welt} (hr : RegInv w.drv)
    (hn : w.drv.nextObjId + 1 < VA_INVALID_ID)
    (h : nvCreateConfig B profile entrypoint attrib_list w = .fertig .success w₁) :
    entrypoint = .VLD ∧ vaToCuCodec B.codecs profile ≠ .NONE ∧ ∃ id a, w₁.aus = w.aus ++ [id] ∧
      getObjectPtr w₁.drv id = some a ∧
      w₁.drv.mem a = some (.config (konfiguriere w.drv
        { profile := profile, entrypoint := entrypoint, cudaCodec := vaToCuCodec B.codecs profile,
          chromaFormat := .«420», surfaceFormat := .NV12, bitDepth := 8 } attrib_list)) ∧
      w₁.drv.supports16BitSurface = w.drv.supports16BitSurface ∧
      w₁.drv.supports444Surface = w.drv.supports444Surface := by
  unfold nvCreateConfig at h
  split at h
  · cases h
  split at h
  · cases h
  rename_i hc he
  rw [holeDrv_bind] at h
  obtain ⟨o, w₃, h₃, h⟩ := Prog.bind_eq_fertig h
  obtain ⟨-, hz, haus, hnx, -⟩ :=
    neuesObjekt_zuwachs (.anfang w.drv) (hn.trans VA_INVALID_ID_lt) h₃ rfl
  have hv : o.id ≠ VA_INVALID_ID := by
    have := (hz.frisch o (.head _)).2
    omega
  obtain ⟨-, ho, rfl⟩ := neuesObjekt_fertig h₃
  obtain ⟨_, w₄, h₄, h⟩ := Prog.bind_eq_fertig h
  cases h₄
  cases h
  refine ⟨not_not.mp he, hc, o.id, o.obj, by simp [haus], hz.getObjectPtr_neu hr (.head _) hv,
    ?_, hz.flags⟩
  rw [ho]
  simp [allocateObject]

/-- **`nvQueryConfigAttributes` answers what `nvCreateConfig` was given**: on the id a successful
    create wrote, it succeeds with the profile, the entrypoint `VLD` and one RT-format attribute,
    whose value is the one `nvGetConfigAttributes` writes for the profile on the same driver. -/
theorem config_abfrage (B : Bau) {profile : VAProfile} {entrypoint : VAEntrypoint}
    {attrib_list : List VAConfigAttrib} {w w₁ : Welt} (hr : RegInv w.drv)
    (hn : w.drv.nextObjId + 1 < VA_INVALID_ID)
    (h : nvCreateConfig B profile entrypoint attrib_list w = .fertig .success w₁) :
    ∃ id, w₁.aus = w.aus ++ [id] ∧
      nvQueryConfigAttributes id w₁ =
        .fertig (.success, some (profile, .VLD, ⟨.RTFormat, rtFormate w₁.drv profile⟩)) w₁ ∧
      ∀ v, nvGetConfigAttributes B profile [⟨.RTFormat, v⟩] w₁ =
        .fertig (.success, [⟨.RTFormat, rtFormate w₁.drv profile⟩]) w₁ := by
  obtain ⟨rfl, hc, id, a, haus, hp, hm, -⟩ := nvCreateConfig_erfolg B hr hn h
  have hk := konfiguriere_nurArt w.drv
    { profile := profile, entrypoint := .VLD, cudaCodec := vaToCuCodec B.codecs profile,
      chromaFormat := .«420», surfaceFormat := .NV12, bitDepth := 8 } attrib_list
  refine ⟨id, haus, ?_, fun v => ?_⟩
  · simp only [nvQueryConfigAttributes, Prog.bind_apply, holeDrv_apply, Prog.bind_fertig', hp,
      liesConfig, lies, hm, Payload.alsConfig, hk.profile, hk.entrypoint]
    rfl
  · simp [nvGetConfigAttributes, hc, Prog.bind_apply, fuelleAttribute]

theorem config_abfrage_hevc :
    ∃ w₁, nvCreateConfig beispielBau .HEVCMain .VLD [] leereWelt = .fertig .success w₁ ∧
      ∃ id, w₁.aus = leereWelt.aus ++ [id] ∧
        nvQueryConfigAttributes id w₁ =
          .fertig (.success, some (.HEVCMain, .VLD, ⟨.RTFormat, rtFormate w₁.drv .HEVCMain⟩)) w₁ ∧
        ∀ v, nvGetConfigAttributes beispielBau .HEVCMain [⟨.RTFormat, v⟩] w₁ =
          .fertig (.success, [⟨.RTFormat, rtFormate w₁.drv .HEVCMain⟩]) w₁ := by
  obtain ⟨w₁, h⟩ := Ausgang.eq_fertig_of_wert
    (show (nvCreateConfig beispielBau .HEVCMain .VLD [] leereWelt).wert = some .success by decide)
  exact ⟨w₁, h, config_abfrage beispielBau regInv_leer (by decide) h⟩

/-- **A created config is one `nvQuerySurfaceAttributes` accepts**: its surface format, chroma
    format and bit depth are those `nvCreateSurfaces2` gives the surfaces of one RT format, and
    libva's first call, with `attrib_list == NULL`, succeeds on it and writes the count. -/
theorem config_oberflaechen (B : Bau) {profile : VAProfile} {entrypoint : VAEntrypoint}
    {attrib_list : List VAConfigAttrib} {w w₁ : Welt} (hr : RegInv w.drv)
    (hn : w.drv.nextObjId + 1 < VA_INVALID_ID)
    (h : nvCreateConfig B profile entrypoint attrib_list w = .fertig .success w₁) :
    ∃ id a cfg, w₁.aus = w.aus ++ [id] ∧ getObjectPtr w₁.drv id = some a ∧
      w₁.drv.mem a = some (.config cfg) ∧ (∃ v, cfg.HatArt v) ∧
      nvQuerySurfaceAttributes B id true false w₁ =
        .fertig .success { w₁ with aus := w₁.aus ++ [attributAnzahl w₁.drv cfg B.va120] } := by
  obtain ⟨-, -, id, a, haus, hp, hm, h16, h444⟩ := nvCreateConfig_erfolg B hr hn h
  have hart := (konfiguriere_art w.drv profile entrypoint (vaToCuCodec B.codecs profile) attrib_list).of_flags h16 h444
  exact ⟨id, a, _, haus, hp, hm, hart.imp fun _ h => h.1,
    nvQuerySurfaceAttributes_gueltig B hp hm hart.gueltig⟩

theorem config_oberflaechen_hevc :
    ∃ w₁, nvCreateConfig beispielBau .HEVCMain .VLD [] leereWelt = .fertig .success w₁ ∧
      ∃ id a cfg, w₁.aus = leereWelt.aus ++ [id] ∧ getObjectPtr w₁.drv id = some a ∧
        w₁.drv.mem a = some (.config cfg) ∧ (∃ v, cfg.HatArt v) ∧
        nvQuerySurfaceAttributes beispielBau id true false w₁ =
          .fertig .success { w₁ with aus := w₁.aus ++ [attributAnzahl w₁.drv cfg beispielBau.va120] } := by
  obtain ⟨w₁, h⟩ := Ausgang.eq_fertig_of_wert
    (show (nvCreateConfig beispielBau .HEVCMain .VLD [] leereWelt).wert = some .success by decide)
  exact ⟨w₁, h, config_oberflaechen beispielBau regInv_leer (by decide) h⟩

/-- **The format of a created config is advertised, with one exception**: the RT format whose
    surfaces have the config's format is among those `nvGetConfigAttributes` writes for the
    profile, unless the first attribute asked AV1 Profile 0 for 4:2:0 of 12 bits or AV1 Profile 1
    for 4:4:4 of 12 bits; `nvCreateConfig` builds those 12-bit configs, though neither profile
    advertises them. -/
theorem config_beworben (B : Bau) {profile : VAProfile} {entrypoint : VAEntrypoint}
    {attrib_list : List VAConfigAttrib} {w w₁ : Welt} (hr : RegInv w.drv)
    (hn : w.drv.nextObjId + 1 < VA_INVALID_ID)
    (h : nvCreateConfig B profile entrypoint attrib_list w = .fertig .success w₁) :
    ∃ id a cfg v, w₁.aus = w.aus ++ [id] ∧ getObjectPtr w₁.drv id = some a ∧
      w₁.drv.mem a = some (.config cfg) ∧ cfg.HatArt v ∧
      (v &&& rtFormate w₁.drv profile ≠ 0 ↔ ¬ (ersteRtFormat attrib_list = some v ∧
        w₁.drv.supports16BitSurface ∧
        (profile = .AV1Profile0 ∧ v = VA_RT_FORMAT_YUV420_12 ∨
         profile = .AV1Profile1 ∧ v = VA_RT_FORMAT_YUV444_12 ∧ w₁.drv.supports444Surface))) := by
  obtain ⟨-, -, id, a, haus, hp, hm, h16, h444⟩ := nvCreateConfig_erfolg B hr hn h
  obtain ⟨v, hv, hb⟩ := (konfiguriere_art w.drv profile entrypoint (vaToCuCodec B.codecs profile) attrib_list).of_flags h16 h444
  exact ⟨id, a, _, v, haus, hp, hm, hv, by simpa [beworben, Ausnahme] using hb⟩

/-- The exception taken: AV1 Profile 0 asked for 4:2:0 of 12 bits on a GPU with 16-bit surfaces. -/
theorem config_beworben_av1 :
    ∃ w₁, nvCreateConfig av1Bau .AV1Profile0 .VLD zwoelfBit tiefeWelt = .fertig .success w₁ ∧
      Ausnahme tiefeWelt.drv .AV1Profile0 zwoelfBit VA_RT_FORMAT_YUV420_12 ∧
      ∃ id a cfg v, w₁.aus = tiefeWelt.aus ++ [id] ∧ getObjectPtr w₁.drv id = some a ∧
        w₁.drv.mem a = some (.config cfg) ∧ cfg.HatArt v ∧
        (v &&& rtFormate w₁.drv .AV1Profile0 ≠ 0 ↔ ¬ (ersteRtFormat zwoelfBit = some v ∧
          w₁.drv.supports16BitSurface ∧
          ((.AV1Profile0 : VAProfile) = .AV1Profile0 ∧ v = VA_RT_FORMAT_YUV420_12 ∨
           (.AV1Profile0 : VAProfile) = .AV1Profile1 ∧ v = VA_RT_FORMAT_YUV444_12 ∧
             w₁.drv.supports444Surface))) := by
  obtain ⟨w₁, h⟩ := Ausgang.eq_fertig_of_wert
    (show (nvCreateConfig av1Bau .AV1Profile0 .VLD zwoelfBit tiefeWelt).wert = some .success by decide)
  exact ⟨w₁, h, ⟨rfl, rfl, .inl ⟨rfl, rfl⟩⟩, config_beworben av1Bau
    ⟨regInv_leer.1, regInv_leer.2, regInv_leer.3⟩ (by decide) h⟩

end NvdecVaapi
