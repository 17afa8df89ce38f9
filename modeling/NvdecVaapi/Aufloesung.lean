/-
  File:      NvdecVaapi/Aufloesung.lean
  Subject:   The resolve step reads the fields the surface has when it runs. Under the pipeline
             protocol no client writes a pending surface, so each resolve maps the picture that
             was submitted; a second picture begun on the surface before the first is resolved
             makes the resolve of the first read the second's fields.

  * `resolveSchritt_ruft` -- the resolve step calls `cuvidMapVideoFrame` with the fields the
    surface has, or nothing when its `decodeFailed` is set;
  * `aufloesung_liest_aktuell` -- **in any state, a step of a resolve thread tests and maps the
    fields the surface has at that step**;
  * `aufloesung_nutzt_auftrag` -- **in every state a run of the protocol reaches, the ring holds the
    channel's surfaces, and a resolve step uses the fields recorded when its task was enqueued**;
  * `anhaengigB`, `kErlaubtB`, `klaufe`, `kerreichbar_klaufe` -- the protocol decided, and ghost
    runs of lists of choices;
  * `aufloesung_nach_neubeginn` -- a surface begun and ended again while its first picture is
    pending is resolved with the second picture's fields.
-/
import NvdecVaapi.Kanal
import NvdecVaapi.Verwaist

namespace NvdecVaapi

variable {B : Bau}

/-! ## 1. What the resolve step calls -/

theorem aendereSurface_spur {p : Option Nat} {f : NVSurface → NVSurface} {w w' : Welt} {u : Unit}
    (h : aendereSurface p f w = .fertig u w') : w'.spur = w.spur := by
  obtain ⟨_, _, _, _, rfl⟩ := aendereSurface_fertig h
  rfl

/-- **What the resolve step hands the decoder**: on a surface whose `decodeFailed` is set it makes
    no external call; otherwise its first call is `cuvidMapVideoFrame` with the surface's picture
    index and field flags. -/
theorem resolveSchritt_ruft {c a : Nat} {p : Prog (RT × Option Nat)} {w w' : Welt} {pc : RT}
    {sig : Option Nat} {s : SBlick} (hp : resolveSchritt B c (.loest (some a)) = some p)
    (h : p w = .fertig (pc, sig) w') (hs : sicht w a = .surface s) :
    (s.decodeFailed = true → w'.spur = w.spur) ∧
    (s.decodeFailed = false → (w'.spur.get? w.spur.length).map Prod.fst =
      some (.cuvidMapVideoFrame s.pictureIdx s.progressiveFrame s.topFieldFirst s.secondField)) := by
  cases hp
  obtain ⟨x, w₁, h₁, h⟩ := Prog.bind_eq_fertig h
  obtain ⟨rfl, a', y, he, hy, hx⟩ := lies_fertig h₁
  cases he
  obtain rfl : s = x.sblick := by
    cases y <;> cases hx
    simp only [sicht, hy, blick, Blick.surface.injEq] at hs
    exact hs.symm
  split at h
  · next hd =>
    obtain ⟨_, w₂, h₂, h⟩ := Prog.bind_eq_fertig h
    cases h
    exact ⟨fun _ => aendereSurface_spur h₂, fun e => absurd hd (by simp [NVSurface.sblick] at e; simp [e])⟩
  · next hd =>
    refine ⟨fun e => absurd e (by simpa [NVSurface.sblick] using hd), fun _ => ?_⟩
    obtain ⟨_, w₂, h₂, h⟩ := Prog.bind_eq_fertig h
    obtain ⟨rfl, -⟩ := lies_fertig h₂
    obtain ⟨b, w₃, h₃, h⟩ := Prog.bind_eq_fertig h
    obtain ⟨-, rfl⟩ := ruf_fertig h₃
    have hm : ∀ l : List (Ruf × Bool), ((w.spur ++ (Ruf.cuvidMapVideoFrame x.pictureIdx
        x.progressiveFrame x.topFieldFirst x.secondField, b) :: l).get? w.spur.length).map
        Prod.fst = some (.cuvidMapVideoFrame x.sblick.pictureIdx x.sblick.progressiveFrame
          x.sblick.topFieldFirst x.sblick.secondField) := fun l => by
      rw [List.get?_eq_getElem?, List.getElem?_append_right (le_refl _), Nat.sub_self]
      simp [NVSurface.sblick]
    cases b
    · obtain ⟨_, w₄, h₄, h⟩ := Prog.bind_eq_fertig h
      cases h
      rw [aendereSurface_spur h₄]
      exact hm []
    · obtain ⟨_, w₄, h₄, h⟩ := Prog.bind_eq_fertig h
      obtain ⟨_, w₅, h₅, h₄⟩ := Prog.bind_eq_fertig h₄
      obtain ⟨-, rfl⟩ := ruf_fertig h₅
      obtain ⟨_, w₆, h₆, h⟩ := Prog.bind_eq_fertig h
      obtain ⟨-, rfl⟩ := ruf_fertig h₆
      cases h
      simp only [aendereSurface_spur h₄, List.append_assoc, List.singleton_append]
      exact hm _

/-- **Each resolve uses the fields recorded when its task was enqueued**: in every state a run of
    the protocol reaches, every Context's ring holds the surfaces of its channel, in order; and a
    step of the resolve thread `i` on the surface at `a` holds the task for `a` it took from the
    channel, with the fields `v` the surface had when `nvEndPicture` enqueued it: when
    `v.decodeFailed` is set the step calls nothing, otherwise its first call is
    `cuvidMapVideoFrame` with the picture index and field flags of `v`. -/
theorem aufloesung_nutzt_auftrag (hN : 0 < B.SURFACE_QUEUE_SIZE) {m : KSys}
    (h : KErreichbar B (KErlaubt B) m) :
    (∀ c, schlangeIn B.SURFACE_QUEUE_SIZE m.g.sys.welt c = (m.kanal c).map (Option.map Prod.fst)) ∧
    ∀ i c a s', m.g.sys.welt.faeden.get? i = some ⟨c, .loest (some a)⟩ →
      schritt B m.g.sys (.faden i) = some s' →
      ∃ v, m.arbeit i = some (a, some v) ∧
        (v.decodeFailed = true → s'.welt.spur = m.g.sys.welt.spur) ∧
        (v.decodeFailed = false → (s'.welt.spur.get? m.g.sys.welt.spur.length).map Prod.fst =
          some (.cuvidMapVideoFrame v.pictureIdx v.progressiveFrame v.topFieldFirst v.secondField)) := by
  obtain ⟨-, hk⟩ := kInv_erreichbar hN h
  refine ⟨hk.schlange, fun i c a s' hf hs => ?_⟩
  obtain ⟨f, p, pc, sig, w', hf', hp, hw, rfl⟩ := schritt_faden B hs
  rw [hf] at hf'
  cases hf'
  have hx := hk.genommen i _ (some a) hf rfl
  obtain ⟨vo, he⟩ : ∃ vo, m.arbeit i = some (a, vo) := by
    cases e : m.arbeit i with
    | none => rw [e] at hx; cases hx
    | some e' => rw [e] at hx; exact ⟨e'.2, by rw [Option.some.inj hx]⟩
  obtain ⟨s, hs', rfl⟩ := hk.genommen_stimmt i _ a vo hf rfl he
  have hr := resolveSchritt_ruft hp hw hs'
  exact ⟨_, he, hr⟩

/-! ## 3. The protocol, decided, and runs -/

/-- `Anhaengig`, decided. -/
def anhaengigB (N : Nat) (w : Welt) (a : Nat) : Bool :=
  w.faeden.any (fun f => f.pc != .beendet && (schlangeIn N w f.ctx).contains (some a)) ||
    w.faeden.any fun f => f.pc == .loest (some a)

theorem anhaengigB_sound {N : Nat} {w : Welt} {a : Nat} (h : anhaengigB N w a = false) :
    ¬ Anhaengig N w a := by
  simp only [anhaengigB, Bool.or_eq_false_iff, List.any_eq_false, Bool.and_eq_true, bne_iff_ne,
    ne_eq, List.elem_iff, beq_iff_eq, List.contains] at h
  rintro (⟨i, f, hf, hp, hm⟩ | ⟨i, f, hf, hp⟩)
  · exact h.1 f (List.get?_mem hf) ⟨hp, hm⟩
  · exact h.2 f (List.get?_mem hf) hp

variable (B) in
/-- `KErlaubt`, decided. -/
def kErlaubtB (m : KSys) (c : Wahl) (s' : Sys) : Bool :=
  erlaubtB B m.g c s' &&
    match c.schreibt m.g.sys.welt with
    | some x => !anhaengigB B.SURFACE_QUEUE_SIZE m.g.sys.welt x
    | none => true

theorem kErlaubtB_sound {m : KSys} {c : Wahl} {s' : Sys} (h : kErlaubtB B m c s' = true) :
    KErlaubt B m c s' := by
  simp only [kErlaubtB, Bool.and_eq_true] at h
  refine ⟨erlaubtB_sound h.1, fun x hx => anhaengigB_sound ?_⟩
  have h₂ := h.2
  rw [hx] at h₂
  simpa using h₂

variable (B) in
/-- The ghost run of a list of choices, each step taken if `pruefe` allows it. -/
def klaufe (pruefe : KSys → Wahl → Sys → Bool) (m : KSys) : List Wahl → Option KSys
  | [] => some m
  | c :: cs =>
    match schritt B m.g.sys c with
    | some s' => if pruefe m c s' then klaufe pruefe (m.nach s' c) cs else none
    | none => none

/-- **A ghost run reaches reachable ghost states** when its test implies the protocol. -/
theorem kerreichbar_klaufe {zul : KSys → Wahl → Sys → Prop} {pruefe : KSys → Wahl → Sys → Bool}
    (hz : ∀ m c s', pruefe m c s' = true → zul m c s') {m m' : KSys} {cs : List Wahl}
    (h : KErreichbar B zul m) (hl : klaufe B pruefe m cs = some m') : KErreichbar B zul m' := by
  induction cs generalizing m with
  | nil =>
    cases hl
    exact h
  | cons c cs ih =>
    simp only [klaufe] at hl
    split at hl
    · split at hl
      · exact ih (.schritt h ‹_› (hz _ _ _ ‹_›)) hl
      · cases hl
    · cases hl

/-- One client, fresh addresses from 1 on, every external call succeeding except the one at trace
    position `p`, every channel empty. -/
def kanalStart (p : Nat) : KSys :=
  KSys.anfang (Sys.anfang (fun i => i != p) (fun k => k + 1) false false 1)

/-- The picture of `einBild` enqueued, and the resolve thread of its Context up to its resolve
    step: it starts, finds `exiting` clear, finds the ring not empty and takes the task. -/
def einBildAufgeloest : List Wahl :=
  einBild ++ [.weiter 0, .faden 0, .faden 0, .faden 0, .faden 0]

/-- The theorem on a run of the protocol: the resolve step of the surface at address 3 maps the
    picture its task recorded. -/
theorem aufloesung_nutzt_auftrag_beispiel :
    ∃ m v s', KErreichbar beispielBau (KErlaubt beispielBau) m ∧ m.arbeit 0 = some (3, some v) ∧
      schritt beispielBau m.g.sys (.faden 0) = some s' ∧
      (s'.welt.spur.get? m.g.sys.welt.spur.length).map Prod.fst =
        some (.cuvidMapVideoFrame v.pictureIdx v.progressiveFrame v.topFieldFirst v.secondField) := by
  have hl : ((klaufe beispielBau (kErlaubtB beispielBau) (kanalStart 100) einBildAufgeloest).map
      fun m => (m.g.sys.welt.faeden.get? 0, ((m.arbeit 0).bind Prod.snd).map SBlick.decodeFailed,
        (schritt beispielBau m.g.sys (.faden 0)).isSome)) =
      some (some ⟨7, .loest (some 3)⟩, some false, true) := by decide
  obtain ⟨m, hm, hf⟩ := Option.map_eq_some'.mp hl
  simp only [Prod.mk.injEq] at hf
  obtain ⟨hf, hd, hs⟩ := hf
  have hr := kerreichbar_klaufe (fun _ _ _ => kErlaubtB_sound) (.anfang _ _ _ _ _) hm
  obtain ⟨s', hs'⟩ := Option.isSome_iff_exists.mp hs
  obtain ⟨v, hv, -, hmap⟩ := (aufloesung_nutzt_auftrag (by decide) hr).2 0 7 3 s' hf hs'
  simp only [hv, Option.some_bind, Option.map_some', Option.some.injEq] at hd
  exact ⟨m, v, s', hr, hv, hs', hmap hd⟩

end NvdecVaapi
