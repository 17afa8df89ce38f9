/-
  File:      NvdecVaapi/Bildindex.lean
  Subject:   The decoder picture indices `nvBeginPicture` hands out.

  `nvBeginPicture` keeps a Surface's `pictureIdx` unless the Surface was last ended on another
  Context (`surface->context`, which only `nvEndPicture` sets). A Surface begun on one Context and
  then begun on another without an `nvEndPicture` in between keeps the index the first Context
  gave it.

  * `IndexBleibt` -- every surface stays a surface with its `context`, and one with no `context`
    and an index keeps the index; `IndexBleibt.trans`, and one lemma per store;
  * `nvBeginPicture_indexBleibt` -- every end of `nvBeginPicture` keeps it, whatever it returns;
    `beginne_indexBleibt` -- so does every sequence of `nvBeginPicture` calls;
  * `bildindex` -- the `pictureIdx` of the surface an id names;
  * `bildindex_doppelt` -- a run in which two live Surfaces, both last begun on the same
    Context, carry the same index.
-/
import NvdecVaapi.Schritte

namespace NvdecVaapi

/-! ## 1. What `nvBeginPicture` keeps -/

/-- Every surface of `w` is one of `w'` with the same `context`, and one that no `nvEndPicture` has
    tied to a Context and that holds an index keeps the index. -/
def IndexBleibt (w w' : Welt) : Prop :=
  ∀ b x, w.drv.mem b = some (.surface x) → ∃ y, w'.drv.mem b = some (.surface y) ∧
    y.context = x.context ∧ (x.context = none → x.pictureIdx ≠ -1 → y.pictureIdx = x.pictureIdx)

theorem IndexBleibt.refl (w : Welt) : IndexBleibt w w := fun _ x hx => ⟨x, hx, rfl, fun _ _ => rfl⟩

theorem IndexBleibt.trans {w₁ w₂ w₃ : Welt} (h₁ : IndexBleibt w₁ w₂) (h₂ : IndexBleibt w₂ w₃) :
    IndexBleibt w₁ w₃ := by
  intro b x hx
  obtain ⟨y, hy, hyc, hyi⟩ := h₁ b x hx
  obtain ⟨z, hz, hzc, hzi⟩ := h₂ b y hy
  refine ⟨z, hz, hzc.trans hyc, fun hc hi => ?_⟩
  have e := hyi hc hi
  rw [← e]
  exact hzi (hyc.trans hc) (e ▸ hi)

/-- A store over the surface `x` at `a` that keeps its `context`, and its index when it has no
    `context` and an index. -/
theorem indexBleibt_setze {w : Welt} {a : Nat} {x y : NVSurface}
    (hx : w.drv.mem a = some (.surface x)) (hc : y.context = x.context)
    (hi : x.context = none → x.pictureIdx ≠ -1 → y.pictureIdx = x.pictureIdx) :
    IndexBleibt w { w with drv := { w.drv with mem := setMem w.drv.mem a (some (.surface y)) } } := by
  intro b z hz
  by_cases hb : b = a
  · subst hb
    rw [hx] at hz
    cases hz
    exact ⟨y, setMem_same _ _ _, hc, hi⟩
  · exact ⟨z, by simp [hb, hz], rfl, fun _ _ => rfl⟩

theorem indexBleibt_aendereSurface {a : Nat} {f : NVSurface → NVSurface} {w w' : Welt} {u : Unit}
    (h : aendereSurface (some a) f w = .fertig u w') (hc : ∀ x, (f x).context = x.context)
    (hi : ∀ x, w.drv.mem a = some (.surface x) → x.context = none → x.pictureIdx ≠ -1 →
      (f x).pictureIdx = x.pictureIdx) :
    IndexBleibt w w' := by
  obtain ⟨_, x, he, hx, rfl⟩ := aendereSurface_fertig h
  cases he
  exact indexBleibt_setze hx (hc x) (hi x hx)

/-- A store to a Context touches no surface. -/
theorem indexBleibt_aendereContext {p : Option Nat} {f : NVContext → NVContext} {w w' : Welt}
    {u : Unit} (h : aendereContext p f w = .fertig u w') : IndexBleibt w w' := by
  obtain ⟨a, c, -, hc, rfl⟩ := aendereContext_fertig h
  intro b z hz
  have hb : b ≠ a := by
    rintro rfl
    rw [hc] at hz
    cases hz
  exact ⟨z, by simp [hb, hz], rfl, fun _ _ => rfl⟩

theorem liesSurface_surface {a : Nat} {w w' : Welt} {s : NVSurface}
    (h : liesSurface (some a) w = .fertig s w') : w = w' ∧ w.drv.mem a = some (.surface s) := by
  obtain ⟨rfl, _, x, he, hx, hv⟩ := lies_fertig h
  cases he
  cases x <;> cases hv
  exact ⟨rfl, hx⟩

/-- The rebind clears the index only of a Surface tied to a Context. -/
theorem loeseAltbindung_indexBleibt {p : Option Nat} {a : Nat} {w w' : Welt} {u : Unit}
    (h : loeseAltbindung p a w = .fertig u w') : IndexBleibt w w' := by
  unfold loeseAltbindung at h
  obtain ⟨s, w₁, h₁, h⟩ := Prog.bind_eq_fertig h
  obtain ⟨rfl, hs⟩ := liesSurface_surface h₁
  have hlos : ∀ w₂ : Welt, s.context.isSome →
      (∃ y, w₂.drv.mem a = some (.surface y) ∧ y.context = s.context) →
      aendereSurface (some a) (fun s => { s with pictureIdx := -1 }) w₂ = .fertig u w' →
      IndexBleibt w₂ w' := fun w₂ hc ⟨y, hy, hyc⟩ h =>
    indexBleibt_aendereSurface h (fun _ => rfl) fun x hx hxc _ => by
      rw [hy] at hx
      cases hx
      simp [← hyc, hxc] at hc
  split_ifs at h with hc hb
  · obtain ⟨_, w₂, h₂, h⟩ := Prog.bind_eq_fertig h
    obtain ⟨_, w₃, h₃, h₂⟩ := Prog.bind_eq_fertig h₂
    obtain ⟨-, rfl⟩ := ruf_fertig h₃
    have r₂ := indexBleibt_aendereSurface h₂ (fun _ => rfl) fun _ _ _ _ => rfl
    obtain ⟨y, hy, hyc, -⟩ := r₂ a s hs
    exact r₂.trans (hlos w₂ hc.1 ⟨y, hy, hyc⟩ h)
  · obtain ⟨_, w₂, h₂, h⟩ := Prog.bind_eq_fertig h
    cases h₂
    exact hlos w hc.1 ⟨s, hs, rfl⟩ h
  · cases h
    exact .refl _

/-- The assignment gives an index only to a Surface that has none. -/
theorem vergibPictureIdx_indexBleibt {p : Option Nat} {a : Nat} {w w' : Welt} {ok : Bool}
    (h : vergibPictureIdx p a w = .fertig ok w') : IndexBleibt w w' := by
  unfold vergibPictureIdx at h
  obtain ⟨s, w₁, h₁, h⟩ := Prog.bind_eq_fertig h
  obtain ⟨rfl, hs⟩ := liesSurface_surface h₁
  split_ifs at h with hi
  · obtain ⟨c, w₂, h₂, h⟩ := Prog.bind_eq_fertig h
    obtain ⟨rfl, -⟩ := lies_fertig h₂
    split_ifs at h
    · cases h
      exact .refl _
    obtain ⟨_, w₃, h₃, h⟩ := Prog.bind_eq_fertig h
    obtain ⟨_, w₄, h₄, h⟩ := Prog.bind_eq_fertig h
    cases h
    refine (indexBleibt_aendereSurface h₃ (fun _ => rfl) fun x hx _ hx' => ?_).trans
      (indexBleibt_aendereContext h₄)
    rw [hs] at hx
    cases hx
    exact absurd hi hx'
  · cases h
    exact .refl _

/-- The rest of the call sets flags of the Surface and the Context's render target. -/
theorem markiereBeginn_indexBleibt {p : Option Nat} {a : Nat} {w w' : Welt} {u : Unit}
    (h : markiereBeginn p a w = .fertig u w') : IndexBleibt w w' := by
  unfold markiereBeginn at h
  obtain ⟨_, w₁, h₁, h⟩ := Prog.bind_eq_fertig h
  obtain ⟨_, w₂, h₂, h⟩ := Prog.bind_eq_fertig h
  obtain ⟨_, w₃, h₃, h⟩ := Prog.bind_eq_fertig h
  obtain ⟨_, w₄, h₄, h⟩ := Prog.bind_eq_fertig h
  obtain ⟨rfl, -⟩ := lies_fertig h₄
  exact (indexBleibt_aendereSurface h₁ (fun _ => rfl) fun _ _ _ _ => rfl).trans
    ((indexBleibt_aendereContext h₂).trans
      ((indexBleibt_aendereSurface h₃ (fun _ => rfl) fun _ _ _ _ => rfl).trans
        (indexBleibt_aendereContext h)))

/-- **`nvBeginPicture` keeps the index of a Surface no `nvEndPicture` has tied to a Context**: for
    every end of the call, whatever it returns and whichever Context it is given, every surface
    keeps its `context`, and one with no `context` and an index keeps the index. -/
theorem nvBeginPicture_indexBleibt {cid sid : Nat} {w w' : Welt} {st : VAStatus}
    (h : nvBeginPicture cid sid w = .fertig st w') : IndexBleibt w w' := by
  unfold nvBeginPicture at h
  rw [holeDrv_bind] at h
  rcases ha : getObjectPtr w.drv sid with _ | a <;> rw [ha] at h <;> dsimp only at h
  · cases h
    exact .refl _
  obtain ⟨_, w₁, h₁, h⟩ := Prog.bind_eq_fertig h
  obtain ⟨ok, w₂, h₂, h⟩ := Prog.bind_eq_fertig h
  have r := (loeseAltbindung_indexBleibt h₁).trans (vergibPictureIdx_indexBleibt h₂)
  cases ok
  · cases h
    exact r
  obtain ⟨_, w₃, h₃, h⟩ := Prog.bind_eq_fertig h
  cases h
  exact r.trans (markiereBeginn_indexBleibt h₃)

/-- **So does every sequence of `nvBeginPicture` calls**, on any Contexts, with no `nvEndPicture`
    in between. -/
theorem beginne_indexBleibt (B : Bau) :
    ∀ (l : List (Nat × Nat)) {w w' : Welt} {sts : List VAStatus},
      fuehreAlleAus B (l.map fun (c, s) => .BeginPicture c s) w = .fertig sts w' →
      IndexBleibt w w'
  | [], w, w', sts, h => by
    cases h
    exact .refl _
  | (c, s) :: l, w, w', sts, h => by
    obtain ⟨_, w₁, h₁, h⟩ := Prog.bind_eq_fertig h
    obtain ⟨_, w₂, h₂, h⟩ := Prog.bind_eq_fertig h
    cases h
    exact (nvBeginPicture_indexBleibt h₁).trans (beginne_indexBleibt B l h₂)

/-! ## 2. Two Surfaces with one index -/

/-- The `pictureIdx` of the surface the id names. -/
def bildindex (w : Welt) (sid : Nat) : Option Int :=
  (((getObjectPtr w.drv sid).bind w.drv.mem).bind Payload.alsSurface).map NVSurface.pictureIdx

/-- A config (id 1), Surfaces `S` (id 2) and `T` (id 3), Contexts `A` (id 4) and `B` (id 5); `S` is
    begun on `A`, `T` on `B`, then `S` on `B`, with no `nvEndPicture` in between. -/
def zweiKontexte : List Aufruf :=
  [.CreateConfig .HEVCMain .VLD [], .CreateSurfaces2 VA_RT_FORMAT_YUV420 16 16 2,
    .CreateContext 1 16 16 [] 0, .CreateContext 1 16 16 [] 0,
    .BeginPicture 4 2, .BeginPicture 5 3, .BeginPicture 5 2]

/-- **`S` and `T`, both last begun on `B`, carry the same picture index 0**: every call succeeds,
    and the last `nvBeginPicture` keeps the index `A` gave `S`. -/
theorem bildindex_doppelt :
    ∃ w, fuehreAlleAus beispielBau zweiKontexte leereWelt = .fertig (List.replicate 7 .success) w ∧
      bildindex w 2 = some 0 ∧ bildindex w 3 = some 0 := by
  simp only [fuehreAlleAus, fuehreAus, nvCreateSurfaces2, legeSurfacesAn, Prog.bind_apply,
    Prog.pure_apply, Ausgang.bind, Ausgang.fertig.injEq, and_assoc, exists_eq_left', exists_and_left]
  decide

end NvdecVaapi
