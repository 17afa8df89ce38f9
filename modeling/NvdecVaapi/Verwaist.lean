/-
  File:      NvdecVaapi/Verwaist.lean
  Subject:   A failed push in `nvEndPicture` leaves a surface in flight with nobody to resolve it.

  * `gedecktB`, `gedecktB_of_gedeckt`, `imFlugB`, `imFlugB_sound` -- the cover `Gedeckt` and
    `resolving`, decided on a state;
  * `verwaist_nach_stapelfehler` -- a well-behaved client whose `nvEndPicture` finds
    `cuCtxPushCurrent` failing leaves its target in flight, covered by nothing.
-/
import NvdecVaapi.Pipeline.Weiter
import NvdecVaapi.Pipeline.Lauf

namespace NvdecVaapi

/-! ## 1. Deciding on a state -/

section Entscheiden

variable (B : Bau)

/-- Whether the surface at `a` is in flight. -/
def imFlugB (w : Welt) (a : Nat) : Bool :=
  match sicht w a with
  | .surface s => s.resolving
  | _ => false

/-- `Gedeckt`, decided. -/
def gedecktB (g : GSys) (a : Nat) : Bool :=
  let ziel := fun ca =>
    match sicht g.sys.welt ca with
    | .context k => k.renderTarget == some a
    | _ => false
  g.offen.any ziel ||
    g.sys.klienten.any (fun
      | .haelt (.mutex ca) _ => ziel ca
      | _ => false) ||
    g.sys.welt.faeden.any (fun f => f.pc == .loest (some a)) ||
    g.sys.welt.faeden.any fun f => f.pc != .beendet &&
      match sicht g.sys.welt f.ctx with
      | .context k => (k.schlange B.SURFACE_QUEUE_SIZE).contains (some a)
      | _ => false

variable {B}

theorem imFlugB_sound {w : Welt} {a : Nat} (h : imFlugB w a = true) :
    ∃ s, sicht w a = .surface s ∧ s.resolving = true := by
  unfold imFlugB at h
  split at h
  · exact ⟨_, ‹_›, h⟩
  all_goals cases h

theorem gedecktB_of_gedeckt {g : GSys} {a : Nat} (h : Gedeckt B g a) : gedecktB B g a = true := by
  simp only [gedecktB, Bool.or_eq_true, List.any_eq_true]
  rcases h with ⟨ca, hc, k, hk, ht⟩ | ⟨ca, ⟨j, r, hj⟩, k, hk, ht⟩ | ⟨i, f, hf, hp⟩ |
    ⟨i, c, k, ⟨f, hf, rfl, hp⟩, hk, hq⟩
  · exact .inl (.inl (.inl ⟨ca, hc, by simp [hk, ht]⟩))
  · exact .inl (.inl (.inr ⟨_, List.get?_mem hj, by simp [hk, ht]⟩))
  · exact .inl (.inr ⟨f, List.get?_mem hf, by simp [hp]⟩)
  · exact .inr ⟨f, List.get?_mem hf, by simp [hp, hk, hq]⟩

end Entscheiden

/-! ## 2. A stranded surface -/

/-- A client thread, the oracle failing the external call at trace position `p` only: a Config
    (id 1), one surface (id 2, at address 3), a Context (id 3, at address 7), a picture begun on it
    with the surface as its target, and `nvEndPicture`. -/
def einBild : List Wahl :=
  [.rufe 0 (.CreateConfig .HEVCMain .VLD []), .rufe 0 (.CreateSurfaces2 VA_RT_FORMAT_YUV420 16 16 1),
    .rufe 0 (.CreateContext 1 16 16 [] 0), .rufe 0 (.BeginPicture 3 2), .rufe 0 (.EndPicture 3)]

/-- One client, fresh addresses from 1 on, every external call succeeding except the one at trace
    position `p`. -/
def einBildStart (p : Nat) : GSys :=
  GSys.anfang (Sys.anfang (fun i => i != p) (fun k => k + 1) false false 1)

/-- **A failed push strands a surface**: when `cuCtxPushCurrent` (trace position 8) fails in
    `nvEndPicture`, the call returns before it enqueues its render target, and a run every step of
    which keeps the client's side of the protocol reaches a state in which that target is in
    flight with no open picture, no client in `nvEndPicture`, no resolve thread holding it and no
    ring holding it. -/
theorem verwaist_nach_stapelfehler :
    ∃ g, GErreichbar beispielBau (fun g c _ => Ordentlich beispielBau g c) g ∧
      ∃ s, sicht g.sys.welt 3 = .surface s ∧ s.resolving = true ∧ ¬ Gedeckt beispielBau g 3 := by
  have hl : ((glaufe beispielBau (fun g c _ => ordentlichB beispielBau g c) (einBildStart 8)
      einBild).map fun g => (imFlugB g.sys.welt 3, gedecktB beispielBau g 3)) =
      some (true, false) := by decide
  obtain ⟨g, hg, hf⟩ := Option.map_eq_some'.mp hl
  simp only [Prod.mk.injEq] at hf
  obtain ⟨s, hs, hres⟩ := imFlugB_sound hf.1
  exact ⟨g, gerreichbar_glaufe (fun _ _ _ => ordentlichB_sound) (.anfang _ _ _ _ _) hg, s, hs, hres,
    fun h => Bool.noConfusion (hf.2.symm.trans (gedecktB_of_gedeckt h))⟩

end NvdecVaapi
