/-
  File:      NvdecVaapi/Pipeline/Lauf.lean
  Subject:   Runs of the ghost system that can be computed: the protocol as a Boolean test, and the
             ghost run of a list of choices.

  * `ordentlichB`, `ordentlichB_sound` -- the client's side of the protocol, decided on a state;
  * `stapelFehlerB`, `erlaubtB`, `erlaubtB_sound` -- the vendor's side, and both;
  * `glaufe`, `gerreichbar_glaufe` -- a list of choices run from a reachable ghost state, each
    step tested, reaches a reachable ghost state.
-/
import NvdecVaapi.Pipeline

namespace NvdecVaapi

variable (B : Bau)

/-! ## 1. The protocol, decided -/

/-- Whether a client thread waits for `resolveMutex` of the Context at `ca`. -/
def Klient.wartetAufMutex (ca : Nat) : Klient → Bool
  | .haelt (.mutex c) _ => c == ca
  | _ => false

/-- `Lebt`, decided. -/
def lebtB (w : Welt) (ca : Nat) : Bool :=
  match sicht w ca with
  | .context k => !k.exiting
  | _ => false

/-- `AufrufOrdentlich`, decided. -/
def aufrufOrdentlichB (g : GSys) : Aufruf → Bool
  | .CreateContext .. =>
    (g.sys.welt.drv.nextObjId + 1) % idRaum != VA_INVALID_ID &&
      (getObject g.sys.welt.drv ((g.sys.welt.drv.nextObjId + 1) % idRaum)).isNone
  | .BeginPicture cid _ =>
    match getObjectPtr g.sys.welt.drv cid with
    | some ca => lebtB g.sys.welt ca && !g.offen.contains ca &&
        !g.sys.klienten.any (Klient.wartetAufMutex ca)
    | none => false
  | .EndPicture cid =>
    match getObject g.sys.welt.drv cid with
    | some o => g.offen.contains o.obj
    | none => false
  | .DestroyContext cid =>
    match getObjectPtr g.sys.welt.drv cid with
    | some ca =>
      match sicht g.sys.welt ca with
      | .context k => !k.exiting && k.anzahl B.SURFACE_QUEUE_SIZE == 0 && !g.offen.contains ca &&
          !g.sys.klienten.any (Klient.wartetAufMutex ca)
      | _ => true
    | none => true
  | a => a.imPipeline

/-- `Ordentlich`, decided. -/
def ordentlichB (g : GSys) : Wahl → Bool
  | .rufe _ a => aufrufOrdentlichB B g a
  | .weiter k =>
    match g.sys.klienten.get? k with
    | some (.haelt (.mutex ca) _) =>
      match sicht g.sys.welt ca with
      | .context kc => decide (kc.anzahl B.SURFACE_QUEUE_SIZE + 1 < B.SURFACE_QUEUE_SIZE)
      | _ => false
    | some (.haelt (.join ca) _) => g.sys.welt.faeden.all fun f => f.ctx != ca || f.pc == .beendet
    | _ => true
  | _ => true

/-- `StapelFehler`, decided. -/
def stapelFehlerB (w w' : Welt) : Bool :=
  (w'.spur.drop w.spur.length).any fun e =>
    (e.1 == .cuCtxPushCurrent || e.1 == .cuCtxPopCurrent) && !e.2

/-- `Erlaubt`, decided. -/
def erlaubtB (g : GSys) (c : Wahl) (s' : Sys) : Bool :=
  ordentlichB B g c && !stapelFehlerB g.sys.welt s'.welt

variable {B}

theorem lebtB_sound {w : Welt} {ca : Nat} (h : lebtB w ca = true) : Lebt w ca := by
  unfold lebtB at h
  split at h
  · exact ⟨_, ‹_›, by simpa using h⟩
  all_goals cases h

theorem endeWartet_of_any {s : Sys} {ca : Nat}
    (h : ∀ kl ∈ s.klienten, ¬ Klient.wartetAufMutex ca kl = true) : ¬ EndeWartet s ca := by
  rintro ⟨k, r, hk⟩
  have := h _ (List.get?_mem hk)
  simp [Klient.wartetAufMutex] at this

theorem aufrufOrdentlichB_sound {g : GSys} {a : Aufruf} (h : aufrufOrdentlichB B g a = true) :
    AufrufOrdentlich B g a := by
  cases a
  case CreateContext =>
    simp only [aufrufOrdentlichB, Bool.and_eq_true, bne_iff_ne, Option.isNone_iff_eq_none] at h
    exact h
  case BeginPicture cid sid =>
    simp only [aufrufOrdentlichB] at h
    split at h
    · simp only [Bool.and_eq_true, Bool.not_eq_true', List.contains_eq_any_beq, List.any_eq_false,
        beq_iff_eq] at h
      exact ⟨_, ‹_›, lebtB_sound h.1.1, fun hc => h.1.2 _ hc rfl, endeWartet_of_any h.2⟩
    · cases h
  case EndPicture cid =>
    simp only [aufrufOrdentlichB] at h
    split at h
    · exact ⟨_, ‹_›, by simpa using h⟩
    · cases h
  case DestroyContext cid =>
    intro ca k hp hk
    simp only [aufrufOrdentlichB, hp, hk, Bool.and_eq_true, Bool.not_eq_true', beq_iff_eq,
      List.contains_eq_any_beq, List.any_eq_false] at h
    exact ⟨h.1.1.1, h.1.1.2, fun hc => h.1.2 _ hc rfl, endeWartet_of_any h.2⟩
  all_goals exact h

theorem ordentlichB_sound {g : GSys} {c : Wahl} (h : ordentlichB B g c = true) : Ordentlich B g c := by
  cases c
  case rufe k a => exact aufrufOrdentlichB_sound h
  case weiter k =>
    simp only [ordentlichB] at h
    simp only [Ordentlich]
    rcases hk : g.sys.klienten.get? k with _ | _ | ⟨_ | ca | ca | _, r⟩ <;> simp only [hk] at h ⊢
    · split at h
      · exact ⟨_, ‹_›, of_decide_eq_true h⟩
      all_goals cases h
    · intro i f hf he
      have := List.all_eq_true.mp h f (List.get?_mem hf)
      simpa [he] using this
  all_goals trivial

theorem stapelFehlerB_sound {w w' : Welt} (h : stapelFehlerB w w' = false) : ¬ StapelFehler w w' := by
  rintro ⟨r, hr, hm⟩
  have := List.any_eq_false.mp h _ hm
  rcases hr with rfl | rfl <;> simp at this

theorem erlaubtB_sound {g : GSys} {c : Wahl} {s' : Sys} (h : erlaubtB B g c s' = true) :
    Erlaubt B g c s' := by
  simp only [erlaubtB, Bool.and_eq_true, Bool.not_eq_true'] at h
  exact ⟨ordentlichB_sound h.1, stapelFehlerB_sound h.2⟩

/-! ## 2. Ghost runs -/

variable (B) in
/-- The ghost run of a list of choices, each step taken if `pruefe` allows it. -/
def glaufe (pruefe : GSys → Wahl → Sys → Bool) (g : GSys) : List Wahl → Option GSys
  | [] => some g
  | c :: cs =>
    match schritt B g.sys c with
    | some s' => if pruefe g c s' then glaufe pruefe (g.nach s' c) cs else none
    | none => none

/-- **A ghost run reaches reachable ghost states** when its test implies the protocol. -/
theorem gerreichbar_glaufe {zul : GSys → Wahl → Sys → Prop} {pruefe : GSys → Wahl → Sys → Bool}
    (hz : ∀ g c s', pruefe g c s' = true → zul g c s') {g g' : GSys} {cs : List Wahl}
    (h : GErreichbar B zul g) (hl : glaufe B pruefe g cs = some g') : GErreichbar B zul g' := by
  induction cs generalizing g with
  | nil =>
    cases hl
    exact h
  | cons c cs ih =>
    simp only [glaufe] at hl
    split at hl
    · next s' hs =>
      split at hl
      · exact ih (.schritt h hs (hz _ _ _ ‹_›)) hl
      · cases hl
    · cases hl

end NvdecVaapi
