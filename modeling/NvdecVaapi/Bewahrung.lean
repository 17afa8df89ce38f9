/-
  File:      NvdecVaapi/Bewahrung.lean
  Subject:   Properties of the world that every run of the whole system keeps: the framework in
             which the typing of the registry (Typtreue.lean) and the id invariant (Rueckbau.lean)
             are proved once for every entry point, every step of a resolve thread and every
             interleaving.

  The driver changes the world through few primitives: an external call extends the trace, an
  output extends `aus`, thread creation and signals change the thread list, `allocateObject` takes
  `calloc`'s free address, `deleteObject` removes an object and its payload, a store writes a payload
  of the type it read there, and some updates change only the driver's counters. A property of the
  world that all of these keep, and that holds at the start (`Weltinvariante`), holds in every
  state the system reaches (`Erreichbar.bewahrt`): runs keep it at each of their stops and at
  their end, and a stopped client resumes in whatever world the others left, as long as the
  property holds there.

  * `Payload.typ`, `Weltinvariante` -- the primitives' demands on the property;
  * `Ausgang.Bewahrt`, `Bewahrt` -- runs that keep it, closed under `bind`, one lemma per primitive
    and one per function of the driver;
  * `fuehreAus_bewahrt` -- every entry point of `vtable`; `resolveSchritt_bewahrt` -- every step of a
    resolve thread;
  * **`Erreichbar.bewahrt`** -- the property holds in every reachable state of the system.
-/
import NvdecVaapi.Pipeline.Faeden

namespace NvdecVaapi

variable (B : Bau)

/-! ## 1. Properties the primitives keep -/

/-- The `OBJECT_TYPE_*` of a payload's struct. -/
def Payload.typ : Payload → ObjectType
  | .config _ => .config
  | .context _ => .context
  | .surface _ => .surface
  | .buffer _ => .buffer
  | .image _ => .image

/-- A property of the world that holds at the start and that each primitive keeps: an external
    call, an output, a change of the thread list, an allocation at `calloc`'s free address with a
    payload of the object's type, a deletion, a store over a payload of the same type, and an update
    of the driver that leaves the registry, the heap and the id counter alone. -/
class Weltinvariante (I : Welt → Prop) : Prop where
  anfang : ∀ orakel adressen f16 f444 n, I (Sys.anfang orakel adressen f16 f444 n).welt
  spur : ∀ w e, I w → I { w with spur := w.spur ++ [e] }
  aus : ∀ w v, I w → I { w with aus := w.aus ++ [v] }
  faeden : ∀ w fs, I w → I { w with faeden := fs }
  neu : ∀ w t p a, I w → w.drv.mem a = none → p.typ = t →
    I { w with drv := (allocateObject w.drv t p a).2, spur := w.spur ++ [(.calloc, true)] }
  loesche : ∀ w id, I w → I { w with drv := deleteObject w.drv id }
  speichere : ∀ w a x y, I w → w.drv.mem a = some x → y.typ = x.typ →
    I { w with drv := { w.drv with mem := setMem w.drv.mem a (some y) } }
  zaehler : ∀ w (g : NVDriver → NVDriver), (∀ d, (g d).objects = d.objects) →
    (∀ d, (g d).mem = d.mem) → (∀ d, (g d).nextObjId = d.nextObjId) → I w →
    I { w with drv := g w.drv }

/-! ## 2. Runs that keep it -/

/-- The property holds wherever the run stops and where it ends, as long as each stop resumes in
    a world where it holds. -/
def Ausgang.Bewahrt (I : Welt → Prop) : Ausgang α → Prop
  | .abbruch _ => True
  | .fertig _ w => I w
  | .halt _ w k => I w ∧ ∀ w₀, I w₀ → (k w₀).Bewahrt I

/-- Every run of `x` from a world where the property holds keeps it. (A structure, so that
    unification never unfolds it into a symbolic run of `x`.) -/
structure Bewahrt (I : Welt → Prop) (x : Prog α) : Prop where
  treu : ∀ w, I w → (x w).Bewahrt I

variable {I : Welt → Prop}

theorem Ausgang.Bewahrt.bind {o : Ausgang α} {f : α → Prog β} (ho : o.Bewahrt I)
    (hf : ∀ a w, I w → (f a w).Bewahrt I) : (o.bind f).Bewahrt I := by
  induction o with
  | abbruch => trivial
  | fertig a w => exact hf a w ho
  | halt h w k ih => exact ⟨ho.1, fun w₀ h₀ => ih w₀ (ho.2 w₀ h₀)⟩

section Primitive

variable {x : Prog α} {f : α → Prog β}

theorem bewahrt_bind (hx : Bewahrt I x) (hf : ∀ a, Bewahrt I (f a)) : Bewahrt I (x >>= f) :=
  ⟨fun w hw => by
    rw [Prog.bind_apply]
    exact (hx.treu w hw).bind fun a => (hf a).treu⟩

theorem bewahrt_pure (a : α) : Bewahrt I (pure a : Prog α) := ⟨fun _ hw => hw⟩

theorem bewahrt_map (g : α → β) (hx : Bewahrt I x) : Bewahrt I (g <$> x) :=
  bewahrt_bind hx fun _ => bewahrt_pure _

theorem bewahrt_ite {c : Prop} [Decidable c] {y : Prog α} (hx : Bewahrt I x) (hy : Bewahrt I y) :
    Bewahrt I (if c then x else y) := by
  split
  · exact hx
  · exact hy

theorem bewahrt_abbrechen (g : Abbruch) : Bewahrt I (abbrechen g : Prog α) :=
  ⟨fun _ _ => trivial⟩

theorem bewahrt_halte (h : Halt) : Bewahrt I (halte h) :=
  ⟨fun _ hw => ⟨hw, fun _ h₀ => h₀⟩⟩

/-- A run that never stops and ends in the world it started in. -/
theorem bewahrt_of_welt (h : Bleibt Eq x) : Bewahrt I x := ⟨fun w hw => by
  rcases h w with ⟨g, hg⟩ | ⟨a, w', hx, rfl⟩
  · rw [hg]
    trivial
  · rw [hx]
    exact hw⟩

theorem bewahrt_lies (p : Option Nat) (view : Payload → Option α) : Bewahrt I (lies p view) :=
  bewahrt_of_welt (bleibt_lies (fun w => (rfl : w = w)) p view)

theorem bewahrt_holeDrv : Bewahrt I holeDrv := bewahrt_of_welt fun _ => .inr ⟨_, _, rfl, rfl⟩

theorem bewahrt_anzahlFaeden : Bewahrt I anzahlFaeden :=
  bewahrt_of_welt fun _ => .inr ⟨_, _, rfl, rfl⟩

variable [hI : Weltinvariante I]

theorem bewahrt_ruf (r : Ruf) : Bewahrt I (ruf r) := ⟨fun w hw => hI.spur w _ hw⟩

theorem bewahrt_gibAus (v : Nat) : Bewahrt I (gibAus v) := ⟨fun w hw => hI.aus w v hw⟩

theorem bewahrt_signalResolve (a : Nat) : Bewahrt I (signalResolve a) :=
  ⟨fun w hw => hI.faeden w _ hw⟩

theorem bewahrt_starteFaden (a : Nat) : Bewahrt I (starteFaden a) :=
  ⟨fun w hw => hI.faeden w _ hw⟩

theorem bewahrt_pruefeRuf {k : Prog α} (r : Ruf) (ret : α) (hk : Bewahrt I k) :
    Bewahrt I (pruefeRuf r ret k) :=
  bewahrt_bind (bewahrt_ruf r) fun _ => bewahrt_ite hk (bewahrt_pure ret)

/-- A change of the driver's counters, not of the heap, the registry or the id counter. -/
theorem bewahrt_aendereDrv {g : NVDriver → NVDriver} (ho : ∀ d, (g d).objects = d.objects)
    (hm : ∀ d, (g d).mem = d.mem) (hn : ∀ d, (g d).nextObjId = d.nextObjId) :
    Bewahrt I (aendereDrv g) := ⟨fun w hw => hI.zaehler w g ho hm hn hw⟩

/-- A read of a payload and a store, at the same address, of one of the same type. -/
theorem bewahrt_lies_speichere {p : Option Nat} {view : Payload → Option β} {g : β → Payload}
    {k : β → Prog γ} (hg : ∀ x v, view x = some v → (g v).typ = x.typ)
    (hk : ∀ v, Bewahrt I (k v)) :
    Bewahrt I (lies p view >>= fun v => speichere (p.getD 0) (g v) >>= fun _ => k v) :=
  ⟨fun w hw => by
  rw [Prog.bind_apply]
  unfold lies
  split
  · trivial
  split
  · trivial
  rename_i a x hx
  split
  · trivial
  rename_i v hv
  exact (hk v).treu _ (hI.speichere w _ x _ hw hx (hg x v hv))⟩

theorem bewahrt_aendereSurface (p : Option Nat) (f : NVSurface → NVSurface) :
    Bewahrt I (aendereSurface p f) :=
  bewahrt_lies_speichere (k := fun _ => pure ()) (fun x _ hv => by cases x <;> cases hv; rfl)
    fun _ => bewahrt_pure ()

theorem bewahrt_aendereContext (p : Option Nat) (f : NVContext → NVContext) :
    Bewahrt I (aendereContext p f) :=
  bewahrt_lies_speichere (k := fun _ => pure ()) (fun x _ hv => by cases x <;> cases hv; rfl)
    fun _ => bewahrt_pure ()

theorem bewahrt_aendereConfig (p : Option Nat) (f : NVConfig → NVConfig) :
    Bewahrt I (aendereConfig p f) :=
  bewahrt_lies_speichere (k := fun _ => pure ()) (fun x _ hv => by cases x <;> cases hv; rfl)
    fun _ => bewahrt_pure ()

theorem bewahrt_aendereBuffer (p : Option Nat) (f : NVBuffer → NVBuffer) :
    Bewahrt I (aendereBuffer p f) :=
  bewahrt_lies_speichere (k := fun _ => pure ()) (fun x _ hv => by cases x <;> cases hv; rfl)
    fun _ => bewahrt_pure ()

theorem bewahrt_aendereImage (p : Option Nat) (f : NVImage → NVImage) :
    Bewahrt I (aendereImage p f) :=
  bewahrt_lies_speichere (k := fun _ => pure ()) (fun x _ hv => by cases x <;> cases hv; rfl)
    fun _ => bewahrt_pure ()

theorem bewahrt_neuesObjekt {t : ObjectType} {p : Payload} (hp : p.typ = t) :
    Bewahrt I (neuesObjekt t p) := ⟨fun w hw => by
  unfold neuesObjekt calloc
  simp only [Prog.bind_apply]
  split
  · exact hI.neu w t p _ hw (Option.isNone_iff_eq_none.mp ‹_›) hp
  · trivial⟩

theorem bewahrt_loescheObjekt (id : Nat) : Bewahrt I (loescheObjekt id) :=
  ⟨fun w hw => hI.loesche w id hw⟩

end Primitive

/-! ## 3. The functions of the driver -/

section Funktionen

variable [Weltinvariante I]

theorem detachBackingImageFromSurface_bewahrt (p : Option Nat) :
    Bewahrt I (detachBackingImageFromSurface p) :=
  bewahrt_bind (bewahrt_ruf _) fun _ => bewahrt_aendereSurface _ _

theorem legeSurfacesAn_bewahrt (s : NVSurface) (n : Nat) : Bewahrt I (legeSurfacesAn s n) := by
  induction n with
  | zero => exact bewahrt_pure ()
  | succ n ih =>
    exact bewahrt_bind (bewahrt_neuesObjekt rfl) fun _ =>
      bewahrt_bind (bewahrt_gibAus _) fun _ => ih

theorem nvCreateSurfaces2_bewahrt (format width height n : Nat) :
    Bewahrt I (nvCreateSurfaces2 format width height n) := by
  unfold nvCreateSurfaces2
  split
  · exact bewahrt_pure _
  · exact bewahrt_pruefeRuf _ _ <| bewahrt_bind (legeSurfacesAn_bewahrt _ _) fun _ =>
      bewahrt_bind (bewahrt_aendereDrv (fun _ => rfl) (fun _ => rfl) fun _ => rfl) fun _ =>
        bewahrt_pruefeRuf _ _ (bewahrt_pure _)

theorem zerstoereSurfaces_bewahrt (l : List Nat) : Bewahrt I (zerstoereSurfaces l) := by
  induction l with
  | nil => exact bewahrt_pure ()
  | cons id ids ih =>
    exact bewahrt_bind bewahrt_holeDrv fun _ => bewahrt_bind (bewahrt_lies _ _) fun _ =>
      bewahrt_bind (detachBackingImageFromSurface_bewahrt _) fun _ =>
        bewahrt_bind (bewahrt_loescheObjekt _) fun _ => ih

theorem nvDestroySurfaces_bewahrt (l : List Nat) : Bewahrt I (nvDestroySurfaces l) :=
  bewahrt_bind (zerstoereSurfaces_bewahrt l) fun _ =>
    bewahrt_bind (bewahrt_aendereDrv (fun _ => rfl) (fun _ => rfl) fun _ => rfl) fun _ => bewahrt_pure _

theorem legeContextAn_bewahrt (cfgP : Option Nat) (codec : Nat) (pw ph n : Int) :
    Bewahrt I (legeContextAn cfgP codec pw ph n) :=
  bewahrt_bind (bewahrt_lies _ _) fun _ =>
    bewahrt_bind (bewahrt_aendereDrv (fun _ => rfl) (fun _ => rfl) fun _ => rfl) fun _ =>
      bewahrt_pruefeRuf _ _ <| bewahrt_pruefeRuf _ _ <| bewahrt_bind bewahrt_anzahlFaeden fun _ =>
        bewahrt_bind (bewahrt_neuesObjekt rfl) fun _ => bewahrt_bind (bewahrt_ruf _) fun _ =>
          bewahrt_ite (bewahrt_bind (bewahrt_starteFaden _) fun _ =>
              bewahrt_bind (bewahrt_gibAus _) fun _ => bewahrt_pure _)
            (bewahrt_bind (bewahrt_loescheObjekt _) fun _ => bewahrt_pure _)

theorem nvCreateContext_bewahrt (c : Nat) (pw ph : Int) (rts : List Nat) (n : Int) :
    Bewahrt I (nvCreateContext B c pw ph rts n) := by
  refine bewahrt_bind bewahrt_holeDrv fun drv => ?_
  split
  · exact bewahrt_pure _
  refine bewahrt_bind (bewahrt_lies _ _) fun cfg => ?_
  split
  · exact bewahrt_pure _
  split
  · split
    · exact bewahrt_abbrechen _
    split
    · exact bewahrt_pure _
    · exact bewahrt_bind (bewahrt_lies _ _) fun _ =>
        bewahrt_bind (bewahrt_aendereConfig _ _) fun _ => legeContextAn_bewahrt _ _ _ _ _
  · exact legeContextAn_bewahrt _ _ _ _ _

theorem destroyContext_bewahrt (p : Option Nat) : Bewahrt I (destroyContext p) :=
  bewahrt_pruefeRuf _ _ <| bewahrt_bind (bewahrt_aendereContext _ _) fun _ =>
    bewahrt_bind (bewahrt_halte _) fun _ => bewahrt_bind (bewahrt_signalResolve _) fun _ =>
      bewahrt_bind (bewahrt_halte _) fun _ => bewahrt_bind (bewahrt_ruf _) fun _ =>
        bewahrt_bind (bewahrt_aendereContext _ _) fun _ => bewahrt_bind (bewahrt_lies _ _) fun _ =>
          bewahrt_bind (bewahrt_ite (bewahrt_ruf _) (bewahrt_pure _)) fun _ =>
            bewahrt_bind (bewahrt_aendereContext _ _) fun _ =>
              bewahrt_pruefeRuf _ _ (bewahrt_pure _)

theorem nvDestroyContext_bewahrt (c : Nat) : Bewahrt I (nvDestroyContext c) := by
  refine bewahrt_bind bewahrt_holeDrv fun drv => ?_
  split
  · exact bewahrt_pure _
  · exact bewahrt_bind (destroyContext_bewahrt _) fun _ =>
      bewahrt_bind (bewahrt_loescheObjekt _) fun _ => bewahrt_pure _

theorem nvCreateBuffer_bewahrt (c t s n : Nat) (d : Option Nat) :
    Bewahrt I (nvCreateBuffer c t s n d) := by
  refine bewahrt_bind bewahrt_holeDrv fun drv => ?_
  split
  · exact bewahrt_pure _
  · exact bewahrt_bind (bewahrt_lies _ _) fun _ => bewahrt_bind (bewahrt_neuesObjekt rfl) fun _ =>
      bewahrt_bind (bewahrt_gibAus _) fun _ => bewahrt_bind (bewahrt_ruf _) fun _ =>
        bewahrt_ite (bewahrt_bind (bewahrt_aendereBuffer _ _) fun _ => bewahrt_pure _)
          (bewahrt_pure _)

theorem nvMapBuffer_bewahrt (b : Nat) : Bewahrt I (nvMapBuffer b) := by
  refine bewahrt_bind bewahrt_holeDrv fun drv => ?_
  split
  · exact bewahrt_pure _
  · exact bewahrt_bind (bewahrt_lies _ _) fun _ => bewahrt_bind (bewahrt_gibAus _) fun _ =>
      bewahrt_pure _

theorem nvDestroyBuffer_bewahrt (b : Nat) : Bewahrt I (nvDestroyBuffer b) := by
  refine bewahrt_bind bewahrt_holeDrv fun drv => ?_
  split
  · exact bewahrt_pure _
  · exact bewahrt_bind (bewahrt_lies _ _) fun _ => bewahrt_bind (bewahrt_loescheObjekt _) fun _ =>
      bewahrt_pure _

theorem nvBeginPicture_bewahrt (c s : Nat) : Bewahrt I (nvBeginPicture c s) := by
  refine bewahrt_bind bewahrt_holeDrv fun drv => ?_
  split
  · exact bewahrt_pure _
  have loese : ∀ p a, Bewahrt I (loeseAltbindung p a) := fun p a =>
    bewahrt_bind (bewahrt_lies _ _) fun _ => bewahrt_ite
      (bewahrt_ite (bewahrt_bind (detachBackingImageFromSurface_bewahrt _) fun _ =>
          bewahrt_aendereSurface _ _)
        (bewahrt_bind (bewahrt_pure ()) fun _ => bewahrt_aendereSurface _ _)) (bewahrt_pure ())
  have vergib : ∀ p a, Bewahrt I (vergibPictureIdx p a) := fun p a =>
    bewahrt_bind (bewahrt_lies _ _) fun _ => bewahrt_ite (bewahrt_bind (bewahrt_lies _ _) fun _ =>
      bewahrt_ite (bewahrt_pure _) (bewahrt_bind (bewahrt_aendereSurface _ _) fun _ =>
        bewahrt_bind (bewahrt_aendereContext _ _) fun _ => bewahrt_pure _)) (bewahrt_pure _)
  have markiere : ∀ p a, Bewahrt I (markiereBeginn p a) := fun p a =>
    bewahrt_bind (bewahrt_aendereSurface _ _) fun _ =>
      bewahrt_bind (bewahrt_aendereContext _ _) fun _ =>
        bewahrt_bind (bewahrt_aendereSurface _ _) fun _ => bewahrt_bind (bewahrt_lies _ _) fun _ =>
          bewahrt_aendereContext _ _
  exact bewahrt_bind (loese _ _) fun _ => bewahrt_bind (vergib _ _) fun _ =>
    bewahrt_ite (bewahrt_bind (markiere _ _) fun _ => bewahrt_pure _) (bewahrt_pure _)

theorem rendereBuffers_bewahrt (p : Option Nat) (l : List Nat) :
    Bewahrt I (rendereBuffers B p l) := by
  induction l with
  | nil => exact bewahrt_pure ()
  | cons id ids ih =>
    refine bewahrt_bind bewahrt_holeDrv fun drv => ?_
    split
    · exact bewahrt_abbrechen _
    refine bewahrt_bind (bewahrt_lies _ _) fun buf => bewahrt_ite ih ?_
    refine bewahrt_bind (bewahrt_lies _ _) fun c => ?_
    split
    · exact bewahrt_abbrechen _
    split
    · exact bewahrt_abbrechen _
    · exact ih
    · exact bewahrt_bind (bewahrt_aendereContext _ _) fun _ => ih

theorem nvRenderPicture_bewahrt (c : Nat) (l : List Nat) : Bewahrt I (nvRenderPicture B c l) := by
  refine bewahrt_bind bewahrt_holeDrv fun drv => ?_
  split
  · exact bewahrt_pure _
  · exact bewahrt_bind (rendereBuffers_bewahrt B _ _) fun _ => bewahrt_pure _

theorem reiheEin_bewahrt (p : Option Nat) (st : VAStatus) : Bewahrt I (reiheEin B p st) :=
  bewahrt_bind (bewahrt_lies _ _) fun _ => bewahrt_bind (bewahrt_aendereSurface _ _) fun _ =>
    bewahrt_bind (bewahrt_halte _) fun _ => bewahrt_bind (bewahrt_aendereContext _ _) fun _ =>
      bewahrt_bind (bewahrt_signalResolve _) fun _ => bewahrt_pure _

theorem nvEndPicture_bewahrt (c : Nat) : Bewahrt I (nvEndPicture B c) := by
  refine bewahrt_bind bewahrt_holeDrv fun drv => ?_
  split
  · exact bewahrt_abbrechen _
  · exact bewahrt_bind (bewahrt_aendereContext _ _) fun _ => bewahrt_pruefeRuf _ _ <|
      bewahrt_bind (bewahrt_ruf _) fun _ => bewahrt_pruefeRuf _ _ (reiheEin_bewahrt B _ _)

omit [Weltinvariante I] in
theorem nvSyncSurface_bewahrt (s : Nat) : Bewahrt I (nvSyncSurface s) := by
  refine bewahrt_bind bewahrt_holeDrv fun drv => ?_
  split
  · exact bewahrt_pure _
  · exact bewahrt_bind (bewahrt_lies _ _) fun _ =>
      bewahrt_ite (bewahrt_bind (bewahrt_halte _) fun _ => bewahrt_pure _)
        (bewahrt_bind (bewahrt_pure ()) fun _ => bewahrt_pure _)

theorem sammleProfile_bewahrt (l : List (List VAProfile)) : Bewahrt I (sammleProfile l) := by
  induction l with
  | nil => exact bewahrt_pure _
  | cons ps rest ih =>
    exact bewahrt_bind (bewahrt_ruf _) fun _ => bewahrt_bind ih fun _ => bewahrt_pure _

theorem nvQueryConfigProfiles_bewahrt : Bewahrt I (nvQueryConfigProfiles B) :=
  bewahrt_pruefeRuf _ _ <| bewahrt_bind bewahrt_holeDrv fun _ =>
    bewahrt_bind (sammleProfile_bewahrt _) fun _ => bewahrt_pruefeRuf _ _ (bewahrt_pure _)

theorem fuelleAttribute_bewahrt (drv : NVDriver) (p : VAProfile) (l : List VAConfigAttrib) :
    Bewahrt I (fuelleAttribute drv p l) := by
  induction l with
  | nil => exact bewahrt_pure _
  | cons a as ih =>
    have jp : ∀ a', Bewahrt I (fuelleAttribute drv p as >>= fun r => pure (a' :: r)) := fun _ =>
      bewahrt_bind ih fun _ => bewahrt_pure _
    unfold fuelleAttribute
    split
    · exact bewahrt_bind (bewahrt_pure _) jp
    · exact bewahrt_bind (bewahrt_ruf _) fun _ => bewahrt_bind (bewahrt_pure _) jp
    · exact bewahrt_bind (bewahrt_ruf _) fun _ => bewahrt_bind (bewahrt_pure _) jp
    · exact bewahrt_bind (bewahrt_pure _) jp

theorem nvGetConfigAttributes_bewahrt (p : VAProfile) (l : List VAConfigAttrib) :
    Bewahrt I (nvGetConfigAttributes B p l) :=
  bewahrt_ite (bewahrt_pure _) <| bewahrt_bind bewahrt_holeDrv fun _ =>
    bewahrt_bind (fuelleAttribute_bewahrt _ _ _) fun _ => bewahrt_pure _

theorem nvCreateConfig_bewahrt (p : VAProfile) (e : VAEntrypoint) (l : List VAConfigAttrib) :
    Bewahrt I (nvCreateConfig B p e l) :=
  bewahrt_ite (bewahrt_pure _) <| bewahrt_ite (bewahrt_pure _) <| bewahrt_bind bewahrt_holeDrv
    fun _ => bewahrt_bind (bewahrt_neuesObjekt rfl) fun _ =>
      bewahrt_bind (bewahrt_gibAus _) fun _ => bewahrt_pure _

theorem nvDestroyConfig_bewahrt (c : Nat) : Bewahrt I (nvDestroyConfig c) :=
  bewahrt_bind (bewahrt_loescheObjekt _) fun _ => bewahrt_pure _

omit [Weltinvariante I] in
theorem nvQueryConfigAttributes_bewahrt (c : Nat) : Bewahrt I (nvQueryConfigAttributes c) := by
  refine bewahrt_bind bewahrt_holeDrv fun drv => ?_
  split
  · exact bewahrt_pure _
  · exact bewahrt_bind (bewahrt_lies _ _) fun _ => bewahrt_pure _

theorem nvCreateImage_bewahrt (f : Nat) (wd ht : Int) : Bewahrt I (nvCreateImage B f wd ht) :=
  bewahrt_ite (bewahrt_pure _) <| bewahrt_bind (bewahrt_neuesObjekt rfl) fun _ =>
    bewahrt_bind (bewahrt_neuesObjekt rfl) fun _ => bewahrt_bind (bewahrt_ruf _) fun _ =>
      bewahrt_bind (bewahrt_aendereBuffer _ _) fun _ =>
        bewahrt_bind (bewahrt_aendereImage _ _) fun _ => bewahrt_pure _

theorem nvDestroyImage_bewahrt (i : Nat) : Bewahrt I (nvDestroyImage i) := by
  refine bewahrt_bind bewahrt_holeDrv fun drv => ?_
  split
  · exact bewahrt_pure _
  refine bewahrt_bind (bewahrt_lies _ _) fun img => ?_
  split
  · exact bewahrt_bind (bewahrt_lies _ _) fun _ => bewahrt_bind (bewahrt_loescheObjekt _) fun _ =>
      bewahrt_bind (bewahrt_loescheObjekt _) fun _ => bewahrt_pure _
  · exact bewahrt_bind (bewahrt_loescheObjekt _) fun _ => bewahrt_pure _

theorem kopiereEbenen_bewahrt (s : NVSurface) (img : NVImage) :
    ∀ ds : List CUDA_MEMCPY2D, Bewahrt I (kopiereEbenen s img ds)
  | [] => bewahrt_pure _
  | _ :: ds => by
    unfold kopiereEbenen
    split
    · exact bewahrt_abbrechen _
    · exact bewahrt_bind (bewahrt_lies _ _) fun _ => bewahrt_bind (bewahrt_ruf _) fun _ =>
        bewahrt_ite (kopiereEbenen_bewahrt s img ds) (bewahrt_pure _)

theorem nvGetImage_bewahrt (s : Nat) (x y : Int) (width height i : Nat) :
    Bewahrt I (nvGetImage B s x y width height i) := by
  refine bewahrt_bind bewahrt_holeDrv fun drv => ?_
  split
  · exact bewahrt_abbrechen _
  · exact bewahrt_abbrechen _
  refine bewahrt_bind (bewahrt_lies _ _) fun _ => bewahrt_bind (bewahrt_lies _ _) fun _ => ?_
  split
  · exact bewahrt_pure _
  · exact bewahrt_bind (nvSyncSurface_bewahrt _) fun _ => bewahrt_pruefeRuf _ _ <|
      bewahrt_bind (bewahrt_lies _ _) fun _ => bewahrt_bind (kopiereEbenen_bewahrt _ _ _) fun _ =>
        bewahrt_ite (bewahrt_pruefeRuf _ _ (bewahrt_pure _)) (bewahrt_pure _)

theorem nvExportSurfaceHandle_bewahrt (s m f : Nat) : Bewahrt I (nvExportSurfaceHandle s m f) := by
  refine bewahrt_ite (bewahrt_pure _) <| bewahrt_ite (bewahrt_pure _) <|
    bewahrt_bind bewahrt_holeDrv fun drv => ?_
  split
  · exact bewahrt_pure _
  · refine bewahrt_pruefeRuf _ _ <| bewahrt_bind ?_ fun _ => bewahrt_ite
      (bewahrt_bind (bewahrt_bind (bewahrt_lies _ _) fun _ => bewahrt_bind (bewahrt_ruf _) fun _ =>
        bewahrt_pure ()) fun _ => bewahrt_pruefeRuf _ _ (bewahrt_pure _)) (bewahrt_pure _)
    exact bewahrt_bind (bewahrt_lies _ _) fun _ => bewahrt_bind (bewahrt_ruf _) fun _ =>
      bewahrt_ite (bewahrt_bind (bewahrt_aendereSurface _ _) fun _ => bewahrt_pure _)
        (bewahrt_pure _)

theorem nvQuerySurfaceAttributes_bewahrt (c : Nat) (a n : Bool) :
    Bewahrt I (nvQuerySurfaceAttributes B c a n) := by
  refine bewahrt_bind bewahrt_holeDrv fun drv => ?_
  split
  · exact bewahrt_pure _
  · exact bewahrt_bind (bewahrt_lies _ _) fun _ => bewahrt_ite (bewahrt_abbrechen _) <|
      bewahrt_ite (bewahrt_pure _) <| bewahrt_ite (bewahrt_pure _) <|
        bewahrt_ite (bewahrt_pure _) <| bewahrt_bind (bewahrt_gibAus _) fun _ =>
          bewahrt_ite (bewahrt_pure _) <| bewahrt_pruefeRuf _ _ <| bewahrt_pruefeRuf _ _ <|
            bewahrt_pruefeRuf _ _ (bewahrt_pure _)

theorem loescheAlleAb_bewahrt (fuel i : Nat) : Bewahrt I (loescheAlleAb fuel i) := by
  induction fuel generalizing i with
  | zero => exact bewahrt_pure ()
  | succ fuel ih =>
    refine bewahrt_bind bewahrt_holeDrv fun drv => ?_
    split
    · exact bewahrt_pure ()
    · exact bewahrt_ite (bewahrt_bind (destroyContext_bewahrt _) fun _ =>
        bewahrt_bind (bewahrt_loescheObjekt _) fun _ => ih _) (ih _)

theorem nvTerminate_bewahrt : Bewahrt I nvTerminate :=
  bewahrt_pruefeRuf _ _ <| bewahrt_bind (bewahrt_ruf _) fun _ =>
    bewahrt_bind (bewahrt_bind bewahrt_holeDrv fun _ => loescheAlleAb_bewahrt _ _) fun _ =>
      bewahrt_bind (bewahrt_ruf _) fun _ =>
        bewahrt_pruefeRuf _ _ <| bewahrt_pruefeRuf _ _ (bewahrt_pure _)

/-- **Every entry point of `vtable` keeps the typing of the registry**, at each of its stops and at
    its end. -/
theorem fuehreAus_bewahrt : ∀ a, Bewahrt I (fuehreAus B a)
  | .Terminate => nvTerminate_bewahrt
  | .QueryConfigProfiles => bewahrt_map _ (nvQueryConfigProfiles_bewahrt B)
  | .QueryConfigAttributes _ => bewahrt_map _ (nvQueryConfigAttributes_bewahrt _)
  | .CreateConfig .. => nvCreateConfig_bewahrt B _ _ _
  | .DestroyConfig _ => nvDestroyConfig_bewahrt _
  | .GetConfigAttributes .. => bewahrt_map _ (nvGetConfigAttributes_bewahrt B _ _)
  | .CreateSurfaces .. | .CreateSurfaces2 .. => nvCreateSurfaces2_bewahrt _ _ _ _
  | .DestroySurfaces _ => nvDestroySurfaces_bewahrt _
  | .CreateContext .. => nvCreateContext_bewahrt B _ _ _ _ _
  | .DestroyContext _ => nvDestroyContext_bewahrt _
  | .CreateBuffer .. => nvCreateBuffer_bewahrt _ _ _ _ _
  | .MapBuffer _ => nvMapBuffer_bewahrt _
  | .DestroyBuffer _ => nvDestroyBuffer_bewahrt _
  | .BeginPicture .. => nvBeginPicture_bewahrt _ _
  | .RenderPicture .. => nvRenderPicture_bewahrt B _ _
  | .EndPicture _ => nvEndPicture_bewahrt B _
  | .SyncSurface _ => nvSyncSurface_bewahrt _
  | .CreateImage .. => bewahrt_map _ (nvCreateImage_bewahrt B _ _ _)
  | .DestroyImage _ => nvDestroyImage_bewahrt _
  | .GetImage s x y wd ht i => nvGetImage_bewahrt B s x y wd ht i
  | .QuerySurfaceAttributes .. => nvQuerySurfaceAttributes_bewahrt B _ _ _
  | .ExportSurfaceHandle .. => nvExportSurfaceHandle_bewahrt _ _ _
  | .QueryConfigEntrypoints | .BufferSetNumElements _ | .UnmapBuffer _ | .QuerySurfaceStatus _
  | .QuerySurfaceError _ | .PutSurface _ | .QueryImageFormats | .DeriveImage _
  | .SetImagePalette _ | .PutImage .. | .QuerySubpictureFormats | .CreateSubpicture _
  | .DestroySubpicture _ | .SetSubpictureImage .. | .SetSubpictureChromakey _
  | .SetSubpictureGlobalAlpha _ | .AssociateSubpicture .. | .DeassociateSubpicture ..
  | .QueryDisplayAttributes | .GetDisplayAttributes | .SetDisplayAttributes | .BufferInfo _
  | .AcquireBufferHandle _ | .ReleaseBufferHandle _ | .LockSurface _ | .UnlockSurface _
  | .CreateMFContext | .MFAddContext .. | .MFReleaseContext .. | .MFSubmit .. | .CreateBuffer2 ..
  | .QueryProcessingRate _ => bewahrt_pure _

/-- Every step of a resolve thread keeps the typing. -/
theorem resolveSchritt_bewahrt {c : Nat} {pc : RT} {p : Prog (RT × Option Nat)}
    (h : resolveSchritt B c pc = some p) : Bewahrt I p := by
  have gibFrei_bewahrt : ∀ a, Bewahrt I (gibFrei a) := fun a => bewahrt_aendereSurface _ _
  cases pc with
  | start =>
    cases h
    exact bewahrt_bind (bewahrt_ruf _) fun _ => bewahrt_ite (bewahrt_pure _) (bewahrt_pure _)
  | kopf | geprueft | geweckt =>
    cases h
    exact bewahrt_bind (bewahrt_lies _ _) fun _ => bewahrt_pure _
  | frei =>
    cases h
    exact bewahrt_lies_speichere (fun x _ hv => by cases x <;> cases hv; rfl) fun _ =>
      bewahrt_pure _
  | loest s =>
    cases s with
    | none =>
      cases h
      exact bewahrt_abbrechen _
    | some a =>
      cases h
      exact bewahrt_bind (bewahrt_lies _ _) fun _ => bewahrt_ite
        (bewahrt_bind (gibFrei_bewahrt a) fun _ => bewahrt_pure _)
        (bewahrt_bind (bewahrt_lies _ _) fun _ => bewahrt_bind (bewahrt_ruf _) fun _ => bewahrt_ite
          (bewahrt_bind (bewahrt_bind (bewahrt_ruf _) fun _ => bewahrt_aendereSurface _ _) fun _ =>
            bewahrt_bind (bewahrt_ruf _) fun _ => bewahrt_pure _)
          (bewahrt_bind (gibFrei_bewahrt a) fun _ => bewahrt_pure _))
  | wartet | beendet => cases h

end Funktionen

/-! ## 4. The whole system -/

/-- The property holds of the world, and every client stopped inside an entry point goes on, from
    any world where it holds, keeping it. -/
structure Sys.Bewahrt (I : Welt → Prop) (s : Sys) : Prop where
  welt : I s.welt
  klienten : ∀ k hh r, s.klienten.get? k = some (.haelt hh r) → ∀ w, I w → (r w).Bewahrt I

/-- An entry of a list after `set`: the new one, or the old one. -/
theorem get?_set_cases {l : List Klient} {k j : Nat} {x y : Klient}
    (h : (l.set k x).get? j = some y) : (j = k ∧ y = x) ∨ l.get? j = some y := by
  by_cases e : j = k
  · subst e
    simp only [List.get?_eq_getElem?, List.getElem?_set_self', Option.map_eq_map,
      Option.map_eq_some', Function.const_apply] at h
    obtain ⟨_, -, rfl⟩ := h
    exact .inl ⟨rfl, rfl⟩
  · exact .inr (by rwa [get?_set_anders _ (Ne.symm e)] at h)

/-- A client's run that keeps the property leaves a system that keeps it. -/
theorem Sys.Bewahrt.nach {s s' : Sys} {k : Nat} {o : Ausgang VAStatus} (hs : s.Bewahrt I)
    (ho : o.Bewahrt I) (h : s.nach k o = some s') : s'.Bewahrt I := by
  rcases Sys.nach_some h with ⟨st, w, rfl, rfl⟩ | ⟨hh, w, r, rfl, rfl⟩
  · refine ⟨ho, fun j hh r hj => ?_⟩
    rcases get?_set_cases hj with ⟨-, e⟩ | hj
    · cases e
    · exact hs.klienten j hh r hj
  · refine ⟨ho.1, fun j hh' r' hj => ?_⟩
    rcases get?_set_cases hj with ⟨-, e⟩ | hj
    · cases e
      exact ho.2
    · exact hs.klienten j hh' r' hj

variable [hI : Weltinvariante I]

/-- Every step the scheduler can take. -/
theorem Sys.Bewahrt.schritt {s s' : Sys} {c : Wahl} (hs : s.Bewahrt I)
    (h : schritt B s c = some s') : s'.Bewahrt I := by
  cases c with
  | rufe k a =>
    obtain ⟨-, hn⟩ := schritt_rufe B h
    exact hs.nach ((fuehreAus_bewahrt B a).treu _ hs.welt) hn
  | weiter k =>
    obtain ⟨hh, r, hk, hn, -⟩ := schritt_weiter B h
    exact hs.nach (hs.klienten k hh r hk _ hs.welt) hn
  | faden i =>
    obtain ⟨f, p, pc, sig, w, -, hp, hw, rfl⟩ := schritt_faden B h
    have hw' := (resolveSchritt_bewahrt B hp).treu _ hs.welt
    rw [hw] at hw'
    refine ⟨hI.faeden w _ hw', fun k hh r hk => ?_⟩
    cases sig with
    | none => exact hs.klienten k hh r hk
    | some a =>
      obtain ⟨kl, hkl, rfl | ⟨r', rfl, e⟩⟩ := weckeKlient_get?_rueck a hk
      · exact hs.klienten k hh r hkl
      · cases e
        exact hs.klienten k _ _ hkl
  | spuriosKlient k =>
    obtain ⟨a, r, hk, rfl⟩ := schritt_spuriosKlient B h
    refine ⟨hs.welt, fun j hh r' hj => ?_⟩
    rcases get?_set_cases hj with ⟨-, e⟩ | hj
    · cases e
      exact hs.klienten _ _ _ hk
    · exact hs.klienten j hh r' hj
  | spuriosFaden i =>
    obtain ⟨c, -, rfl⟩ := schritt_spuriosFaden B h
    exact ⟨hI.faeden _ _ hs.welt, hs.klienten⟩

theorem Sys.bewahrt_anfang (orakel : Nat → Bool) (adressen : Nat → Nat) (f16 f444 : Bool)
    (n : Nat) : (Sys.anfang orakel adressen f16 f444 n).Bewahrt I := by
  refine ⟨hI.anfang orakel adressen f16 f444 n, fun k hh r hk => ?_⟩
  simp [Sys.anfang, List.getElem?_replicate] at hk

/-- The system invariant on every reachable state, by induction over the run. -/
theorem Erreichbar.sys_bewahrt {zul : Sys → Wahl → Sys → Prop} {s : Sys}
    (h : Erreichbar B zul s) : s.Bewahrt I := by
  induction h with
  | anfang => exact Sys.bewahrt_anfang _ _ _ _ _
  | schritt _ hs _ ih => exact ih.schritt B hs

/-- **A property every primitive keeps holds in every reachable state**: whatever the clients
    call, in whatever interleaving with each other and with the resolve threads. -/
theorem Erreichbar.bewahrt {zul : Sys → Wahl → Sys → Prop} {s : Sys} (h : Erreichbar B zul s) :
    I s.welt :=
  (h.sys_bewahrt B).welt

end NvdecVaapi
