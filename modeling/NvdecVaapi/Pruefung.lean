/-
  File:      NvdecVaapi/Pruefung.lean
  Subject:   The entry points' checks of their arguments: what a failed check leaves behind,
             where a handle goes unchecked, and where a pushed CUDA context is not popped.

  * `*_prueftZuerst`, `*_ohnePruefung` -- one lemma per entry point: it returns a status of a
    failed check (`VAStatus.istPruefung`) only before it changed anything, or never;
  * `pruefung_laesst_treiber` -- **every call through `vtable` that fails a check of its
    arguments leaves the driver as it found it**;
  * `fehlschlag_behaelt_oberflaeche` -- a failing `nvCreateSurfaces2` keeps the surfaces it
    created (the failure comes after the work);
  * `handle_ungeprueft` -- `nvEndPicture` dereferences the failed lookup of an unknown id, and
    `nvDestroyBuffer` reads a surface's payload as a buffer;
  * `export_ohne_pop` -- after a failed `realiseSurface`, `nvExportSurfaceHandle` returns with
    the driver's CUDA context still pushed.
-/
import NvdecVaapi.Rahmen

namespace NvdecVaapi

variable (B : Bau)

/-! ## 1. Surfaces and contexts -/

theorem nvCreateSurfaces2_prueftZuerst (format width height n : Nat) :
    PrueftZuerst id (nvCreateSurfaces2 format width height n) := by
  unfold nvCreateSurfaces2
  split
  · exact prueftZuerst_pure _
  · exact prueftZuerst_of_ohne <| ohnePruefung_pruefeRuf _ rfl <| ohnePruefung_bind fun _ =>
      ohnePruefung_bind fun _ => ohnePruefung_pruefeRuf _ rfl (ohnePruefung_pure rfl)

theorem nvDestroySurfaces_ohnePruefung (l : List Nat) : OhnePruefung id (nvDestroySurfaces l) :=
  ohnePruefung_bind fun _ => ohnePruefung_bind fun _ => ohnePruefung_pure rfl

/-- Once the codec is chosen, `nvCreateContext` returns `SUCCESS` or a failure of a vendor call. -/
theorem legeContextAn_ohnePruefung (cfgP : Option Nat) (codec : Nat) (pw ph n : Int) :
    OhnePruefung id (legeContextAn cfgP codec pw ph n) :=
  ohnePruefung_bind fun _ => ohnePruefung_bind fun _ => ohnePruefung_pruefeRuf _ rfl <|
    ohnePruefung_pruefeRuf _ rfl <| ohnePruefung_bind fun _ => ohnePruefung_bind fun _ =>
      ohnePruefung_bind fun _ => ohnePruefung_ite
        (ohnePruefung_bind fun _ => ohnePruefung_bind fun _ => ohnePruefung_pure rfl)
        (ohnePruefung_bind fun _ => ohnePruefung_pure rfl)

theorem nvCreateContext_prueftZuerst (c : Nat) (pw ph : Int) (rts : List Nat) (n : Int) :
    PrueftZuerst id (nvCreateContext B c pw ph rts n) := by
  refine prueftZuerst_bind haeltDrv_holeDrv fun drv => ?_
  split
  · exact prueftZuerst_pure _
  refine prueftZuerst_bind (haeltDrv_lies _ _) fun cfg => ?_
  split
  · exact prueftZuerst_pure _
  split
  · split
    · exact prueftZuerst_of_ohne (ohnePruefung_abbrechen _)
    split
    · exact prueftZuerst_pure _
    · exact prueftZuerst_of_ohne <| ohnePruefung_bind fun _ => ohnePruefung_bind fun _ =>
        legeContextAn_ohnePruefung _ _ _ _ _
  · exact prueftZuerst_of_ohne (legeContextAn_ohnePruefung _ _ _ _ _)

theorem nvDestroyContext_prueftZuerst (c : Nat) : PrueftZuerst id (nvDestroyContext c) := by
  refine prueftZuerst_bind haeltDrv_holeDrv fun drv => ?_
  split
  · exact prueftZuerst_pure _
  · exact prueftZuerst_of_ohne <| ohnePruefung_bind fun ok => ohnePruefung_bind fun _ =>
      ohnePruefung_pure (by cases ok <;> rfl)

/-! ## 2. Buffers -/

theorem nvCreateBuffer_prueftZuerst (c t s n : Nat) (d : Option Nat) :
    PrueftZuerst id (nvCreateBuffer c t s n d) := by
  refine prueftZuerst_bind haeltDrv_holeDrv fun drv => ?_
  split
  · exact prueftZuerst_pure _
  · exact prueftZuerst_of_ohne <| ohnePruefung_bind fun _ => ohnePruefung_bind fun _ =>
      ohnePruefung_bind fun _ => ohnePruefung_bind fun _ =>
        ohnePruefung_ite (ohnePruefung_bind fun _ => ohnePruefung_pure rfl) (ohnePruefung_pure rfl)

theorem nvMapBuffer_prueftZuerst (b : Nat) : PrueftZuerst id (nvMapBuffer b) := by
  refine prueftZuerst_bind haeltDrv_holeDrv fun drv => ?_
  split
  · exact prueftZuerst_pure _
  · exact prueftZuerst_of_ohne <| ohnePruefung_bind fun _ => ohnePruefung_bind fun _ =>
      ohnePruefung_pure rfl

theorem nvDestroyBuffer_prueftZuerst (b : Nat) : PrueftZuerst id (nvDestroyBuffer b) := by
  refine prueftZuerst_bind haeltDrv_holeDrv fun drv => ?_
  split
  · exact prueftZuerst_pure _
  · exact prueftZuerst_of_ohne <| ohnePruefung_bind fun _ => ohnePruefung_bind fun _ =>
      ohnePruefung_pure rfl

/-! ## 3. Pictures -/

theorem nvBeginPicture_prueftZuerst (c s : Nat) : PrueftZuerst id (nvBeginPicture c s) := by
  refine prueftZuerst_bind haeltDrv_holeDrv fun drv => ?_
  split
  · exact prueftZuerst_pure _
  · exact prueftZuerst_of_ohne <| ohnePruefung_bind fun _ => ohnePruefung_bind fun _ =>
      ohnePruefung_ite (ohnePruefung_bind fun _ => ohnePruefung_pure rfl) (ohnePruefung_pure rfl)

theorem nvRenderPicture_prueftZuerst (c : Nat) (l : List Nat) :
    PrueftZuerst id (nvRenderPicture B c l) := by
  refine prueftZuerst_bind haeltDrv_holeDrv fun drv => ?_
  split
  · exact prueftZuerst_pure _
  · exact prueftZuerst_of_ohne <| ohnePruefung_bind fun _ => ohnePruefung_pure rfl

theorem reiheEin_ohnePruefung (p : Option Nat) {status : VAStatus}
    (h : status.istPruefung = false) : OhnePruefung id (reiheEin B p status) :=
  ohnePruefung_bind fun _ => ohnePruefung_bind fun _ => ohnePruefung_bind fun _ =>
    ohnePruefung_bind fun _ => ohnePruefung_bind fun _ => ohnePruefung_pure h

theorem nvEndPicture_ohnePruefung (c : Nat) : OhnePruefung id (nvEndPicture B c) := by
  refine ohnePruefung_bind fun drv => ?_
  split
  · exact ohnePruefung_abbrechen _
  · exact ohnePruefung_bind fun _ => ohnePruefung_pruefeRuf _ rfl <| ohnePruefung_bind fun ok =>
      ohnePruefung_pruefeRuf _ rfl (reiheEin_ohnePruefung B _ (by cases ok <;> rfl))

theorem nvSyncSurface_prueftZuerst (s : Nat) : PrueftZuerst id (nvSyncSurface s) := by
  refine prueftZuerst_bind haeltDrv_holeDrv fun drv => ?_
  split
  · exact prueftZuerst_pure _
  · refine prueftZuerst_bind (haeltDrv_lies _ _) fun _ => prueftZuerst_of_ohne ?_
    dsimp only
    exact ohnePruefung_ite (ohnePruefung_bind fun _ => ohnePruefung_pure rfl)
      (ohnePruefung_bind fun _ => ohnePruefung_pure rfl)

/-! ## 4. Configs, images, export, terminate -/

theorem nvQueryConfigProfiles_ohnePruefung : OhnePruefung Prod.fst (nvQueryConfigProfiles B) :=
  ohnePruefung_pruefeRuf _ rfl <| ohnePruefung_bind fun _ => ohnePruefung_bind fun _ =>
    ohnePruefung_pruefeRuf _ rfl (ohnePruefung_pure rfl)

theorem nvQueryConfigAttributes_prueftZuerst (c : Nat) :
    PrueftZuerst Prod.fst (nvQueryConfigAttributes c) := by
  refine prueftZuerst_bind haeltDrv_holeDrv fun drv => ?_
  split
  · exact prueftZuerst_pure _
  · exact prueftZuerst_of_ohne <| ohnePruefung_bind fun _ => ohnePruefung_pure rfl

theorem nvCreateConfig_prueftZuerst (p : VAProfile) (e : VAEntrypoint) (l : List VAConfigAttrib) :
    PrueftZuerst id (nvCreateConfig B p e l) := by
  unfold nvCreateConfig
  split
  · exact prueftZuerst_pure _
  split
  · exact prueftZuerst_pure _
  · exact prueftZuerst_of_ohne <| ohnePruefung_bind fun _ => ohnePruefung_bind fun _ =>
      ohnePruefung_bind fun _ => ohnePruefung_pure rfl

theorem nvGetConfigAttributes_prueftZuerst (p : VAProfile) (l : List VAConfigAttrib) :
    PrueftZuerst Prod.fst (nvGetConfigAttributes B p l) := by
  unfold nvGetConfigAttributes
  split
  · exact prueftZuerst_pure _
  · exact prueftZuerst_of_ohne <| ohnePruefung_bind fun _ => ohnePruefung_bind fun _ =>
      ohnePruefung_pure rfl

theorem nvCreateImage_prueftZuerst (f : Nat) (w h : Int) :
    PrueftZuerst Prod.fst (nvCreateImage B f w h) := by
  unfold nvCreateImage
  dsimp only
  split
  · exact prueftZuerst_pure _
  · exact prueftZuerst_of_ohne <| ohnePruefung_bind fun _ => ohnePruefung_bind fun _ =>
      ohnePruefung_bind fun _ => ohnePruefung_bind fun _ => ohnePruefung_bind fun _ =>
        ohnePruefung_pure rfl

theorem nvDestroyImage_prueftZuerst (i : Nat) : PrueftZuerst id (nvDestroyImage i) := by
  refine prueftZuerst_bind haeltDrv_holeDrv fun drv => ?_
  split
  · exact prueftZuerst_pure _
  refine prueftZuerst_of_ohne <| ohnePruefung_bind fun img => ?_
  split
  · exact ohnePruefung_bind fun _ => ohnePruefung_bind fun _ => ohnePruefung_bind fun _ =>
      ohnePruefung_pure rfl
  · exact ohnePruefung_bind fun _ => ohnePruefung_pure rfl

theorem nvGetImage_prueftZuerst (s : Nat) (x y : Int) (width height i : Nat) :
    PrueftZuerst id (nvGetImage B s x y width height i) := by
  refine prueftZuerst_bind haeltDrv_holeDrv fun drv => ?_
  split
  · exact prueftZuerst_of_ohne (ohnePruefung_abbrechen _)
  · exact prueftZuerst_of_ohne (ohnePruefung_abbrechen _)
  refine prueftZuerst_bind (haeltDrv_lies _ _) fun _ => prueftZuerst_bind (haeltDrv_lies _ _) fun _ => ?_
  split
  · exact prueftZuerst_pure _
  · exact prueftZuerst_of_ohne <| ohnePruefung_bind fun _ => ohnePruefung_pruefeRuf _ rfl <|
      ohnePruefung_bind fun _ => ohnePruefung_bind fun _ =>
        ohnePruefung_ite (ohnePruefung_pruefeRuf _ rfl (ohnePruefung_pure rfl)) (ohnePruefung_pure rfl)

theorem nvExportSurfaceHandle_prueftZuerst (s m f : Nat) :
    PrueftZuerst id (nvExportSurfaceHandle s m f) := by
  unfold nvExportSurfaceHandle
  split
  · exact prueftZuerst_pure _
  split
  · exact prueftZuerst_pure _
  refine prueftZuerst_bind haeltDrv_holeDrv fun drv => ?_
  split
  · exact prueftZuerst_pure _
  · exact prueftZuerst_of_ohne <| ohnePruefung_pruefeRuf _ rfl <| ohnePruefung_bind fun _ =>
      ohnePruefung_ite (ohnePruefung_bind fun _ => ohnePruefung_pruefeRuf _ rfl (ohnePruefung_pure rfl))
        (ohnePruefung_pure rfl)

/-- `nvQuerySurfaceAttributes` only reads the driver. -/
theorem nvQuerySurfaceAttributes_haeltDrv (c : Nat) (a n : Bool) :
    HaeltDrv (nvQuerySurfaceAttributes B c a n) := by
  refine haeltDrv_bind haeltDrv_holeDrv fun drv => ?_
  split
  · exact haeltDrv_pure _
  · exact haeltDrv_bind (haeltDrv_lies _ _) fun _ =>
      haeltDrv_ite (haeltDrv_abbrechen _) <| haeltDrv_ite (haeltDrv_pure _) <|
        haeltDrv_ite (haeltDrv_pure _) <| haeltDrv_ite (haeltDrv_pure _) <|
          haeltDrv_bind (haeltDrv_gibAus _) fun _ => haeltDrv_ite (haeltDrv_pure _) <|
            haeltDrv_pruefeRuf _ _ <| haeltDrv_pruefeRuf _ _ <| haeltDrv_pruefeRuf _ _ <|
              haeltDrv_pure _

theorem nvTerminate_ohnePruefung : OhnePruefung id nvTerminate :=
  ohnePruefung_pruefeRuf _ rfl <| ohnePruefung_bind fun _ => ohnePruefung_bind fun _ =>
    ohnePruefung_bind fun _ => ohnePruefung_pruefeRuf _ rfl <| ohnePruefung_pruefeRuf _ rfl <|
      ohnePruefung_pure rfl

/-! ## 5. Every entry of `vtable` -/

/-- **A call through `vtable` that ends with the status of a failed check of its arguments** (an
    `INVALID_*`, `UNSUPPORTED_*` or `UNIMPLEMENTED` status), resumed in any worlds after any stops,
    **ran without stopping and left the driver as it found it**: the registry, every payload,
    `surfaceCount`. -/
theorem pruefung_laesst_treiber (a : Aufruf) {w w' : Welt} {st : VAStatus}
    (h : (fuehreAus B a w).Ende st w') (hst : st.istPruefung = true) :
    fuehreAus B a w = .fertig st w' ∧ w'.drv = w.drv := by
  have hp : PrueftZuerst id (fuehreAus B a) := by
    cases a
    case Terminate => exact prueftZuerst_of_ohne nvTerminate_ohnePruefung
    case QueryConfigProfiles =>
      exact prueftZuerst_map (prueftZuerst_of_ohne (nvQueryConfigProfiles_ohnePruefung B))
    case QueryConfigAttributes c => exact prueftZuerst_map (nvQueryConfigAttributes_prueftZuerst c)
    case CreateConfig p e l => exact nvCreateConfig_prueftZuerst B p e l
    case DestroyConfig c =>
      exact prueftZuerst_of_ohne (ohnePruefung_bind fun _ => ohnePruefung_pure rfl)
    case GetConfigAttributes p l => exact prueftZuerst_map (nvGetConfigAttributes_prueftZuerst B p l)
    case CreateSurfaces wd ht f n => exact nvCreateSurfaces2_prueftZuerst f wd ht n
    case CreateSurfaces2 f wd ht n => exact nvCreateSurfaces2_prueftZuerst f wd ht n
    case DestroySurfaces l => exact prueftZuerst_of_ohne (nvDestroySurfaces_ohnePruefung l)
    case CreateContext c pw ph r n => exact nvCreateContext_prueftZuerst B c pw ph r n
    case DestroyContext c => exact nvDestroyContext_prueftZuerst c
    case CreateBuffer c t s n d => exact nvCreateBuffer_prueftZuerst c t s n d
    case MapBuffer b => exact nvMapBuffer_prueftZuerst b
    case DestroyBuffer b => exact nvDestroyBuffer_prueftZuerst b
    case BeginPicture c s => exact nvBeginPicture_prueftZuerst c s
    case RenderPicture c l => exact nvRenderPicture_prueftZuerst B c l
    case EndPicture c => exact prueftZuerst_of_ohne (nvEndPicture_ohnePruefung B c)
    case SyncSurface s => exact nvSyncSurface_prueftZuerst s
    case CreateImage f wd ht => exact prueftZuerst_map (nvCreateImage_prueftZuerst B f wd ht)
    case DestroyImage i => exact nvDestroyImage_prueftZuerst i
    case GetImage s x y wd ht i => exact nvGetImage_prueftZuerst B s x y wd ht i
    case QuerySurfaceAttributes c a n =>
      exact prueftZuerst_of_haeltDrv (nvQuerySurfaceAttributes_haeltDrv B c a n)
    case ExportSurfaceHandle s m f => exact nvExportSurfaceHandle_prueftZuerst s m f
    all_goals exact prueftZuerst_pure _
  exact hp h hst

theorem pruefung_laesst_treiber_beispiel :
    (fuehreAus beispielBau (.DestroyBuffer 7) leereWelt).Ende .errorInvalidBuffer leereWelt ∧
      VAStatus.errorInvalidBuffer.istPruefung = true ∧
      (fuehreAus beispielBau (.DestroyBuffer 7) leereWelt =
        .fertig .errorInvalidBuffer leereWelt ∧ leereWelt.drv = leereWelt.drv) :=
  have h : fuehreAus beispielBau (.DestroyBuffer 7) leereWelt =
      .fertig .errorInvalidBuffer leereWelt := rfl
  ⟨h ▸ .fertig _ _, rfl, pruefung_laesst_treiber beispielBau (.DestroyBuffer 7) (h ▸ .fertig _ _) rfl⟩

/-- A failed `cuCtxPopCurrent` at the end of `nvCreateSurfaces2` returns
    `VA_STATUS_ERROR_OPERATION_FAILED` with the new surface registered. -/
theorem fehlschlag_behaelt_oberflaeche :
    (fuehreAus beispielBau (.CreateSurfaces2 VA_RT_FORMAT_YUV420 16 16 1)
        { leereWelt with orakel := fun k => k ≠ 2 }).wert = some .errorOperationFailed ∧
      ((fuehreAus beispielBau (.CreateSurfaces2 VA_RT_FORMAT_YUV420 16 16 1)
        { leereWelt with orakel := fun k => k ≠ 2 }).welt.map fun w => w.drv.objects) =
        some [⟨.surface, 1, 2⟩] ∧
      leereWelt.drv.objects = [] := by
  decide

/-! ## 6. Handles that are not checked -/

/-- **A handle is not checked before it is used**: `nvEndPicture` dereferences the failed lookup of
    an id that names no object, and `nvDestroyBuffer` given the id of a surface reads the
    surface's payload as an `NVBuffer`. -/
theorem handle_ungeprueft (w : Welt) (c sid a : Nat) (s : NVSurface)
    (hc : getObject w.drv c = none) (hs : getObjectPtr w.drv sid = some a)
    (hm : w.drv.mem a = some (.surface s)) :
    nvEndPicture B c w = .abbruch .nullDeref ∧
      nvDestroyBuffer sid w = .abbruch .typVerwechslung := by
  constructor
  · simp only [nvEndPicture, holeDrv_bind, hc]
    rfl
  · simp only [nvDestroyBuffer, Prog.bind_apply, holeDrv_apply, Prog.bind_fertig', hs, liesBuffer,
      lies, hm, Payload.alsBuffer, Prog.bind_abbruch']

theorem handle_ungeprueft_beispiel :
    getObject eineOberflaeche 7 = none ∧ getObjectPtr eineOberflaeche 1 = some 1 ∧
      eineOberflaeche.mem 1 = some (.surface {}) ∧
      nvEndPicture beispielBau 7 { leereWelt with drv := eineOberflaeche } = .abbruch .nullDeref ∧
      nvDestroyBuffer 1 { leereWelt with drv := eineOberflaeche } = .abbruch .typVerwechslung :=
  ⟨rfl, rfl, rfl, handle_ungeprueft beispielBau { leereWelt with drv := eineOberflaeche } 7 1 1 {}
    rfl rfl rfl⟩

/-! ## 7. The context stack on an error path -/

/-- **After a failed `realiseSurface`, `nvExportSurfaceHandle` returns with the driver's CUDA
    context still pushed**: the calls it made leave the stack one deeper. -/
theorem export_ohne_pop (w : Welt) (sid a : Nat) (s : NVSurface)
    (hs : getObjectPtr w.drv sid = some a) (hm : w.drv.mem a = some (.surface s))
    (hpush : w.orakel w.spur.length = true) (hreal : w.orakel (w.spur.length + 1) = false) :
    ∃ w', nvExportSurfaceHandle sid VA_SURFACE_ATTRIB_MEM_TYPE_DRM_PRIME_2
        VA_EXPORT_SURFACE_SEPARATE_LAYERS w = .fertig .errorAllocationFailed w' ∧
      stapelSaldo (w'.spur.drop w.spur.length) = 1 := by
  refine ⟨{ w with spur := w.spur ++ [(.cuCtxPushCurrent, true), (.realiseSurface, false)] }, ?_, ?_⟩
  · simp [nvExportSurfaceHandle, VA_SURFACE_ATTRIB_MEM_TYPE_DRM_PRIME_2,
      VA_EXPORT_SURFACE_SEPARATE_LAYERS, pruefeRuf, realiseSurface, Prog.bind_apply, ruf_apply,
      holeDrv_apply, liesSurface, lies, hs, hm, hpush, hreal, Payload.alsSurface]
  · simp [stapelSaldo]

theorem export_ohne_pop_beispiel :
    getObjectPtr eineOberflaeche 1 = some 1 ∧ eineOberflaeche.mem 1 = some (.surface {}) ∧
      ∃ w', nvExportSurfaceHandle 1 VA_SURFACE_ATTRIB_MEM_TYPE_DRM_PRIME_2
          VA_EXPORT_SURFACE_SEPARATE_LAYERS
          { leereWelt with drv := eineOberflaeche, orakel := fun k => k = 0 } =
          .fertig .errorAllocationFailed w' ∧ stapelSaldo (w'.spur.drop 0) = 1 :=
  ⟨rfl, rfl, export_ohne_pop { leereWelt with drv := eineOberflaeche, orakel := fun k => k = 0 }
    1 1 {} rfl rfl rfl rfl⟩

end NvdecVaapi
