/-
  File:      NvdecVaapi/Einstieg/Weitere.lean
  Subject:   The remaining entry points (configs, profiles, images, export, surface attributes,
             terminate, the stubs) and the dispatch table `vtable` as one function `fuehreAus`.

  * `nvQueryConfigProfiles` -- the candidate list built from the capability probe, then the
    in-place compaction that drops every profile `vaToCuCodec` cannot translate;
  * `nvCreateConfig` with the profile/caps/RT-format `switch`, `nvGetConfigAttributes` and
    `nvQueryConfigAttributes` with the fall-through `switch` of RT-format bits (`rtFormate`);
  * `nvQueryImageFormats` with its loop `listeFormate`; `nvCreateImage` with the plane layout
    `bildAnlage`, `nvDestroyImage`, `nvGetImage`;
  * `nvExportSurfaceHandle`, `nvQuerySurfaceAttributes`, `nvTerminate` with `deleteAllObjects`;
  * `Aufruf` -- one constructor per entry of `vtable`, with the arguments the entry point reads;
    `fuehreAus` runs it and yields its status, `fuehreAlleAus` runs a client's calls in order.

  The backend's `realiseSurface` and `fillExportDescriptor`, and `ARRAY_FOR_EACH`, are not part
  of the repository and are modelled from the spec.
-/
import NvdecVaapi.Einstieg.Dekodieren

namespace NvdecVaapi

variable (B : Bau)

/-! ## 1. Profiles and configs -/

/-- `doesGPUSupportCodec`: one `cuvidGetDecoderCaps`; its answer is whether the call succeeded with
    `bIsSupported == 1`. -/
def doesGPUSupportCodec : Prog Bool := ruf .cuvidGetDecoderCaps

/-- The probes of `nvQueryConfigProfiles` in order, each with the profiles it adds. -/
def profilProben (drv : NVDriver) (va120 : Bool) : List (List VAProfile) :=
  [[.MPEG2Simple, .MPEG2Main], [.MPEG4Simple, .MPEG4AdvancedSimple, .MPEG4Main],
    [.VC1Simple, .VC1Main, .VC1Advanced], [.H264Main, .H264High, .H264ConstrainedBaseline],
    [.JPEGBaseline], [.H264StereoHigh], [.H264MultiviewHigh], [.HEVCMain], [.VP8Version0_3],
    [.VP9Profile0], [.AV1Profile0]] ++
  (if drv.supports16BitSurface then [[.HEVCMain10], [.HEVCMain12], [.VP9Profile2]] else []) ++
  (if drv.supports444Surface then
    [[.HEVCMain444], [.VP9Profile1], [.AV1Profile1]] ++
    (if va120 ∧ drv.supports16BitSurface then
      [[.HEVCMain444_10], [.HEVCMain444_12], [.VP9Profile3]] else [])
  else [])

/-- Run the probes, appending the profiles of each that answers yes. -/
def sammleProfile : List (List VAProfile) → Prog (List VAProfile)
  | [] => pure []
  | ps :: rest => do
    let ja ← doesGPUSupportCodec
    let r ← sammleProfile rest
    pure ((if ja then ps else []) ++ r)

/-- `for (x = i; x < profiles-1; x++) profile_list[x] = profile_list[x+1]`. -/
def schiebeLinks (l : List VAProfile) (i n : Nat) : List VAProfile :=
  (List.range l.length).map fun x =>
    if i ≤ x ∧ x + 1 < n then l.getD (x + 1) (.other 0) else l.getD x (.other 0)

/-- The compaction loop of `nvQueryConfigProfiles` at index `i` with `n` profiles: a profile
    `vaToCuCodec` maps to `NONE` is shifted out and the same index is looked at again. Each
    iteration lowers `n - i`, so `n` iterations suffice (`fuel`). -/
def verdichte (codecs : List NVCodec) : Nat → List VAProfile → Nat → Nat → List VAProfile × Nat
  | 0, l, _, n => (l, n)
  | fuel + 1, l, i, n =>
    if i < n then
      if vaToCuCodec codecs (l.getD i (.other 0)) = .NONE then
        verdichte codecs fuel (schiebeLinks l i n) i (n - 1)
      else verdichte codecs fuel l (i + 1) n
    else (l, n)

/-- `nvQueryConfigProfiles`: the profiles written and `*num_profiles`. -/
def nvQueryConfigProfiles : Prog (VAStatus × List VAProfile) :=
  pruefeRuf .cuCtxPushCurrent (.errorOperationFailed, []) do
    let drv ← holeDrv
    let l ← sammleProfile (profilProben drv B.va120)
    let r := verdichte B.codecs l.length l 0 l.length
    pruefeRuf .cuCtxPopCurrent (.errorOperationFailed, []) (pure (.success, r.1.take r.2))

/-- The attribute types the config entry points distinguish. -/
inductive VAConfigAttribType where
  | RTFormat | MaxPictureWidth | MaxPictureHeight | other (n : Nat)
  deriving DecidableEq, Repr

structure VAConfigAttrib where
  type : VAConfigAttribType
  value : Nat
  deriving DecidableEq, Repr

/-- `v & ~m` on 32 bits. -/
def ohneBits (v m : Nat) : Nat := v &&& (0xffffffff ^^^ m)

/-- The RT-format bits of a profile, with the `switch`'s fall-through, masked by the caps flags. -/
def rtFormate (drv : NVDriver) (p : VAProfile) : Nat :=
  let v := VA_RT_FORMAT_YUV420 |||
    match p with
    | .HEVCMain12 | .VP9Profile2 => VA_RT_FORMAT_YUV420_12 ||| VA_RT_FORMAT_YUV420_10
    | .HEVCMain10 | .AV1Profile0 => VA_RT_FORMAT_YUV420_10
    | .HEVCMain444_12 | .VP9Profile3 =>
      VA_RT_FORMAT_YUV444_12 ||| VA_RT_FORMAT_YUV420_12 ||| VA_RT_FORMAT_YUV444_10 |||
        VA_RT_FORMAT_YUV420_10 ||| VA_RT_FORMAT_YUV444
    | .HEVCMain444_10 | .AV1Profile1 =>
      VA_RT_FORMAT_YUV444_10 ||| VA_RT_FORMAT_YUV420_10 ||| VA_RT_FORMAT_YUV444
    | .HEVCMain444 | .VP9Profile1 => VA_RT_FORMAT_YUV444
    | _ => 0
  let v := if drv.supports16BitSurface then v else
    ohneBits v (VA_RT_FORMAT_YUV420_10 ||| VA_RT_FORMAT_YUV420_12 ||| VA_RT_FORMAT_YUV444_10 |||
      VA_RT_FORMAT_YUV444_12)
  if drv.supports444Surface then v else
    ohneBits v (VA_RT_FORMAT_YUV444 ||| VA_RT_FORMAT_YUV444_10 ||| VA_RT_FORMAT_YUV444_12)

/-- The attribute loop of `nvGetConfigAttributes`; the maximum sizes come from the probe. -/
def fuelleAttribute (drv : NVDriver) (p : VAProfile) : List VAConfigAttrib → Prog (List VAConfigAttrib)
  | [] => pure []
  | a :: as => do
    let a' ← match a.type with
      | .RTFormat => pure { a with value := rtFormate drv p }
      | .MaxPictureWidth | .MaxPictureHeight => do
        let _ ← doesGPUSupportCodec
        pure a
      | .other _ => pure a
    let r ← fuelleAttribute drv p as
    pure (a' :: r)

/-- `nvGetConfigAttributes`. -/
def nvGetConfigAttributes (profile : VAProfile) (attrib_list : List VAConfigAttrib) :
    Prog (VAStatus × List VAConfigAttrib) := do
  if vaToCuCodec B.codecs profile = .NONE then pure (.errorUnsupportedProfile, attrib_list)
  else do
    let drv ← holeDrv
    let r ← fuelleAttribute drv profile attrib_list
    pure (.success, r)

/-- The surface format and bit depth for an RT-format attribute value, 4:2:0 high bit depth. -/
def hochBit420 (v : Nat) : Option (cudaVideoSurfaceFormat × Nat) :=
  if v = VA_RT_FORMAT_YUV420_12 then some (.P016, 12)
  else if v = VA_RT_FORMAT_YUV420_10 then some (.P016, 10)
  else none

/-- The same for 4:4:4. -/
def hochBit444 (v : Nat) : Option (cudaVideoSurfaceFormat × Nat) :=
  if v = VA_RT_FORMAT_YUV444_12 then some (.YUV444_16Bit, 12)
  else if v = VA_RT_FORMAT_YUV444_10 then some (.YUV444_16Bit, 10)
  else if v = VA_RT_FORMAT_YUV444 then some (.YUV444, 8)
  else none

/-- The value of the first attribute when it is an RT-format attribute. -/
def ersteRtFormat (attrib_list : List VAConfigAttrib) : Option Nat :=
  match attrib_list with
  | a :: _ => if a.type = .RTFormat then some a.value else none
  | [] => none

/-- The three `switch`es of `nvCreateConfig` over the profile, the caps flags and the first
    attribute, applied to the defaults 4:2:0 / NV12 / 8 bit. -/
def konfiguriere (drv : NVDriver) (cfg : NVConfig) (attrib_list : List VAConfigAttrib) : NVConfig :=
  let cfg : NVConfig := if drv.supports16BitSurface then
    match cfg.profile with
    | .HEVCMain10 => { cfg with surfaceFormat := .P016, bitDepth := 10 }
    | .HEVCMain12 => { cfg with surfaceFormat := .P016, bitDepth := 12 }
    | .VP9Profile2 | .AV1Profile0 =>
      match ersteRtFormat attrib_list with
      | some v =>
        match hochBit420 v with
        | some (f, b) => { cfg with surfaceFormat := f, bitDepth := b }
        | none => cfg
      | none => if cfg.profile = .VP9Profile2 then { cfg with surfaceFormat := .P016, bitDepth := 10 }
                else cfg
    | _ => cfg
  else cfg
  let cfg : NVConfig := if drv.supports444Surface then
    match cfg.profile with
    | .HEVCMain444 | .VP9Profile1 | .AV1Profile1 =>
      { cfg with surfaceFormat := .YUV444, chromaFormat := .«444», bitDepth := 8 }
    | _ => cfg
  else cfg
  if drv.supports444Surface ∧ drv.supports16BitSurface then
    match cfg.profile with
    | .HEVCMain444_10 => { cfg with surfaceFormat := .YUV444_16Bit, chromaFormat := .«444», bitDepth := 10 }
    | .HEVCMain444_12 => { cfg with surfaceFormat := .YUV444_16Bit, chromaFormat := .«444», bitDepth := 12 }
    | .VP9Profile3 | .AV1Profile1 =>
      match ersteRtFormat attrib_list with
      | some v =>
        match hochBit444 v with
        | some (f, b) => { cfg with surfaceFormat := f, chromaFormat := .«444», bitDepth := b }
        | none => cfg
      | none => if cfg.profile = .VP9Profile3 then
                  { cfg with surfaceFormat := .YUV444_16Bit, chromaFormat := .«444», bitDepth := 10 }
                else cfg
    | _ => cfg
  else cfg

/-- `nvCreateConfig`. -/
def nvCreateConfig (profile : VAProfile) (entrypoint : VAEntrypoint)
    (attrib_list : List VAConfigAttrib) : Prog VAStatus := do
  if vaToCuCodec B.codecs profile = .NONE then pure .errorUnsupportedProfile
  else if entrypoint ≠ .VLD then pure .errorUnsupportedEntrypoint
  else do
    let drv ← holeDrv
    let cfg := konfiguriere drv
      { profile := profile, entrypoint := entrypoint, cudaCodec := vaToCuCodec B.codecs profile,
        chromaFormat := .«420», surfaceFormat := .NV12, bitDepth := 8 } attrib_list
    let o ← neuesObjekt .config (.config cfg)
    gibAus o.id
    pure .success

/-- `nvDestroyConfig`. -/
def nvDestroyConfig (config_id : Nat) : Prog VAStatus := do
  loescheObjekt config_id
  pure .success

/-- `nvQueryConfigAttributes`: profile, entrypoint and the one RT-format attribute. -/
def nvQueryConfigAttributes (config_id : Nat) :
    Prog (VAStatus × Option (VAProfile × VAEntrypoint × VAConfigAttrib)) := do
  let drv ← holeDrv
  match getObjectPtr drv config_id with
  | none => pure (.errorInvalidConfig, none)
  | some a => do
    let cfg ← liesConfig (some a)
    pure (.success, some (cfg.profile, cfg.entrypoint, ⟨.RTFormat, rtFormate drv cfg.profile⟩))

/-! ## 2. Images -/

/-- The bytes of plane `p` of a `w` by `h` image: `((w * h) >> (ss.x + ss.y)) * bppc * channelCount`,
    in `int` as the source computes it. -/
def ebenenGroesse (f : NVFormatInfo) (p : NVFormatPlane) (w h : Int) : Int :=
  ((w * h) >>> (p.ssx + p.ssy)) * f.bppc * p.channelCount

/-- `VAImage`, the fields `nvCreateImage` writes. -/
structure VAImage where
  image_id : Nat
  format : Nat
  buf : Nat
  width : Int
  height : Int
  data_size : Int
  num_planes : Nat
  pitches : List Int
  offsets : List Int
  deriving DecidableEq, Repr

/-- The plane `i` of a format, or the zero plane past the end. -/
def NVFormatInfo.ebene (f : NVFormatInfo) (i : Nat) : NVFormatPlane := f.plane.getD i ⟨0, 0, 0, 0⟩

/-- The planes `fmtInfo->plane[i]`, `i < numPlanes`, that the plane loops visit. -/
def NVFormatInfo.ebenen (f : NVFormatInfo) : List NVFormatPlane :=
  (List.range f.numPlanes).map f.ebene

/-- `&formatsInfo[nvFormat]`, as `nvCreateImage` and `nvGetImage` take it. -/
def fmtInfo (va120 : Bool) (nvFormat : Nat) : NVFormatInfo :=
  (formatsInfo va120).getD nvFormat ⟨0, 0, 0, false, false, [], ⟨0, 0, 0⟩⟩

/-- The buffer size `nvCreateImage` computes: the sum over the planes. -/
def bildGroesse (f : NVFormatInfo) (w h : Int) : Int :=
  ((List.range f.numPlanes).map fun i => ebenenGroesse f (f.ebene i) w h).sum

/-- The pitches and offsets `nvCreateImage` publishes. -/
def bildAnlage (f : NVFormatInfo) (w h : Int) : List Int × List Int :=
  let o1 := ebenenGroesse f (f.ebene 0) w h
  let o2 := o1 + ebenenGroesse f (f.ebene 1) w h
  ([w * f.bppc, w * f.bppc, w * f.bppc], [0, o1, o2])

/-- The image buffer of `nvCreateImage` (the header's type of `size` is not in the repository;
    the model keeps a non-negative size). -/
def bildPuffer (size : Int) : NVBuffer :=
  { bufferType := VAImageBufferType, size := size.toNat, elements := 1 }

/-- The loop of `nvQueryImageFormats` over the table from `NV_FORMAT_NONE + 1` on: an entry of
    16 bits or of 4:4:4 that the GPU cannot hold is passed over (`continue`), the others' VA
    formats are written to `format_list` in order. -/
def listeFormate (drv : NVDriver) : List NVFormatInfo → List VAImageFormat
  | [] => []
  | f :: fs =>
    if f.is16bits && !drv.supports16BitSurface then listeFormate drv fs
    else if f.isYuv444 && !drv.supports444Surface then listeFormate drv fs
    else f.vaFormat :: listeFormate drv fs

/-- `nvQueryImageFormats`: `format_list`, whose length is `*num_formats`. -/
def nvQueryImageFormats : Prog (VAStatus × List VAImageFormat) := do
  let drv ← holeDrv
  pure (.success, listeFormate drv ((formatsInfo B.va120).drop 1))

/-- `ctx->max_image_formats` as `__vaDriverInit_1_0` sets it: the room libva gives `format_list`. -/
def max_image_formats (va120 : Bool) : Nat := (formatsInfo va120).length - 1

/-- `nvCreateImage`. `memalign`'s answer is not checked. -/
def nvCreateImage (format : Nat) (width height : Int) : Prog (VAStatus × Option VAImage) := do
  let nvFormat := nvFormatFromVaFormat B.va120 format
  let fmtInfo := (formatsInfo B.va120).getD nvFormat ⟨0, 0, 0, false, false, [], ⟨0, 0, 0⟩⟩
  if nvFormat = 0 then pure (.errorInvalidImageFormat, none)
  else do
    let img : NVImage := { width := width, height := height, format := nvFormat }
    let imageObj ← neuesObjekt .image (.image img)
    let size := bildGroesse fmtInfo width height
    let bufObj ← neuesObjekt .buffer (.buffer (bildPuffer size))
    let ok ← ruf .memalign
    aendereBuffer (some bufObj.obj) fun b => { b with ptr := if ok then some bufObj.obj else none }
    aendereImage (some imageObj.obj) fun i => { i with imageBuffer := some bufObj.obj }
    pure (.success, some ⟨imageObj.id, format, bufObj.id, width, height, size, fmtInfo.numPlanes,
      (bildAnlage fmtInfo width height).1, (bildAnlage fmtInfo width height).2⟩)

/-- `nvDestroyImage`: the image's buffer object is found by its payload pointer. -/
def nvDestroyImage (image : Nat) : Prog VAStatus := do
  let drv ← holeDrv
  match getObjectPtr drv image with
  | none => pure .errorInvalidImage
  | some a => do
    let img ← liesImage (some a)
    match getObjectByPtr drv img.imageBuffer with
    | some bo => do
      let _ ← liesBuffer img.imageBuffer
      loescheObjekt bo.id
      loescheObjekt image
      pure .success
    | none => do
      loescheObjekt image
      pure .success

/-- The descriptors the plane loop of `nvGetImage` builds for a request of `width` by `height`
    (`unsigned int`), from the byte `offset` (`uint32_t`) on: one per plane, the products taken
    modulo 2^32. -/
def getImageKopien (f : NVFormatInfo) (width height : Nat) :
    Nat → List NVFormatPlane → List CUDA_MEMCPY2D
  | _, [] => []
  | offset, p :: ps =>
    { dstHost := offset, dstPitch := width * f.bppc % 2 ^ 32,
      WidthInBytes := (width >>> p.ssx) * f.bppc * p.channelCount % 2 ^ 32,
      Height := height >>> p.ssy } ::
    getImageKopien f width height
      ((offset + ((width * height % 2 ^ 32) >>> (p.ssx + p.ssy)) * f.bppc * p.channelCount) % 2 ^ 32)
      ps

/-- The plane loop of `nvGetImage` over its descriptors: `surfaceObj->backingImage->arrays[i]` is
    read without a check, and a failed `cuMemcpy2D` ends the loop. -/
def kopiereEbenen (s : NVSurface) (img : NVImage) : List CUDA_MEMCPY2D → Prog Bool
  | [] => pure true
  | d :: ds =>
    match s.backingImage with
    | none => abbrechen .nullDeref
    | some _ => do
      let _ ← liesBuffer img.imageBuffer
      if (← ruf (.cuMemcpy2D d)) then kopiereEbenen s img ds else pure false

/-- `nvGetImage` after `nvSyncSurface`: the push, the plane loop, the pop. -/
def kopiereBild (so : Object) (img : NVImage) (width height : Nat) : Prog VAStatus :=
  pruefeRuf .cuCtxPushCurrent .errorOperationFailed do
    let f := fmtInfo B.va120 img.format
    let s ← liesSurface (some so.obj)
    if (← kopiereEbenen s img (getImageKopien f width height 0 f.ebenen)) then
      pruefeRuf .cuCtxPopCurrent .errorOperationFailed (pure .success)
    else pure .errorDecodingError

/-- `nvGetImage`. Neither lookup is checked; the source's `x` and `y` are not read; a failed copy
    returns without the pop. -/
def nvGetImage (surface : Nat) (_x _y : Int) (width height image : Nat) : Prog VAStatus := do
  let drv ← holeDrv
  match getObject drv surface, getObject drv image with
  | none, _ => abbrechen .nullDeref
  | some _, none => abbrechen .nullDeref
  | some so, some io => do
    let s ← liesSurface (some so.obj)
    let img ← liesImage (some io.obj)
    match s.context with
    | none => pure .errorInvalidContext
    | some _ => do
      let _ ← nvSyncSurface surface
      kopiereBild B so img width height

/-! ## 3. Export, surface attributes, terminate -/

/-- Modelled from the spec: `realiseSurface` "ensures a backing image exists for the Surface at its
    declared format/size; idempotent"; it may fail. -/
def realiseSurface (p : Option Nat) : Prog Bool := do
  let _ ← liesSurface p
  if (← ruf .realiseSurface) then
    aendereSurface p fun s => { s with backingImage := some (s.backingImage.getD (p.getD 0)) }
    pure true
  else pure false

/-- Modelled from the spec: `fillExportDescriptor` writes the DMA-PRIME descriptor from the
    Surface; the driver state is unchanged. -/
def fillExportDescriptor (p : Option Nat) : Prog Unit := do
  let _ ← liesSurface p
  let _ ← ruf .fillExportDescriptor
  pure ()

/-- `nvExportSurfaceHandle`. A failed `realiseSurface` returns without the pop. -/
def nvExportSurfaceHandle (surface_id mem_type flags : Nat) : Prog VAStatus := do
  if mem_type &&& VA_SURFACE_ATTRIB_MEM_TYPE_DRM_PRIME_2 = 0 then pure .errorUnsupportedMemoryType
  else if flags &&& VA_EXPORT_SURFACE_SEPARATE_LAYERS = 0 then pure .errorInvalidSurface
  else do
    let drv ← holeDrv
    match getObjectPtr drv surface_id with
    | none => pure .errorInvalidSurface
    | some a =>
      pruefeRuf .cuCtxPushCurrent .errorOperationFailed do
      if (← realiseSurface (some a)) then
        fillExportDescriptor (some a)
        pruefeRuf .cuCtxPopCurrent .errorOperationFailed (pure .success)
      else pure .errorAllocationFailed

/-- The count `nvQuerySurfaceAttributes` writes to `*num_attribs`. -/
def attributAnzahl (drv : NVDriver) (cfg : NVConfig) (va120 : Bool) : Nat :=
  if cfg.chromaFormat = .«444» then 4 + 1 + (if va120 then 1 else 0)
  else 4 + 1 + (if drv.supports16BitSurface then 3 else 0)

/-- `nvQuerySurfaceAttributes`. The `LOG` dereferences `num_attribs` before its `NULL` test; a
    failed `cuvidGetDecoderCaps` returns without the pop. -/
def nvQuerySurfaceAttributes (config : Nat) (attrib_list_null num_attribs_null : Bool) :
    Prog VAStatus := do
  let drv ← holeDrv
  match getObjectPtr drv config with
  | none => pure .errorInvalidConfig
  | some a => do
    let cfg ← liesConfig (some a)
    if num_attribs_null then abbrechen .nullDeref
    else if cfg.chromaFormat ≠ .«420» ∧ cfg.chromaFormat ≠ .«444» then pure .errorInvalidConfig
    else if (cfg.chromaFormat = .«444» ∨ cfg.surfaceFormat = .YUV444_16Bit) ∧
        ¬ drv.supports444Surface then pure .errorInvalidConfig
    else if cfg.surfaceFormat = .P016 ∧ ¬ drv.supports16BitSurface then pure .errorInvalidConfig
    else do
      gibAus (attributAnzahl drv cfg B.va120)
      if attrib_list_null then pure .success
      else
        pruefeRuf .cuCtxPushCurrent .errorOperationFailed do
        pruefeRuf .cuvidGetDecoderCaps .errorOperationFailed do
        pruefeRuf .cuCtxPopCurrent .errorOperationFailed (pure .success)

/-- Modelled from the spec (`ARRAY_FOR_EACH` is defined in a header not in the repository): the
    scan of `deleteAllObjects` by index `o_idx` while `o_idx < size`; a Context is destroyed and
    deleted, `deleteObject` removing it from the array, and the index moves on. At most as many
    iterations as there were objects. -/
def loescheAlleAb : Nat → Nat → Prog Unit
  | 0, _ => pure ()
  | fuel + 1, i => do
    let drv ← holeDrv
    match drv.objects.get? i with
    | none => pure ()
    | some o =>
      if o.type = .context then do
        let _ ← destroyContext (some o.obj)
        loescheObjekt o.id
        loescheAlleAb fuel (i + 1)
      else loescheAlleAb fuel (i + 1)

/-- `deleteAllObjects`. -/
def deleteAllObjects : Prog Unit := do
  let drv ← holeDrv
  loescheAlleAb drv.objects.length 0

/-- `nvTerminate` on this driver; the process-wide `instances` counter is not part of `Welt`. -/
def nvTerminate : Prog VAStatus :=
  pruefeRuf .cuCtxPushCurrent .errorOperationFailed do
    let _ ← ruf .destroyAllBackingImage
    deleteAllObjects
    let _ ← ruf .releaseExporter
    pruefeRuf .cuCtxPopCurrent .errorOperationFailed do
    pruefeRuf .cuCtxDestroy .errorOperationFailed (pure .success)

/-! ## 4. The dispatch table -/

/-- One call through `vtable`, with the arguments the entry point reads. -/
inductive Aufruf where
  | Terminate
  | QueryConfigProfiles
  | QueryConfigEntrypoints
  | QueryConfigAttributes (config_id : Nat)
  | CreateConfig (profile : VAProfile) (entrypoint : VAEntrypoint) (attrib_list : List VAConfigAttrib)
  | DestroyConfig (config_id : Nat)
  | GetConfigAttributes (profile : VAProfile) (attrib_list : List VAConfigAttrib)
  | CreateSurfaces (width height format num_surfaces : Nat)
  | CreateSurfaces2 (format width height num_surfaces : Nat)
  | DestroySurfaces (surface_list : List Nat)
  | CreateContext (config_id : Nat) (picture_width picture_height : Int)
      (render_targets : List Nat) (num_render_targets : Int)
  | DestroyContext (context : Nat)
  | CreateBuffer (context type size num_elements : Nat) (data : Option Nat)
  | BufferSetNumElements (buf_id : Nat)
  | MapBuffer (buf_id : Nat)
  | UnmapBuffer (buf_id : Nat)
  | DestroyBuffer (buffer_id : Nat)
  | BeginPicture (context render_target : Nat)
  | RenderPicture (context : Nat) (buffers : List Nat)
  | EndPicture (context : Nat)
  | SyncSurface (render_target : Nat)
  | QuerySurfaceStatus (render_target : Nat)
  | QuerySurfaceError (render_target : Nat)
  | PutSurface (surface : Nat)
  | QueryImageFormats
  | CreateImage (format : Nat) (width height : Int)
  | DeriveImage (surface : Nat)
  | DestroyImage (image : Nat)
  | SetImagePalette (image : Nat)
  | GetImage (surface : Nat) (x y : Int) (width height image : Nat)
  | PutImage (surface image : Nat)
  | QuerySubpictureFormats
  | CreateSubpicture (image : Nat)
  | DestroySubpicture (subpicture : Nat)
  | SetSubpictureImage (subpicture image : Nat)
  | SetSubpictureChromakey (subpicture : Nat)
  | SetSubpictureGlobalAlpha (subpicture : Nat)
  | AssociateSubpicture (subpicture : Nat) (target_surfaces : List Nat)
  | DeassociateSubpicture (subpicture : Nat) (target_surfaces : List Nat)
  | QueryDisplayAttributes
  | GetDisplayAttributes
  | SetDisplayAttributes
  | QuerySurfaceAttributes (config : Nat) (attrib_list_null num_attribs_null : Bool)
  | BufferInfo (buf_id : Nat)
  | AcquireBufferHandle (buf_id : Nat)
  | ReleaseBufferHandle (buf_id : Nat)
  | LockSurface (surface : Nat)
  | UnlockSurface (surface : Nat)
  | CreateMFContext
  | MFAddContext (mf_context context : Nat)
  | MFReleaseContext (mf_context context : Nat)
  | MFSubmit (mf_context : Nat) (contexts : List Nat)
  | CreateBuffer2 (context type width height : Nat)
  | QueryProcessingRate (config_id : Nat)
  | ExportSurfaceHandle (surface_id mem_type flags : Nat)

/-- The status a call through `vtable` returns; the stubs return their constants. -/
def fuehreAus : Aufruf → Prog VAStatus
  | .Terminate => nvTerminate
  | .QueryConfigProfiles => Prod.fst <$> nvQueryConfigProfiles B
  | .QueryConfigEntrypoints => pure .success
  | .QueryConfigAttributes c => Prod.fst <$> nvQueryConfigAttributes c
  | .CreateConfig p e l => nvCreateConfig B p e l
  | .DestroyConfig c => nvDestroyConfig c
  | .GetConfigAttributes p l => Prod.fst <$> nvGetConfigAttributes B p l
  | .CreateSurfaces w h f n => nvCreateSurfaces w h f n
  | .CreateSurfaces2 f w h n => nvCreateSurfaces2 f w h n
  | .DestroySurfaces l => nvDestroySurfaces l
  | .CreateContext c w h r n => nvCreateContext B c w h r n
  | .DestroyContext c => nvDestroyContext c
  | .CreateBuffer c t s n d => nvCreateBuffer c t s n d
  | .BufferSetNumElements _ => pure .errorUnimplemented
  | .MapBuffer b => nvMapBuffer b
  | .UnmapBuffer _ => pure .success
  | .DestroyBuffer b => nvDestroyBuffer b
  | .BeginPicture c s => nvBeginPicture c s
  | .RenderPicture c l => nvRenderPicture B c l
  | .EndPicture c => nvEndPicture B c
  | .SyncSurface s => nvSyncSurface s
  | .QuerySurfaceStatus _ => pure .errorUnimplemented
  | .QuerySurfaceError _ => pure .errorUnimplemented
  | .PutSurface _ => pure .errorUnimplemented
  | .QueryImageFormats => pure .success
  | .CreateImage f w h => Prod.fst <$> nvCreateImage B f w h
  | .DeriveImage _ => pure .errorOperationFailed
  | .DestroyImage i => nvDestroyImage i
  | .SetImagePalette _ => pure .errorUnimplemented
  | .GetImage s x y wd ht i => nvGetImage B s x y wd ht i
  | .PutImage _ _ => pure .success
  | .QuerySubpictureFormats => pure .success
  | .CreateSubpicture _ => pure .errorUnimplemented
  | .DestroySubpicture _ => pure .errorUnimplemented
  | .SetSubpictureImage _ _ => pure .errorUnimplemented
  | .SetSubpictureChromakey _ => pure .errorUnimplemented
  | .SetSubpictureGlobalAlpha _ => pure .errorUnimplemented
  | .AssociateSubpicture _ _ => pure .errorUnimplemented
  | .DeassociateSubpicture _ _ => pure .errorUnimplemented
  | .QueryDisplayAttributes => pure .success
  | .GetDisplayAttributes => pure .errorUnimplemented
  | .SetDisplayAttributes => pure .errorUnimplemented
  | .QuerySurfaceAttributes c a n => nvQuerySurfaceAttributes B c a n
  | .BufferInfo _ => pure .success
  | .AcquireBufferHandle _ => pure .errorUnimplemented
  | .ReleaseBufferHandle _ => pure .errorUnimplemented
  | .LockSurface _ => pure .errorUnimplemented
  | .UnlockSurface _ => pure .errorUnimplemented
  | .CreateMFContext => pure .errorUnimplemented
  | .MFAddContext _ _ => pure .errorUnimplemented
  | .MFReleaseContext _ _ => pure .errorUnimplemented
  | .MFSubmit _ _ => pure .errorUnimplemented
  | .CreateBuffer2 _ _ _ _ => pure .errorUnimplemented
  | .QueryProcessingRate _ => pure .errorUnimplemented
  | .ExportSurfaceHandle s m f => nvExportSurfaceHandle s m f

/-- A client's calls through `vtable`, one after another, with the statuses they return. -/
def fuehreAlleAus : List Aufruf → Prog (List VAStatus)
  | [] => pure []
  | a :: as => do
    let st ← fuehreAus B a
    let sts ← fuehreAlleAus as
    pure (st :: sts)

end NvdecVaapi
