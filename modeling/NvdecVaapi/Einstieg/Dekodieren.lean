/-
  File:      NvdecVaapi/Einstieg/Dekodieren.lean
  Subject:   The entry points of the decode pipeline: surfaces, contexts, buffers, and
             `nvBeginPicture` / `nvRenderPicture` / `nvEndPicture` / `nvSyncSurface`.

  Each entry point is written in `Prog` in the order `vabackend.c` executes it: a pointer is
  dereferenced where the C code dereferences it (`lies`, `aendere...`), an external call where
  the C code makes it (`ruf`), and `CHECK_CUDA_RESULT_RETURN` is `pruefeRuf`. `LOG` lines that
  dereference a pointer are kept as reads. The backend functions `detachBackingImageFromSurface`
  and `exportCudaPtr` are not part of the repository and are modelled from the spec.

  Where another thread's steps matter the run stops at a `Halt`: `nvSyncSurface`'s
  `pthread_cond_wait`, `nvEndPicture`'s lock of `resolveMutex`, and in `destroyContext` after
  `exiting = true` and at the timed join; the thread system resumes it.
-/
import NvdecVaapi.Register
import NvdecVaapi.Ring
import NvdecVaapi.Tabellen

namespace NvdecVaapi

/-! ## 1. Recurring pieces -/

/-- `CHECK_CUDA_RESULT_RETURN(call, ret)`: issue the call; on failure return `ret`. -/
def pruefeRuf (r : Ruf) (ret : α) (weiter : Prog α) : Prog α := do
  if (← ruf r) then weiter else pure ret

/-- The resolve threads after waking the first one of the Context at `a` that waits. -/
def weckeErsten (a : Nat) : List ResolveFaden → List ResolveFaden
  | [] => []
  | f :: fs => if f.ctx = a ∧ f.pc = .wartet then ⟨a, .geweckt⟩ :: fs else f :: weckeErsten a fs

/-- `pthread_cond_signal(&ctx->resolveCondition)` for the Context at `a`: wakes at most one waiter;
    a signal nobody waits for is lost. -/
def signalResolve (a : Nat) : Prog Unit := fun w =>
  .fertig () { w with faeden := weckeErsten a w.faeden }

/-- `pthread_create(..., resolveSurfaces, nvCtx)` once it succeeded: a new thread at `start`. -/
def starteFaden (a : Nat) : Prog Unit := fun w =>
  .fertig () { w with faeden := w.faeden ++ [⟨a, .start⟩] }

/-- The number of threads started so far; the next one gets this number. -/
def anzahlFaeden : Prog Nat := fun w => .fertig w.faeden.length w

/-- Modelled from the spec: `detachBackingImageFromSurface` "releases the backing image; Surface
    becomes re-realisable". -/
def detachBackingImageFromSurface (p : Option Nat) : Prog Unit := do
  let _ ← ruf .detachBackingImageFromSurface
  aendereSurface p fun s => { s with backingImage := none }

/-! ## 2. Surfaces -/

/-- The `switch (format)` of `nvCreateSurfaces2`: surface format, chroma format, bit depth. -/
def surfaceArt (format : Nat) : Option (cudaVideoSurfaceFormat × cudaVideoChromaFormat × Nat) :=
  if format = VA_RT_FORMAT_YUV420 then some (.NV12, .«420», 8)
  else if format = VA_RT_FORMAT_YUV420_10 then some (.P016, .«420», 10)
  else if format = VA_RT_FORMAT_YUV420_12 then some (.P016, .«420», 12)
  else if format = VA_RT_FORMAT_YUV444 then some (.YUV444, .«444», 8)
  else if format = VA_RT_FORMAT_YUV444_10 then some (.YUV444_16Bit, .«444», 10)
  else if format = VA_RT_FORMAT_YUV444_12 then some (.YUV444_16Bit, .«444», 12)
  else none

/-- Modelled from the spec (`ROUND_UP` is defined in `vabackend.h`): "round up to chroma-subsampling
    multiples", here to a multiple of 2. -/
def ROUND_UP2 (x : Nat) : Nat := (x + 1) / 2 * 2

/-- The subsampling `switch`: 4:2:2 rounds the width, 4:2:0 both. -/
def rundeAuf (chroma : cudaVideoChromaFormat) (w h : Nat) : Nat × Nat :=
  match chroma with
  | .«422» => (ROUND_UP2 w, h)
  | .«420» => (ROUND_UP2 w, ROUND_UP2 h)
  | _ => (w, h)

/-- The loop of `nvCreateSurfaces2`: `n` surfaces, each id written to `surfaces[i]`. -/
def legeSurfacesAn (s : NVSurface) : Nat → Prog Unit
  | 0 => pure ()
  | n + 1 => do
    let o ← neuesObjekt .surface (.surface s)
    gibAus o.id
    legeSurfacesAn s n

/-- `nvCreateSurfaces2`. -/
def nvCreateSurfaces2 (format width height num_surfaces : Nat) : Prog VAStatus :=
  match surfaceArt format with
  | none => pure .errorUnsupportedRtFormat
  | some (nvFormat, chromaFormat, bitdepth) =>
    pruefeRuf .cuCtxPushCurrent .errorOperationFailed do
      legeSurfacesAn { width := (rundeAuf chromaFormat width height).1,
                       height := (rundeAuf chromaFormat width height).2, format := nvFormat,
                       pictureIdx := -1, bitDepth := bitdepth, context := none,
                       chromaFormat := chromaFormat } num_surfaces
      aendereDrv fun drv => { drv with surfaceCount := drv.surfaceCount + num_surfaces }
      pruefeRuf .cuCtxPopCurrent .errorOperationFailed (pure .success)

/-- `nvCreateSurfaces`: the legacy shape, forwarded. -/
def nvCreateSurfaces (width height format num_surfaces : Nat) : Prog VAStatus :=
  nvCreateSurfaces2 format width height num_surfaces

/-- The loop of `nvDestroySurfaces`: the `LOG` reads `surface->pictureIdx`, the backend detaches,
    the object is deleted. -/
def zerstoereSurfaces : List Nat → Prog Unit
  | [] => pure ()
  | id :: ids => do
    let drv ← holeDrv
    let _ ← liesSurface (getObjectPtr drv id)
    detachBackingImageFromSurface (getObjectPtr drv id)
    loescheObjekt id
    zerstoereSurfaces ids

/-- `nvDestroySurfaces`. -/
def nvDestroySurfaces (surface_list : List Nat) : Prog VAStatus := do
  zerstoereSurfaces surface_list
  aendereDrv fun drv =>
    { drv with surfaceCount := max (drv.surfaceCount - surface_list.length) 0 }
  pure .success

/-! ## 3. Contexts -/

variable (B : Bau)

/-- `nvCreateContext` once the codec is chosen and the render target consulted: the surface
    count, `drv->surfaceCount = 0`, the decoder, the Context object, the resolve thread. -/
def legeContextAn (cfgP : Option Nat) (codec : Nat) (picture_width picture_height : Int)
    (num_render_targets : Int) : Prog VAStatus := do
  let cfg ← liesConfig cfgP
  let surfaceCount : Int := if num_render_targets > 0 then num_render_targets else 32
  let surfaceCount : Int := if surfaceCount > 32 then 32 else surfaceCount
  aendereDrv fun drv => { drv with surfaceCount := 0 }
  pruefeRuf .cuvidCtxLockCreate .errorOperationFailed do
  pruefeRuf .cuvidCreateDecoder .errorAllocationFailed do
  let n ← anzahlFaeden
  let o ← neuesObjekt .context (.context
    { decoder := some 0, profile := cfg.profile, entrypoint := cfg.entrypoint,
      width := picture_width, height := picture_height, codec := codec,
      surfaceCount := surfaceCount, resolveThread := n })
  if (← ruf .pthreadCreate) then
    starteFaden o.obj
    gibAus o.id
    pure .success
  else
    loescheObjekt o.id
    pure .errorOperationFailed

/-- `nvCreateContext`. -/
def nvCreateContext (config_id : Nat) (picture_width picture_height : Int)
    (render_targets : List Nat) (num_render_targets : Int) : Prog VAStatus := do
  let drv ← holeDrv
  match getObjectPtr drv config_id with
  | none => pure .errorInvalidConfig
  | some a => do
    let cfg ← liesConfig (some a)
    match waehleCodec cfg.profile B.codecs 0 none with
    | none => pure .errorUnsupportedProfile
    | some codec =>
      if num_render_targets ≠ 0 then
        match render_targets.head? with
        | none => abbrechen .ausserhalb
        | some rt =>
          match getObjectPtr drv rt with
          | none => pure .errorInvalidParameter
          | some s => do
            let surface ← liesSurface (some s)
            aendereConfig (some a) fun c =>
              { c with surfaceFormat := surface.format, chromaFormat := surface.chromaFormat,
                       bitDepth := surface.bitDepth }
            legeContextAn (some a) codec picture_width picture_height num_render_targets
      else legeContextAn (some a) codec picture_width picture_height num_render_targets

/-- `freeBuffer`. -/
def freeBuffer (ab : AppendableBuffer) : AppendableBuffer :=
  match ab.buf with
  | none => ab
  | some _ => { buf := none, size := 0, allocated := 0 }

/-- `destroyContext` once the timed join has returned: the scratch buffers freed, the decoder
    destroyed (a failure is recorded, not acted on), pop. -/
def destroyContextNachJoin (p : Option Nat) : Prog Bool := do
  let _ ← ruf .pthreadTimedJoin
  aendereContext p fun c =>
    { c with sliceOffsets := freeBuffer c.sliceOffsets, bitstreamBuffer := freeBuffer c.bitstreamBuffer }
  let c ← liesContext p
  let ok ← (if c.decoder.isSome then ruf .cuvidDestroyDecoder else pure true)
  aendereContext p fun c => { c with decoder := none }
  pruefeRuf .cuCtxPopCurrent false (pure ok)

/-- `destroyContext` after `exiting = true`: the signal, the timed join (it returns when the
    resolve thread has ended or after five seconds, so either may come first), then
    `destroyContextNachJoin`. -/
def destroyContextNachExiting (p : Option Nat) : Prog Bool := do
  signalResolve (p.getD 0)
  halte (.join (p.getD 0))
  destroyContextNachJoin p

/-- `destroyContext`: push, `exiting = true` (without `resolveMutex`), then
    `destroyContextNachExiting`. -/
def destroyContext (p : Option Nat) : Prog Bool :=
  pruefeRuf .cuCtxPushCurrent false do
    aendereContext p fun c => { c with exiting := true }
    halte .frei
    destroyContextNachExiting p

/-- The end of `nvDestroyContext`: the Context is deleted whatever `destroyContext` reports. -/
def loescheContext (context : Nat) (ok : Bool) : Prog VAStatus := do
  loescheObjekt context
  pure (if ok then .success else .errorOperationFailed)

/-- `nvDestroyContext`. -/
def nvDestroyContext (context : Nat) : Prog VAStatus := do
  let drv ← holeDrv
  match getObjectPtr drv context with
  | none => pure .errorInvalidContext
  | some a => destroyContext (some a) >>= loescheContext context

/-! ## 4. Buffers -/

/-- `nvCreateBuffer`. `data` is the client's pointer; for VP8 slice data it is aligned down to
    16 bytes and the size grows by the offset. The object stays registered when `memalign`
    fails. -/
def nvCreateBuffer (context type size num_elements : Nat) (data : Option Nat) : Prog VAStatus := do
  let drv ← holeDrv
  match getObjectPtr drv context with
  | none => pure .errorInvalidContext
  | some a => do
    let c ← liesContext (some a)
    let offset := if c.profile = .VP8Version0_3 ∧ type = VASliceDataBufferType then
      data.getD 0 % 16 else 0
    let size := (size + offset) % idRaum
    let b : NVBuffer := { bufferType := type, elements := num_elements,
                          size := num_elements * size % idRaum, ptr := none, offset := offset }
    let o ← neuesObjekt .buffer (.buffer b)
    gibAus o.id
    if (← ruf .memalign) then
      aendereBuffer (some o.obj) fun b => { b with ptr := some o.obj }
      pure .success
    else pure .errorAllocationFailed

/-- `nvMapBuffer`: writes `buf->ptr` to `*pbuf`. -/
def nvMapBuffer (buf_id : Nat) : Prog VAStatus := do
  let drv ← holeDrv
  match getObjectPtr drv buf_id with
  | none => pure .errorInvalidBuffer
  | some a => do
    let b ← liesBuffer (some a)
    gibAus (b.ptr.getD 0)
    pure .success

/-- `nvDestroyBuffer`: reads `buf->ptr` to free it, deletes the object. -/
def nvDestroyBuffer (buffer_id : Nat) : Prog VAStatus := do
  let drv ← holeDrv
  match getObjectPtr drv buffer_id with
  | none => pure .errorInvalidBuffer
  | some a => do
    let _ ← liesBuffer (some a)
    loescheObjekt buffer_id
    pure .success

/-! ## 5. Pictures -/

/-- The rebind in `nvBeginPicture`: a Surface last ended on another Context loses its backing
    image and its picture index. The comparison is of pointers. -/
def loeseAltbindung (nvCtx : Option Nat) (a : Nat) : Prog Unit := do
  let s ← liesSurface (some a)
  if s.context.isSome ∧ s.context ≠ nvCtx then
    if s.backingImage.isSome then detachBackingImageFromSurface (some a)
    aendereSurface (some a) fun s => { s with pictureIdx := -1 }

/-- The picture-index assignment of `nvBeginPicture`; `false` is `VA_STATUS_ERROR_MAX_NUM_EXCEEDED`. -/
def vergibPictureIdx (nvCtx : Option Nat) (a : Nat) : Prog Bool := do
  let s ← liesSurface (some a)
  if s.pictureIdx = -1 then do
    let c ← liesContext nvCtx
    if c.currentPictureId = c.surfaceCount then pure false
    else do
      aendereSurface (some a) fun s => { s with pictureIdx := c.currentPictureId }
      aendereContext nvCtx fun c => { c with currentPictureId := c.currentPictureId + 1 }
      pure true
  else pure true

/-- The rest of `nvBeginPicture`: `resolving = 1`, the cleared picture parameters, the render
    target, `progressiveFrame = true`, `CurrPicIdx`. -/
def markiereBeginn (nvCtx : Option Nat) (a : Nat) : Prog Unit := do
  aendereSurface (some a) fun s => { s with resolving := true }
  aendereContext nvCtx fun c => { c with pPicParams := {}, renderTarget := some a }
  aendereSurface (some a) fun s => { s with progressiveFrame := true }
  let s ← liesSurface (some a)
  aendereContext nvCtx fun c => { c with pPicParams := { c.pPicParams with CurrPicIdx := s.pictureIdx } }

/-- `nvBeginPicture`. The Context pointer is not checked against `NULL`. -/
def nvBeginPicture (context render_target : Nat) : Prog VAStatus := do
  let drv ← holeDrv
  let nvCtx := getObjectPtr drv context
  match getObjectPtr drv render_target with
  | none => pure .errorInvalidSurface
  | some a => do
    loeseAltbindung nvCtx a
    if (← vergibPictureIdx nvCtx a) then
      markiereBeginn nvCtx a
      pure .success
    else pure .errorMaxNumExceeded

/-- A handler applied to the Context's picture parameters and scratch buffers. -/
def wendeAn (f : HandlerFunc) (b : NVBuffer) (c : NVContext) : NVContext :=
  let r := f b (c.pPicParams, c.bitstreamBuffer, c.sliceOffsets)
  { c with pPicParams := r.1, bitstreamBuffer := r.2.1, sliceOffsets := r.2.2 }

/-- The loop of `nvRenderPicture`: `getObject(...)->obj` is not checked, a buffer without memory is
    skipped, the handler is looked up by buffer type without a bound check. -/
def rendereBuffers (nvCtx : Option Nat) : List Nat → Prog Unit
  | [] => pure ()
  | id :: ids => do
    let drv ← holeDrv
    match getObject drv id with
    | none => abbrechen .nullDeref
    | some o => do
      let buf ← liesBuffer (some o.obj)
      if buf.ptr.isNone then rendereBuffers nvCtx ids
      else do
        let c ← liesContext nvCtx
        match B.codecs.get? c.codec with
        | none => abbrechen .ausserhalb
        | some codec =>
          match codec.handlers.get? buf.bufferType with
          | none => abbrechen .ausserhalb
          | some none => rendereBuffers nvCtx ids
          | some (some f) => do
            aendereContext nvCtx (wendeAn f buf)
            rendereBuffers nvCtx ids

/-- `nvRenderPicture`. -/
def nvRenderPicture (context : Nat) (buffers : List Nat) : Prog VAStatus := do
  let drv ← holeDrv
  match getObjectPtr drv context with
  | none => pure .errorInvalidContext
  | some a => do
    rendereBuffers B (some a) buffers
    pure .success

/-- The end of `nvEndPicture`, once it holds `resolveMutex`: the render target enqueued, the
    resolve thread signalled. -/
def reiheEinUnterMutex (p : Option Nat) (status : VAStatus) : Prog VAStatus := do
  aendereContext p fun c => einreihen B.SURFACE_QUEUE_SIZE c c.renderTarget
  signalResolve (p.getD 0)
  pure status

/-- `nvEndPicture` after the decode: the render target records the Context and the field flags,
    then `resolveMutex` is taken and `reiheEinUnterMutex` runs. -/
def reiheEin (p : Option Nat) (status : VAStatus) : Prog VAStatus := do
  let c ← liesContext p
  aendereSurface c.renderTarget fun s =>
    { s with context := p, topFieldFirst := !c.pPicParams.bottom_field_flag,
             secondField := c.pPicParams.second_field, decodeFailed := status ≠ .success }
  halte (.mutex (p.getD 0))
  reiheEinUnterMutex B p status

/-- `nvEndPicture`. `getObject(...)->obj` is not checked; the scratch buffers are reset before
    the push; a failed decode still enqueues the target. -/
def nvEndPicture (context : Nat) : Prog VAStatus := do
  let drv ← holeDrv
  match getObject drv context with
  | none => abbrechen .nullDeref
  | some o => do
    let p := some o.obj
    aendereContext p fun c =>
      { c with pPicParams := { c.pPicParams with pBitstreamData := c.bitstreamBuffer.buf,
                                                 pSliceDataOffsets := c.sliceOffsets.buf },
               bitstreamBuffer := { c.bitstreamBuffer with size := 0 },
               sliceOffsets := { c.sliceOffsets with size := 0 } }
    pruefeRuf .cuCtxPushCurrent .errorOperationFailed do
    let result ← ruf .cuvidDecodePicture
    pruefeRuf .cuCtxPopCurrent .errorOperationFailed do
    reiheEin B p (if result then .success else .errorDecodingError)

/-- `nvSyncSurface`: under the surface's mutex, one `pthread_cond_wait` if `resolving` is set (an
    `if`, not a `while`). -/
def nvSyncSurface (render_target : Nat) : Prog VAStatus := do
  let drv ← holeDrv
  match getObjectPtr drv render_target with
  | none => pure .errorInvalidSurface
  | some a => do
    let s ← liesSurface (some a)
    if s.resolving then halte (.bedingung a)
    pure .success

end NvdecVaapi
