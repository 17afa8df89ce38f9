/-
  File:      NvdecVaapi/Basis.lean
  Subject:   The contracts the driver is written against: VA-API status codes, profiles and
             flags, the CUDA/NVDEC enumerations it reads, and the external calls whose outcome
             it does not decide.

  The VA-API headers and the vendor libraries are not part of the repository; what the driver
  reads of them is fixed here once:

  * `VAStatus`, `VAProfile`, `VAEntrypoint` -- the values `vabackend.c` returns and compares;
    a profile or entrypoint the driver never names is `other`;
  * the RT-format, buffer-type, memory-type and export-flag constants of `va.h`, as numbers,
    since clients pass them as plain integers;
  * `cudaVideoCodec`, `cudaVideoChromaFormat`, `cudaVideoSurfaceFormat` -- the NVDEC enums;
  * `Ruf` -- every call into CUDA, NVDEC, libc, pthreads or the export backend whose success
    the driver tests (or could test): its outcome comes from an oracle, so every theorem over
    all oracles holds for every behaviour of the environment.
-/
import Mathlib

namespace NvdecVaapi

/-! ## 1. Status codes and client-visible enumerations -/

/-- The `VA_STATUS_*` codes `vabackend.c` returns. -/
inductive VAStatus where
  | success
  | errorOperationFailed
  | errorAllocationFailed
  | errorInvalidConfig
  | errorInvalidContext
  | errorInvalidSurface
  | errorInvalidBuffer
  | errorInvalidImage
  | errorInvalidParameter
  | errorInvalidImageFormat
  | errorUnsupportedProfile
  | errorUnsupportedEntrypoint
  | errorUnsupportedRtFormat
  | errorUnsupportedMemoryType
  | errorMaxNumExceeded
  | errorUnimplemented
  | errorDecodingError
  | errorHwBusy
  deriving DecidableEq, Repr

/-- The VA profiles the driver names; every other value a client may pass is `other`. -/
inductive VAProfile where
  | MPEG2Simple | MPEG2Main
  | MPEG4Simple | MPEG4AdvancedSimple | MPEG4Main
  | VC1Simple | VC1Main | VC1Advanced
  | H264Main | H264High | H264ConstrainedBaseline | H264StereoHigh | H264MultiviewHigh
  | JPEGBaseline
  | HEVCMain | HEVCMain10 | HEVCMain12 | HEVCMain444 | HEVCMain444_10 | HEVCMain444_12
  | VP8Version0_3
  | VP9Profile0 | VP9Profile1 | VP9Profile2 | VP9Profile3
  | AV1Profile0 | AV1Profile1
  | other (n : Int)
  deriving DecidableEq, Repr

/-- The entrypoints: the driver accepts only `VLD`. -/
inductive VAEntrypoint where
  | VLD
  | other (n : Int)
  deriving DecidableEq, Repr

/-- `VA_INVALID_ID`, the 32-bit all-ones id. -/
def VA_INVALID_ID : Nat := 0xffffffff

/-- Generic ids (`VAGenericID`, and all ids derived from it) are 32-bit unsigned. -/
def idRaum : Nat := 2 ^ 32

theorem VA_INVALID_ID_lt : VA_INVALID_ID < idRaum := by decide

/-! ## 2. Numeric `va.h` constants -/

def VA_RT_FORMAT_YUV420 : Nat := 0x1
def VA_RT_FORMAT_YUV422 : Nat := 0x2
def VA_RT_FORMAT_YUV444 : Nat := 0x4
def VA_RT_FORMAT_YUV420_10 : Nat := 0x100
def VA_RT_FORMAT_YUV444_10 : Nat := 0x400
def VA_RT_FORMAT_YUV420_12 : Nat := 0x1000
def VA_RT_FORMAT_YUV444_12 : Nat := 0x4000

def VASliceDataBufferType : Nat := 5
def VAImageBufferType : Nat := 9

def VA_SURFACE_ATTRIB_MEM_TYPE_DRM_PRIME_2 : Nat := 0x40000000
def VA_EXPORT_SURFACE_SEPARATE_LAYERS : Nat := 0x4

/-! ## 3. NVDEC enumerations -/

inductive cudaVideoCodec where
  | MPEG2 | MPEG4 | VC1 | H264 | JPEG | H264_SVC | H264_MVC | HEVC | VP8 | VP9 | AV1
  | NONE
  deriving DecidableEq, Repr

inductive cudaVideoChromaFormat where
  | Monochrome | «420» | «422» | «444»
  deriving DecidableEq, Repr

inductive cudaVideoSurfaceFormat where
  | NV12 | P016 | YUV444 | YUV444_16Bit
  deriving DecidableEq, Repr

/-! ## 4. External calls -/

/-- The fields of a `CUDA_MEMCPY2D` of `nvGetImage` that say where it writes: `dstHost` as an
    offset from `imageBuffer->ptr`, `dstPitch`, `WidthInBytes`, `Height` (`dstXInBytes` and `dstY`
    are 0; the source is the backing image's array of the plane). -/
structure CUDA_MEMCPY2D where
  dstHost : Nat
  dstPitch : Nat
  WidthInBytes : Nat
  Height : Nat
  deriving DecidableEq, Repr

/-- A call whose outcome the driver does not decide. `cuvidMapVideoFrame` and the backend's
    `realiseSurface` answer success or failure; `memalign` answers a block or `NULL`;
    `pthreadCreate` and `pthreadTimedJoin` answer whether the thread started or was joined.
    `cuvidMapVideoFrame` carries the picture index and the `CUVIDPROCPARAMS` fields it is
    given, `cuMemcpy2D` its descriptor. -/
inductive Ruf where
  | cuCtxPushCurrent | cuCtxPopCurrent | cuCtxDestroy
  | cuvidCtxLockCreate | cuvidCreateDecoder | cuvidDestroyDecoder
  | cuvidDecodePicture | cuvidGetDecoderCaps
  | cuvidMapVideoFrame (nPicIdx : Int) (progressive_frame top_field_first second_field : Bool)
  | cuvidUnmapVideoFrame
  | cuMemcpy2D (d : CUDA_MEMCPY2D)
  | memalign | calloc
  | pthreadCreate | pthreadTimedJoin
  | realiseSurface | fillExportDescriptor | exportCudaPtr
  | detachBackingImageFromSurface | destroyAllBackingImage | releaseExporter
  deriving DecidableEq, Repr

/-- Why a run stops without a status: the C code dereferences `NULL`, reads freed memory, reads a
    payload as a struct of another type, indexes past an array, or the allocator answered an
    address that is in use (an oracle no real allocator is). -/
inductive Abbruch where
  | nullDeref | useAfterFree | typVerwechslung | ausserhalb | allokator
  deriving DecidableEq, Repr

end NvdecVaapi
