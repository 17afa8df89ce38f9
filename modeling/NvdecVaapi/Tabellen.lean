/-
  File:      NvdecVaapi/Tabellen.lean
  Subject:   What is fixed when the driver is built: the codec table between
             `__start_nvd_codecs` and `__stop_nvd_codecs`, `SURFACE_QUEUE_SIZE`, the libva version
             test, and the format table `formatsInfo`.

  The codec modules and `vabackend.h` are not part of the repository, so the codec table and
  `SURFACE_QUEUE_SIZE` are parameters (`Bau`); a codec's handlers are modelled from the spec:
  each fills the picture-parameter struct or appends to the two scratch buffers.

  * `vaToCuCodec` -- the first codec's answer that is not `NONE`;
  * `waehleCodec` -- `nvCreateContext`'s nested scan, whose `break` leaves only the inner loop;
  * `formatsInfo`, `nvFormatFromVaFormat` -- the format table of `vabackend.c` and its lookup.
-/
import NvdecVaapi.Zustand

namespace NvdecVaapi

/-! ## 1. Codecs -/

/-- Modelled from the spec: a buffer handler (`HandlerFunc`, defined in the codec modules) "fills
    fields in the picture-parameter scratch struct, or appends to `bitstreamBuffer` /
    `sliceOffsets`": a function of the buffer and of those three. -/
def HandlerFunc : Type :=
  NVBuffer → CUVIDPICPARAMS × AppendableBuffer × AppendableBuffer →
    CUVIDPICPARAMS × AppendableBuffer × AppendableBuffer

/-- `NVCodec`: its profiles, `computeCudaCodec`, and the handler array indexed by buffer type. -/
structure NVCodec where
  supportedProfiles : List VAProfile
  computeCudaCodec : VAProfile → cudaVideoCodec
  handlers : List (Option HandlerFunc)

/-- The build: the codec table in link order, `SURFACE_QUEUE_SIZE`, and whether
    `VA_CHECK_VERSION(1, 20, 0)` holds. -/
structure Bau where
  codecs : List NVCodec
  SURFACE_QUEUE_SIZE : Nat
  va120 : Bool

/-- `vaToCuCodec`: the first answer of `computeCudaCodec` in table order that is not `NONE`. -/
def vaToCuCodec : List NVCodec → VAProfile → cudaVideoCodec
  | [], _ => .NONE
  | c :: cs, p => if c.computeCudaCodec p ≠ .NONE then c.computeCudaCodec p else vaToCuCodec cs p

/-- `nvCreateContext`'s codec scan from table index `i`, with `sel` selected so far: every codec
    that lists the profile overwrites the selection (the `break` leaves the inner loop only). -/
def waehleCodec (p : VAProfile) : List NVCodec → Nat → Option Nat → Option Nat
  | [], _, sel => sel
  | c :: cs, i, sel => waehleCodec p cs (i + 1) (if p ∈ c.supportedProfiles then some i else sel)

/-! ## 2. Formats -/

/-- `VA_FOURCC` / `fourcc_code`: four characters, least significant first. -/
def fourcc (a b c d : Char) : Nat :=
  a.toNat + b.toNat * 2 ^ 8 + c.toNat * 2 ^ 16 + d.toNat * 2 ^ 24

/-- `NVFormatPlane`: channels per pixel, DRM format, horizontal and vertical subsampling shift. -/
structure NVFormatPlane where
  channelCount : Nat
  fourcc : Nat
  ssx : Nat
  ssy : Nat
  deriving DecidableEq, Repr

/-- `VAImageFormat`, the fields the table sets. -/
structure VAImageFormat where
  fourcc : Nat
  byte_order : Nat
  bits_per_pixel : Nat
  deriving DecidableEq, Repr

/-- `NVFormatInfo`. -/
structure NVFormatInfo where
  bppc : Nat
  numPlanes : Nat
  fourcc : Nat
  is16bits : Bool
  isYuv444 : Bool
  plane : List NVFormatPlane
  vaFormat : VAImageFormat
  deriving DecidableEq, Repr

def VA_LSB_FIRST : Nat := 1

/-- `formatsInfo`, indexed by `NVFormat`; `NV_FORMAT_Q416` only with libva 1.20. -/
def formatsInfo (va120 : Bool) : List NVFormatInfo :=
  [ ⟨0, 0, 0, false, false, [], ⟨0, 0, 0⟩⟩,
    ⟨1, 2, fourcc 'N' 'V' '1' '2', false, false,
      [⟨1, fourcc 'R' '8' ' ' ' ', 0, 0⟩, ⟨2, fourcc 'R' 'G' '8' '8', 1, 1⟩],
      ⟨fourcc 'N' 'V' '1' '2', VA_LSB_FIRST, 12⟩⟩,
    ⟨2, 2, fourcc 'P' '0' '1' '0', true, false,
      [⟨1, fourcc 'R' '1' '6' ' ', 0, 0⟩, ⟨2, fourcc 'R' 'G' '3' '2', 1, 1⟩],
      ⟨fourcc 'P' '0' '1' '0', VA_LSB_FIRST, 24⟩⟩,
    ⟨2, 2, fourcc 'P' '0' '1' '2', true, false,
      [⟨1, fourcc 'R' '1' '6' ' ', 0, 0⟩, ⟨2, fourcc 'R' 'G' '3' '2', 1, 1⟩],
      ⟨fourcc 'P' '0' '1' '2', VA_LSB_FIRST, 24⟩⟩,
    ⟨2, 2, fourcc 'P' '0' '1' '6', true, false,
      [⟨1, fourcc 'R' '1' '6' ' ', 0, 0⟩, ⟨2, fourcc 'R' 'G' '3' '2', 1, 1⟩],
      ⟨fourcc 'P' '0' '1' '6', VA_LSB_FIRST, 24⟩⟩,
    ⟨1, 3, fourcc 'Y' 'U' '2' '4', false, true,
      [⟨1, fourcc 'R' '8' ' ' ' ', 0, 0⟩, ⟨1, fourcc 'R' '8' ' ' ' ', 0, 0⟩,
        ⟨1, fourcc 'R' '8' ' ' ' ', 0, 0⟩],
      ⟨fourcc '4' '4' '4' 'P', VA_LSB_FIRST, 24⟩⟩ ] ++
  (if va120 then
    [⟨2, 3, 0, true, true,
      [⟨1, fourcc 'R' '1' '6' ' ', 0, 0⟩, ⟨1, fourcc 'R' '1' '6' ' ', 0, 0⟩,
        ⟨1, fourcc 'R' '1' '6' ' ', 0, 0⟩],
      ⟨fourcc 'Q' '4' '1' '6', VA_LSB_FIRST, 48⟩⟩]
  else [])

/-- The scan of `nvFormatFromVaFormat` from table index `i`. -/
def sucheFormat (f : Nat) : List NVFormatInfo → Nat → Nat
  | [], _ => 0
  | x :: xs, i => if x.vaFormat.fourcc = f then i else sucheFormat f xs (i + 1)

/-- `nvFormatFromVaFormat`: the first index from `NV_FORMAT_NONE + 1` on whose VA fourcc matches,
    else `NV_FORMAT_NONE`. -/
def nvFormatFromVaFormat (va120 : Bool) (f : Nat) : Nat :=
  sucheFormat f ((formatsInfo va120).drop 1) 1

end NvdecVaapi
