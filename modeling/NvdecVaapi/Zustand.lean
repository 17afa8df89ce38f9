/-
  File:      NvdecVaapi/Zustand.lean
  Subject:   The driver's state (the payload structs of `vabackend.h`, the registry, the heap
             the payloads live in, the resolve threads) and the monad `Prog` the entry points
             are written in.

  * `NVSurface`, `NVContext`, `NVBuffer`, `NVConfig`, `NVImage` -- the fields `vabackend.c`
    reads or writes, with the values `calloc` gives them as defaults; a pointer is an
    `Option Nat` (`none` is `NULL`), the resolve ring `surfaceQueue` an array indexed by `Nat`;
  * `NVDriver` -- the registry `objects`, the counter `nextObjId`, the heap `mem` from payload
    addresses to payloads, `surfaceCount` and the two capability flags;
  * `Welt` -- a driver together with its resolve threads, the trace of external calls, the
    values written through out-parameters, and the oracles that answer the external calls;
  * `Prog` -- a run on a `Welt` ends in undefined behaviour of the C code (`Ausgang.abbruch`),
    returns a value and a new `Welt`, or stops at a `Halt` (a blocking wait) with the rest of the
    run to go on when the thread resumes; `ruf` issues an external call, `lies` reads a payload
    through a pointer the way the C code does (a `NULL`, freed or differently typed pointer stops
    the run).
-/
import NvdecVaapi.Basis

namespace NvdecVaapi

/-! ## 1. Payloads -/

/-- `CUVIDPICPARAMS`, as far as the driver itself reads and writes it. -/
structure CUVIDPICPARAMS where
  CurrPicIdx : Int := 0
  bottom_field_flag : Bool := false
  second_field : Bool := false
  pBitstreamData : Option (List UInt8) := none
  pSliceDataOffsets : Option (List UInt8) := none
  deriving DecidableEq, Repr

/-- `AppendableBuffer`: a block of `allocated` bytes (or `NULL`), of which `size` are used. -/
structure AppendableBuffer where
  buf : Option (List UInt8) := none
  size : Nat := 0
  allocated : Nat := 0
  deriving DecidableEq, Repr

/-- `NVSurface`. -/
structure NVSurface where
  width : Nat := 0
  height : Nat := 0
  format : cudaVideoSurfaceFormat := .NV12
  pictureIdx : Int := 0
  bitDepth : Nat := 0
  context : Option Nat := none
  chromaFormat : cudaVideoChromaFormat := .Monochrome
  resolving : Bool := false
  decodeFailed : Bool := false
  progressiveFrame : Bool := false
  topFieldFirst : Bool := false
  secondField : Bool := false
  backingImage : Option Nat := none
  deriving DecidableEq, Repr

/-- `NVContext`. `surfaceQueue` is the ring of `SURFACE_QUEUE_SIZE` surface pointers;
    `resolveThread` names the thread `pthread_create` started for it. -/
structure NVContext where
  decoder : Option Nat := none
  profile : VAProfile := .MPEG2Simple
  entrypoint : VAEntrypoint := .other 0
  width : Int := 0
  height : Int := 0
  codec : Nat := 0
  surfaceCount : Int := 0
  currentPictureId : Int := 0
  renderTarget : Option Nat := none
  pPicParams : CUVIDPICPARAMS := {}
  bitstreamBuffer : AppendableBuffer := {}
  sliceOffsets : AppendableBuffer := {}
  surfaceQueue : Nat → Option Nat := fun _ => none
  surfaceQueueReadIdx : Nat := 0
  surfaceQueueWriteIdx : Nat := 0
  exiting : Bool := false
  resolveThread : Nat := 0

/-- `NVBuffer`. `ptr` is the `memalign` block (its content is not modelled: the block's name
    stands for it). -/
structure NVBuffer where
  bufferType : Nat := 0
  elements : Nat := 0
  size : Nat := 0
  ptr : Option Nat := none
  offset : Nat := 0
  deriving DecidableEq, Repr

/-- `NVConfig`. -/
structure NVConfig where
  profile : VAProfile := .MPEG2Simple
  entrypoint : VAEntrypoint := .other 0
  cudaCodec : cudaVideoCodec := .MPEG2
  chromaFormat : cudaVideoChromaFormat := .Monochrome
  surfaceFormat : cudaVideoSurfaceFormat := .NV12
  bitDepth : Nat := 0
  deriving DecidableEq, Repr

/-- `NVImage`; `format` indexes `formatsInfo`, `imageBuffer` points to the image's `NVBuffer`. -/
structure NVImage where
  width : Int := 0
  height : Int := 0
  format : Nat := 0
  imageBuffer : Option Nat := none
  deriving DecidableEq, Repr

/-- What an object's `obj` pointer points to. -/
inductive Payload where
  | config (c : NVConfig)
  | context (c : NVContext)
  | surface (s : NVSurface)
  | buffer (b : NVBuffer)
  | image (i : NVImage)

/-- The views of a payload as each struct type (`none`: the bytes are another struct). -/
def Payload.alsSurface : Payload → Option NVSurface
  | .surface s => some s
  | _ => none

def Payload.alsContext : Payload → Option NVContext
  | .context c => some c
  | _ => none

def Payload.alsBuffer : Payload → Option NVBuffer
  | .buffer b => some b
  | _ => none

def Payload.alsConfig : Payload → Option NVConfig
  | .config c => some c
  | _ => none

def Payload.alsImage : Payload → Option NVImage
  | .image i => some i
  | _ => none

/-! ## 2. The registry and the driver -/

/-- `OBJECT_TYPE_*`. -/
inductive ObjectType where
  | config | context | surface | buffer | image
  deriving DecidableEq, Repr

/-- `struct Object_t`: a handle's type, its id and the address of its payload. -/
structure Object where
  type : ObjectType
  id : Nat
  obj : Nat
  deriving DecidableEq, Repr

/-- `NVDriver`, as far as the entry points of `vabackend.c` use it. -/
structure NVDriver where
  objects : List Object := []
  nextObjId : Nat := 0
  mem : Nat → Option Payload := fun _ => none
  surfaceCount : Int := 0
  supports16BitSurface : Bool := false
  supports444Surface : Bool := false

/-- The heap after storing `x` at `a`. -/
def setMem (m : Nat → Option Payload) (a : Nat) (x : Option Payload) : Nat → Option Payload :=
  fun b => if b = a then x else m b

@[simp] theorem setMem_same (m : Nat → Option Payload) (a : Nat) (x : Option Payload) :
    setMem m a x a = x := by simp [setMem]

@[simp] theorem setMem_other (m : Nat → Option Payload) {a b : Nat} (x : Option Payload)
    (h : b ≠ a) : setMem m a x b = m b := by simp [setMem, h]

/-! ## 3. Threads -/

/-- Where the resolve thread stands in `resolveSurfaces`. -/
inductive RT where
  /-- before its `cuCtxPushCurrent` -/
  | start
  /-- at `while (!ctx->exiting)` -/
  | kopf
  /-- holding `resolveMutex`, at `while (surfaceQueueReadIdx == surfaceQueueWriteIdx)` -/
  | geprueft
  /-- blocked in `pthread_cond_wait(&ctx->resolveCondition, ...)` -/
  | wartet
  /-- woken, the mutex reacquired, at `if (ctx->exiting)` -/
  | geweckt
  /-- the mutex released, at `surface = surfaceQueue[surfaceQueueReadIdx++]` -/
  | frei
  /-- resolving the dequeued surface pointer `s` -/
  | loest (s : Option Nat)
  /-- returned -/
  | beendet
  deriving DecidableEq, Repr

/-- A resolve thread: the `NVContext*` it was started with and where it stands. -/
structure ResolveFaden where
  ctx : Nat
  pc : RT
  deriving DecidableEq, Repr

/-! ## 4. The world a run happens in -/

/-- A driver, its resolve threads, the external calls issued so far with their outcomes, the
    values written through out-parameters, and the oracles: the call at trace position `k`
    succeeds iff `orakel k`, and a `calloc` at position `k` answers `adressen k`. -/
structure Welt where
  drv : NVDriver
  faeden : List ResolveFaden := []
  spur : List (Ruf × Bool) := []
  aus : List Nat := []
  orakel : Nat → Bool
  adressen : Nat → Nat

/-- Where a thread inside an entry point stops while other threads run: blocked in
    `pthread_cond_wait` on the condition of the surface at `a` until a signal wakes it, at
    `pthread_mutex_lock(&ctx->resolveMutex)` of the Context at `a` while the resolve thread holds
    it, in `pthread_timedjoin_np` on the resolve thread of the Context at `a` (which returns when
    the thread has ended or the deadline passed), or at a point where it may simply be
    descheduled. -/
inductive Halt where
  | bedingung (a : Nat)
  | mutex (a : Nat)
  | join (a : Nat)
  | frei
  deriving DecidableEq, Repr

/-- How a run ends: undefined behaviour, a value, or a stop at a `Halt` in the world reached so
    far, with the rest of the run to go on in the world the thread finds when it resumes. -/
inductive Ausgang (α : Type) where
  | abbruch (g : Abbruch)
  | fertig (a : α) (w : Welt)
  | halt (h : Halt) (w : Welt) (weiter : Welt → Ausgang α)

/-- Go on with `f` after the run: past every stop. -/
def Ausgang.bind : Ausgang α → (α → Welt → Ausgang β) → Ausgang β
  | .abbruch g, _ => .abbruch g
  | .fertig a w, f => f a w
  | .halt h w k, f => .halt h w fun w' => (k w').bind f

/-- A run of driver code. -/
def Prog (α : Type) : Type := Welt → Ausgang α

namespace Prog

@[inline] def pure' (a : α) : Prog α := fun w => .fertig a w

@[inline] def bind' (x : Prog α) (f : α → Prog β) : Prog β := fun w => (x w).bind f

instance : Monad Prog where
  pure := pure'
  bind := bind'

@[simp] theorem pure_apply (a : α) (w : Welt) : (pure a : Prog α) w = .fertig a w := rfl

theorem bind_apply (x : Prog α) (f : α → Prog β) (w : Welt) : (x >>= f) w = (x w).bind f := rfl

@[simp] theorem bind_fertig' (a : α) (w : Welt) (f : α → Welt → Ausgang β) :
    (Ausgang.fertig a w).bind f = f a w := rfl

@[simp] theorem bind_abbruch' (g : Abbruch) (f : α → Welt → Ausgang β) :
    (Ausgang.abbruch g).bind f = .abbruch g := rfl

@[simp] theorem bind_halt' (h : Halt) (w : Welt) (k : Welt → Ausgang α) (f : α → Welt → Ausgang β) :
    (Ausgang.halt h w k).bind f = .halt h w fun w' => (k w').bind f := rfl

theorem bind_fertig {x : Prog α} {f : α → Prog β} {w w' : Welt} {a : α}
    (h : x w = .fertig a w') : (x >>= f) w = f a w' := by
  rw [bind_apply, h]
  rfl

theorem bind_abbruch {x : Prog α} {f : α → Prog β} {w : Welt} {g : Abbruch}
    (h : x w = .abbruch g) : (x >>= f) w = .abbruch g := by
  rw [bind_apply, h]
  rfl

/-- **The bind inversion**: a composite run that finished without stopping finished its first
    part without stopping. -/
theorem bind_eq_fertig {x : Prog α} {f : α → Prog β} {w w'' : Welt} {b : β}
    (h : (x >>= f) w = .fertig b w'') : ∃ a w', x w = .fertig a w' ∧ f a w' = .fertig b w'' := by
  rw [bind_apply] at h
  cases hx : x w with
  | abbruch g => rw [hx] at h; cases h
  | fertig a w' => rw [hx] at h; exact ⟨a, w', rfl, h⟩
  | halt hh w' k => rw [hx] at h; cases h

end Prog

/-- Stop the run. -/
def abbrechen (g : Abbruch) : Prog α := fun _ => .abbruch g

/-- Stop at `h`; the run goes on in the world the thread finds when it resumes. -/
def halte (h : Halt) : Prog Unit := fun w => .halt h w fun w' => .fertig () w'

/-- Issue an external call; its outcome is the oracle's answer at the current trace position. -/
def ruf (r : Ruf) : Prog Bool := fun w =>
  .fertig (w.orakel w.spur.length) { w with spur := w.spur ++ [(r, w.orakel w.spur.length)] }

/-- `calloc`: the oracle's address, which must not hold a live payload. -/
def calloc : Prog Nat := fun w =>
  if (w.drv.mem (w.adressen w.spur.length)).isNone then
    .fertig (w.adressen w.spur.length) { w with spur := w.spur ++ [(.calloc, true)] }
  else .abbruch .allokator

/-- Read the driver. -/
def holeDrv : Prog NVDriver := fun w => .fertig w.drv w

/-- Replace the driver. -/
def setzeDrv (drv : NVDriver) : Prog Unit := fun w => .fertig () { w with drv := drv }

/-- Change the driver. -/
def aendereDrv (f : NVDriver → NVDriver) : Prog Unit := fun w => .fertig () { w with drv := f w.drv }

/-- Write a value through an out-parameter. -/
def gibAus (v : Nat) : Prog Unit := fun w => .fertig () { w with aus := w.aus ++ [v] }

/-- Dereference `p` as the struct `sicht` reads: `NULL`, freed memory and a payload of another
    type stop the run. -/
def lies (p : Option Nat) (sicht : Payload → Option α) : Prog α := fun w =>
  match p with
  | none => .abbruch .nullDeref
  | some a =>
    match w.drv.mem a with
    | none => .abbruch .useAfterFree
    | some x =>
      match sicht x with
      | none => .abbruch .typVerwechslung
      | some v => .fertig v w

/-- Store a payload at a (dereferenced, hence live) address. -/
def speichere (a : Nat) (x : Payload) : Prog Unit :=
  aendereDrv fun drv => { drv with mem := setMem drv.mem a (some x) }

def liesSurface (p : Option Nat) : Prog NVSurface := lies p Payload.alsSurface
def liesContext (p : Option Nat) : Prog NVContext := lies p Payload.alsContext
def liesBuffer (p : Option Nat) : Prog NVBuffer := lies p Payload.alsBuffer
def liesConfig (p : Option Nat) : Prog NVConfig := lies p Payload.alsConfig
def liesImage (p : Option Nat) : Prog NVImage := lies p Payload.alsImage

/-- Update the surface `p` points to: a read, then a write of the changed struct. -/
def aendereSurface (p : Option Nat) (f : NVSurface → NVSurface) : Prog Unit := do
  let s ← liesSurface p
  speichere (p.getD 0) (.surface (f s))

/-- Update the context `p` points to. -/
def aendereContext (p : Option Nat) (f : NVContext → NVContext) : Prog Unit := do
  let c ← liesContext p
  speichere (p.getD 0) (.context (f c))

/-- Update the config `p` points to. -/
def aendereConfig (p : Option Nat) (f : NVConfig → NVConfig) : Prog Unit := do
  let c ← liesConfig p
  speichere (p.getD 0) (.config (f c))

/-- Update the buffer `p` points to. -/
def aendereBuffer (p : Option Nat) (f : NVBuffer → NVBuffer) : Prog Unit := do
  let b ← liesBuffer p
  speichere (p.getD 0) (.buffer (f b))

/-- Update the image `p` points to. -/
def aendereImage (p : Option Nat) (f : NVImage → NVImage) : Prog Unit := do
  let i ← liesImage p
  speichere (p.getD 0) (.image (f i))

end NvdecVaapi
