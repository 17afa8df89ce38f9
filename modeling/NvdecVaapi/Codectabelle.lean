/-
  File:      NvdecVaapi/Codectabelle.lean
  Subject:   The readers of the codec table: the codec `nvCreateContext` installs, the handler
             `nvRenderPicture` calls for a buffer, and the profiles `nvQueryConfigProfiles`
             advertises.

  `nvCreateContext` scans the whole table with a nested loop whose `break` leaves only the inner
  loop, so every entry that lists the profile overwrites the selection: the codec installed is
  the last entry listing the profile, where the spec names the first. `nvRenderPicture` indexes
  the codec's handler array with the buffer's type, which `nvCreateBuffer` stores unchecked.
  `nvQueryConfigProfiles` compacts its candidate list in place (shift left, decrement the count
  and the index), which removes exactly the profiles `vaToCuCodec` cannot translate.

  * `waehleCodec_letzter` -- the scan selects the last entry that lists the profile;
  * `nvCreateContext_erfolg` -- a successful `nvCreateContext` adds a Context carrying the scan's
    selection and zeroes `drv->surfaceCount`;
  * **`codec_letzter_installiert`** -- for every table in which entry `pre.length` is the last
    to list the config's profile, the Context `nvCreateContext` creates carries codec
    `pre.length`, whatever earlier entries list it (`ersterCodec`, the spec's choice);
  * `nvCreateBuffer_typ`, **`render_ausserhalb`** -- `nvCreateBuffer` registers a buffer of any
    type; a live buffer whose type is not below the length of the codec's handler array ends
    `nvRenderPicture` in an out-of-bounds read;
  * `verdichte_filter` -- the compaction loop removes exactly the untranslatable profiles, in
    order, within `n - i` rounds;
  * **`profile_uebersetzbar`** -- the list a successful `nvQueryConfigProfiles` returns is the
    probes' candidate list filtered by `uebersetzbar`, its length is the count the call writes,
    and `nvCreateConfig` refuses none of its profiles as unsupported.
-/
import NvdecVaapi.Schritte
import NvdecVaapi.Pruefung

namespace NvdecVaapi

variable (B : Bau)

/-! ## 1. The codec scan -/

/-- The spec's choice: the first codec in table order whose `supportedProfiles` lists `p`. -/
def ersterCodec (p : VAProfile) (cs : List NVCodec) : Option Nat :=
  cs.findIdx? fun c => p ∈ c.supportedProfiles

/-- The scan over a table in two parts: the second goes on from the first part's selection. -/
theorem waehleCodec_append (p : VAProfile) (cs ds : List NVCodec) (i : Nat) (sel : Option Nat) :
    waehleCodec p (cs ++ ds) i sel = waehleCodec p ds (i + cs.length) (waehleCodec p cs i sel) := by
  induction cs generalizing i sel with
  | nil => rfl
  | cons c cs ih =>
    rw [List.cons_append, waehleCodec, ih, waehleCodec, List.length_cons, Nat.add_assoc,
      Nat.add_comm 1]

/-- Entries that do not list the profile leave the selection alone. -/
theorem waehleCodec_keiner {p : VAProfile} {cs : List NVCodec}
    (h : ∀ c ∈ cs, p ∉ c.supportedProfiles) (i : Nat) (sel : Option Nat) :
    waehleCodec p cs i sel = sel := by
  induction cs generalizing i with
  | nil => rfl
  | cons c cs ih =>
    rw [waehleCodec, if_neg (h c (List.mem_cons_self c cs))]
    exact ih (fun d hd => h d (List.mem_cons_of_mem c hd)) (i + 1)

/-- **The scan selects the last entry that lists the profile.** -/
theorem waehleCodec_letzter {p : VAProfile} {pre post : List NVCodec} {c : NVCodec}
    (hc : p ∈ c.supportedProfiles) (hpost : ∀ d ∈ post, p ∉ d.supportedProfiles) :
    waehleCodec p (pre ++ c :: post) 0 none = some pre.length := by
  rw [waehleCodec_append, waehleCodec, if_pos hc, waehleCodec_keiner hpost, Nat.zero_add]

/-! ## 2. `nvCreateContext` -/

/-- `w'` is `w` with one more object, a Context whose payload, at an address that was free,
    carries `codec`, and with `drv->surfaceCount` zeroed. -/
def NeuerContext (codec : Nat) (w w' : Welt) : Prop :=
  ∃ o c, w.drv.mem o.obj = none ∧ o.type = .context ∧ w'.drv.objects = w.drv.objects ++ [o] ∧
    w'.drv.mem o.obj = some (.context c) ∧ c.codec = codec ∧ w'.drv.surfaceCount = 0

/-- A step before that changes no registry entry and fills no free address keeps the
    description. -/
theorem NeuerContext.vor {codec : Nat} {w₀ w w' : Welt} (h : NeuerContext codec w w')
    (hm : ∀ b, w.drv.mem b = none → w₀.drv.mem b = none) (ho : w.drv.objects = w₀.drv.objects) :
    NeuerContext codec w₀ w' := by
  obtain ⟨o, c, h₁, h₂, h₃, h₄⟩ := h
  exact ⟨o, c, hm _ h₁, h₂, ho ▸ h₃, h₄⟩

/-- **What a successful `legeContextAn` does.** -/
theorem legeContextAn_erfolg {cfgP : Option Nat} {codec : Nat} {pw ph n : Int} {w w' : Welt}
    (h : legeContextAn cfgP codec pw ph n w = .fertig .success w') : NeuerContext codec w w' := by
  unfold legeContextAn pruefeRuf at h
  obtain ⟨_, w₁, h₁, h⟩ := Prog.bind_eq_fertig h
  obtain ⟨rfl, -⟩ := lies_fertig h₁
  obtain ⟨_, w₂, h₂, h⟩ := Prog.bind_eq_fertig h
  cases h₂
  obtain ⟨b₁, w₃, h₃, h⟩ := Prog.bind_eq_fertig h
  obtain ⟨-, rfl⟩ := ruf_fertig h₃
  cases b₁
  · cases h
  obtain ⟨b₂, w₄, h₄, h⟩ := Prog.bind_eq_fertig h
  obtain ⟨-, rfl⟩ := ruf_fertig h₄
  cases b₂
  · cases h
  obtain ⟨_, w₅, h₅, h⟩ := Prog.bind_eq_fertig h
  cases h₅
  obtain ⟨o, w₆, h₆, h⟩ := Prog.bind_eq_fertig h
  obtain ⟨hl, ho, rfl⟩ := neuesObjekt_fertig h₆
  obtain ⟨b₃, w₇, h₇, h⟩ := Prog.bind_eq_fertig h
  obtain ⟨-, rfl⟩ := ruf_fertig h₇
  rw [ho] at h
  cases b₃
  · obtain ⟨_, w₈, h₈, h⟩ := Prog.bind_eq_fertig h
    cases h₈
    cases h
  · obtain ⟨_, w₈, h₈, h⟩ := Prog.bind_eq_fertig h
    cases h₈
    obtain ⟨_, w₉, h₉, h⟩ := Prog.bind_eq_fertig h
    cases h₉
    cases h
    exact ⟨⟨.context, _, o.obj⟩, _, hl, rfl, rfl, setMem_same _ _ _, rfl, rfl⟩

/-- **What a successful `nvCreateContext` does**: the config id names a config, the scan over the
    build's table selects a codec for its profile, and a Context with that codec is added. -/
theorem nvCreateContext_erfolg {cfg : Nat} {pw ph n : Int} {rts : List Nat} {w w' : Welt}
    (h : nvCreateContext B cfg pw ph rts n w = .fertig .success w') :
    ∃ a cf codec, getObjectPtr w.drv cfg = some a ∧ w.drv.mem a = some (.config cf) ∧
      waehleCodec cf.profile B.codecs 0 none = some codec ∧ NeuerContext codec w w' := by
  unfold nvCreateContext at h
  rw [holeDrv_bind] at h
  rcases ha : getObjectPtr w.drv cfg with _ | a <;> rw [ha] at h <;> dsimp only at h
  · cases h
  obtain ⟨cf, w₁, h₁, h⟩ := Prog.bind_eq_fertig h
  obtain ⟨rfl, _, x, he, hx, hc⟩ := lies_fertig h₁
  cases he
  cases x <;> cases hc
  rcases hw : waehleCodec cf.profile B.codecs 0 none with _ | codec <;> rw [hw] at h <;>
    dsimp only at h
  · cases h
  refine ⟨a, cf, codec, rfl, hx, hw, ?_⟩
  split at h
  · rcases hr : rts.head? with _ | rt <;> rw [hr] at h <;> dsimp only at h
    · cases h
    rcases hs : getObjectPtr w.drv rt with _ | sa <;> rw [hs] at h <;> dsimp only at h
    · cases h
    obtain ⟨_, w₂, h₂, h⟩ := Prog.bind_eq_fertig h
    obtain ⟨rfl, -⟩ := lies_fertig h₂
    obtain ⟨_, w₃, h₃, h⟩ := Prog.bind_eq_fertig h
    obtain ⟨_, w₄, h₄, h₃⟩ := Prog.bind_eq_fertig h₃
    obtain ⟨rfl, -⟩ := lies_fertig h₄
    cases h₃
    refine (legeContextAn_erfolg h).vor (fun b hb => ?_) rfl
    by_cases hab : b = a
    · simp [speichere, aendereDrv, hab] at hb
    · simpa [speichere, aendereDrv, setMem, hab] using hb
  · exact legeContextAn_erfolg h

/-- **The Context `nvCreateContext` creates carries the last entry that lists the config's
    profile**: for every table `pre ++ c :: post` in which `c` lists the profile and no entry of
    `post` does, a successful call stores at a fresh address a Context with codec `pre.length`,
    also when an entry of `pre` lists the profile and the spec's choice is that earlier entry. -/
theorem codec_letzter_installiert {cfg a : Nat} {cf : NVConfig} {pw ph n : Int} {rts : List Nat}
    {w w' : Welt} {pre post : List NVCodec} {c : NVCodec} (hB : B.codecs = pre ++ c :: post)
    (hc : cf.profile ∈ c.supportedProfiles) (hpost : ∀ d ∈ post, cf.profile ∉ d.supportedProfiles)
    (ha : getObjectPtr w.drv cfg = some a) (hm : w.drv.mem a = some (.config cf))
    (h : nvCreateContext B cfg pw ph rts n w = .fertig .success w') :
    ∃ b ctx, w.drv.mem b = none ∧ w'.drv.mem b = some (.context ctx) ∧ ctx.codec = pre.length := by
  obtain ⟨a', cf', codec, ha', hm', hs, o, ctx, hb, -, -, hb', hc', -⟩ := nvCreateContext_erfolg B h
  rw [ha] at ha'
  cases ha'
  rw [hm] at hm'
  cases hm'
  rw [hB, waehleCodec_letzter hc hpost] at hs
  exact ⟨o.obj, ctx, hb, hb', hc'.trans (Option.some.inj hs).symm⟩

/-- A build whose table lists the example codec twice. -/
def doppelBau : Bau := ⟨[beispielCodec, beispielCodec], 4, false⟩

/-- A driver holding one `HEVCMain`/`VLD` config, id 1, at address 1. -/
def einConfig : NVDriver :=
  { objects := [⟨.config, 1, 1⟩], nextObjId := 1,
    mem := fun b => if b = 1 then some (.config { profile := .HEVCMain, entrypoint := .VLD }) else none }

/-- Both entries list `HEVCMain`; the spec picks entry 0, `nvCreateContext` installs entry 1. -/
theorem codec_letzter_installiert_beispiel :
    ersterCodec .HEVCMain doppelBau.codecs = some 0 ∧
      ∃ w' b ctx, nvCreateContext doppelBau 1 16 16 [] 0 { leereWelt with drv := einConfig } =
        .fertig .success w' ∧ einConfig.mem b = none ∧ w'.drv.mem b = some (.context ctx) ∧
        ctx.codec = 1 := by
  obtain ⟨w', h⟩ : ∃ w', nvCreateContext doppelBau 1 16 16 [] 0
      { leereWelt with drv := einConfig } = .fertig .success w' := ⟨_, rfl⟩
  have hB : doppelBau.codecs = [beispielCodec] ++ beispielCodec :: [] := rfl
  have hc : ({ profile := .HEVCMain, entrypoint := .VLD } : NVConfig).profile ∈
      beispielCodec.supportedProfiles := by decide
  exact ⟨rfl, w', codec_letzter_installiert doppelBau hB hc nofun (by rfl) (by rfl) h |>.imp
    fun _ ⟨ctx, hb⟩ => ⟨ctx, h, hb⟩⟩

/-! ## 3. `nvRenderPicture` -/

/-- **A buffer type past the handler table is an out-of-bounds read**: when the first buffer of
    the list is live, has memory, and its type is not below the length of the Context's codec's
    handler array, `nvRenderPicture` reads `codec->handlers[type]` outside the array instead of
    logging and skipping the buffer. -/
theorem render_ausserhalb {context a id : Nat} {ids : List Nat} {w : Welt} {ctx : NVContext}
    {codec : NVCodec} {o : Object} {buf : NVBuffer} (ha : getObjectPtr w.drv context = some a)
    (hc : w.drv.mem a = some (.context ctx)) (hk : B.codecs.get? ctx.codec = some codec)
    (ho : getObject w.drv id = some o) (hb : w.drv.mem o.obj = some (.buffer buf))
    (hp : buf.ptr.isSome) (ht : codec.handlers.length ≤ buf.bufferType) :
    nvRenderPicture B context (id :: ids) w = .abbruch .ausserhalb := by
  have hn : codec.handlers[buf.bufferType]? = none := List.getElem?_eq_none ht
  rw [List.get?_eq_getElem?] at hk
  simp [nvRenderPicture, rendereBuffers, ha, hc, hk, ho, hb, hn, Option.isSome_iff_ne_none.mp hp,
    liesBuffer, liesContext, lies, Payload.alsBuffer, Payload.alsContext, Prog.bind_apply,
    abbrechen]

/-- A build whose codec has handlers for the buffer types 0 and 1 only. -/
def handlerBau : Bau := ⟨[{ beispielCodec with handlers := [none, none] }], 4, false⟩

/-- `nvCreateBuffer` checks no type: the buffer a successful call registers, at an address that
    was free, carries the type the client passed and has memory. -/
theorem nvCreateBuffer_typ {context type size n : Nat} {data : Option Nat} {w w' : Welt}
    (h : nvCreateBuffer context type size n data w = .fertig .success w') :
    ∃ b buf, w.drv.mem b = none ∧ w'.drv.mem b = some (.buffer buf) ∧ buf.bufferType = type ∧
      buf.ptr.isSome := by
  unfold nvCreateBuffer at h
  rw [holeDrv_bind] at h
  rcases hc : getObjectPtr w.drv context with _ | a <;> rw [hc] at h <;> dsimp only at h
  · cases h
  obtain ⟨_, w₁, h₁, h⟩ := Prog.bind_eq_fertig h
  obtain ⟨rfl, -⟩ := lies_fertig h₁
  obtain ⟨o, w₂, h₂, h⟩ := Prog.bind_eq_fertig h
  obtain ⟨hl, ho, rfl⟩ := neuesObjekt_fertig h₂
  obtain ⟨_, w₃, h₃, h⟩ := Prog.bind_eq_fertig h
  cases h₃
  obtain ⟨b₁, w₄, h₄, h⟩ := Prog.bind_eq_fertig h
  obtain ⟨-, rfl⟩ := ruf_fertig h₄
  cases b₁
  · cases h
  obtain ⟨_, w₅, h₅, h⟩ := Prog.bind_eq_fertig h
  cases h
  obtain ⟨_, w₆, h₆, h₅⟩ := Prog.bind_eq_fertig h₅
  obtain ⟨rfl, _, _, he, hx, hb⟩ := lies_fertig h₆
  cases he
  cases h₅
  rw [ho] at hx
  simp only [allocateObject, setMem_same, Option.some.injEq] at hx
  subst hx
  cases hb
  exact ⟨o.obj, _, hl, setMem_same _ _ _, rfl, rfl⟩

/-- A driver holding Context 2 (at address 2, codec 0) and a buffer (id 3, at address 3) of type
    2 with memory. -/
def einPuffer : NVDriver :=
  { objects := [⟨.context, 2, 2⟩, ⟨.buffer, 3, 3⟩], nextObjId := 3,
    mem := fun b => if b = 2 then some (.context {})
      else if b = 3 then some (.buffer { bufferType := 2, ptr := some 3 }) else none }

/-- With handlers for the types 0 and 1 only, a buffer of type 2 is read past the table. -/
theorem render_ausserhalb_beispiel :
    nvRenderPicture handlerBau 2 [3] { leereWelt with drv := einPuffer } = .abbruch .ausserhalb :=
  render_ausserhalb handlerBau (by rfl) (by rfl) (by rfl) (by rfl) (by rfl) (by rfl) (by decide)

/-! ## 4. `nvQueryConfigProfiles` -/

@[simp] theorem schiebeLinks_length (l : List VAProfile) (i n : Nat) :
    (schiebeLinks l i n).length = l.length := by
  simp only [schiebeLinks, List.length_map, List.length_range]

/-- The shift of the compaction: below `n - 1`, positions from `i` on take their right
    neighbour. -/
theorem schiebeLinks_take {l : List VAProfile} {i n : Nat} (hi : i < n) (hn : n ≤ l.length) :
    (schiebeLinks l i n).take (n - 1) = l.take i ++ (l.take n).drop (i + 1) := by
  apply List.ext_getElem
  · simp only [List.length_take, schiebeLinks_length, List.length_append, List.length_drop]
    omega
  intro x h₁ h₂
  simp only [schiebeLinks, List.getElem_take, List.getElem_map, List.getElem_range]
  have hx₁ : x < n - 1 := by rw [List.length_take] at h₁; omega
  have hl : (l.take i).length = i := List.length_take_of_le (by omega)
  split_ifs with hx
  · simp only [List.getElem_append_right (by omega : (l.take i).length ≤ x), List.getElem_drop,
      List.getElem_take, List.getD_eq_getElem _ _ (by omega : x + 1 < l.length), hl]
    congr 1
    omega
  · simp only [List.getElem_append_left (by omega : x < (l.take i).length), List.getElem_take,
      List.getD_eq_getElem _ _ (by omega : x < l.length)]

/-- What `nvCreateConfig`'s profile check accepts: a profile some codec translates. -/
def uebersetzbar (cs : List NVCodec) (p : VAProfile) : Bool := vaToCuCodec cs p != .NONE

/-- The segment `[i, n)` of the shifted list is the old one without its first entry. -/
theorem schiebeLinks_teile {l : List VAProfile} {i n : Nat} (hi : i < n) (hn : n ≤ l.length) :
    (schiebeLinks l i n).take i = l.take i ∧
      ((schiebeLinks l i n).take (n - 1)).drop i = (l.take n).drop (i + 1) := by
  have hs := schiebeLinks_take hi hn
  have hl : (l.take i).length = i := List.length_take_of_le (by omega)
  refine ⟨?_, by rw [hs, List.drop_left' hl]⟩
  calc (schiebeLinks l i n).take i = ((schiebeLinks l i n).take (n - 1)).take i := by
        rw [List.take_take, min_eq_left (by omega)]
    _ = l.take i := by rw [hs, List.take_left' hl]

/-- **The compaction loop removes exactly the untranslatable profiles of `[i, n)`, in order**, and
    leaves the list's length; `n - i` rounds suffice. -/
theorem verdichte_filter (cs : List NVCodec) (fuel : Nat) (l : List VAProfile) (i n : Nat)
    (hi : i ≤ n) (hn : n ≤ l.length) (hf : n - i ≤ fuel) :
    (verdichte cs fuel l i n).1.length = l.length ∧ (verdichte cs fuel l i n).2 ≤ n ∧
      (verdichte cs fuel l i n).1.take (verdichte cs fuel l i n).2 =
        l.take i ++ ((l.take n).drop i).filter (uebersetzbar cs) := by
  induction fuel generalizing l i n with
  | zero =>
    obtain rfl : i = n := by omega
    simp [verdichte, List.drop_eq_nil_of_le (List.length_take_le i l)]
  | succ fuel ih =>
    rw [verdichte]
    split_ifs with h₁ h₂
    · obtain ⟨e₁, e₂, e₃⟩ := ih (schiebeLinks l i n) i (n - 1) (by omega) (by simp; omega) (by omega)
      obtain ⟨t₁, t₂⟩ := schiebeLinks_teile h₁ hn
      refine ⟨e₁.trans (schiebeLinks_length l i n), e₂.trans (Nat.sub_le n 1), e₃.trans ?_⟩
      rw [t₁, t₂]
      conv_rhs => rw [List.drop_eq_getElem_cons (n := i) (by simp; omega)]
      rw [List.filter_cons_of_neg]
      simpa [uebersetzbar, List.getElem?_eq_getElem (show i < l.length by omega)] using h₂
    · obtain ⟨e₁, e₂, e₃⟩ := ih l (i + 1) n h₁ hn (by omega)
      refine ⟨e₁, e₂, e₃.trans ?_⟩
      have hl : i < l.length := by omega
      conv_rhs => rw [List.drop_eq_getElem_cons (n := i) (by simp; omega)]
      rw [List.filter_cons_of_pos (by simpa [uebersetzbar, List.getElem?_eq_getElem hl] using h₂),
        List.take_succ, List.getElem?_eq_getElem hl, List.getElem_take]
      simp only [Option.toList_some, List.append_assoc, List.singleton_append]
    · obtain rfl : i = n := by omega
      simp [List.drop_eq_nil_of_le (List.length_take_le i l)]

/-- `nvCreateConfig`'s profile check: a profile some codec translates is not refused as
    unsupported. -/
theorem nvCreateConfig_profil {p : VAProfile} (hp : uebersetzbar B.codecs p = true)
    {e : VAEntrypoint} {attribs : List VAConfigAttrib} {w w' : Welt} {st : VAStatus}
    (h : nvCreateConfig B p e attribs w = .fertig st w') : st ≠ .errorUnsupportedProfile := by
  have hp' : vaToCuCodec B.codecs p ≠ .NONE := by simpa [uebersetzbar] using hp
  unfold nvCreateConfig at h
  rw [if_neg hp'] at h
  split at h
  · cases h
    nofun
  · obtain ⟨_, _, -, h⟩ := Prog.bind_eq_fertig h
    obtain ⟨_, _, -, h⟩ := Prog.bind_eq_fertig h
    obtain ⟨_, _, -, h⟩ := Prog.bind_eq_fertig h
    cases h
    nofun

/-- **`nvQueryConfigProfiles` advertises exactly the translatable candidates**: for every answer
    of the capability probes and every setting of the two caps flags, the list a successful call
    returns is the candidate list its probes built with every profile `vaToCuCodec` maps to
    `NONE` removed and the others in their order, `*num_profiles` is its length, and
    `nvCreateConfig` refuses none of them as unsupported. -/
theorem profile_uebersetzbar {w w' : Welt} {l : List VAProfile}
    (h : nvQueryConfigProfiles B w = .fertig (.success, l) w') :
    ∃ kand w₁, sammleProfile (profilProben w.drv B.va120)
        { w with spur := w.spur ++ [(.cuCtxPushCurrent, true)] } = .fertig kand w₁ ∧
      l = kand.filter (uebersetzbar B.codecs) ∧
      (verdichte B.codecs kand.length kand 0 kand.length).2 = l.length ∧
      ∀ p ∈ l, ∀ e attribs w₀ st w₀', nvCreateConfig B p e attribs w₀ = .fertig st w₀' →
        st ≠ .errorUnsupportedProfile := by
  unfold nvQueryConfigProfiles pruefeRuf at h
  obtain ⟨b₁, w₁, h₁, h⟩ := Prog.bind_eq_fertig h
  obtain ⟨-, rfl⟩ := ruf_fertig h₁
  cases b₁
  · cases h
  obtain ⟨_, w₂, h₂, h⟩ := Prog.bind_eq_fertig h
  cases h₂
  obtain ⟨kand, w₃, h₃, h⟩ := Prog.bind_eq_fertig h
  obtain ⟨b₂, w₄, h₄, h⟩ := Prog.bind_eq_fertig h
  obtain ⟨-, rfl⟩ := ruf_fertig h₄
  cases b₂
  · cases h
  cases h
  obtain ⟨hlen, hle, ht⟩ := verdichte_filter B.codecs kand.length kand 0 kand.length (Nat.zero_le _)
    le_rfl (by simp)
  rw [List.take_zero, List.nil_append, List.drop_zero, List.take_length] at ht
  refine ⟨kand, w₃, h₃, ht, by rw [List.length_take, hlen, min_eq_left hle],
    fun p hp _ _ _ _ _ => nvCreateConfig_profil B ?_⟩
  rw [ht] at hp
  exact (List.mem_filter.mp hp).2

/-- A GPU whose probes answer yes for MPEG-2, 8-bit HEVC and AV1 (the push is call 0, the probes
    calls 1 to 11, the pop call 12): of its four candidates only `HEVCMain` translates, with two
    adjacent untranslatable profiles before it and one after it. -/
def mpegHevcAv1 : Welt := { leereWelt with orakel := fun k => k = 0 ∨ k = 1 ∨ k = 8 ∨ k = 11 ∨ k = 12 }

set_option smartUnfolding false in
theorem profile_uebersetzbar_beispiel :
    ∃ w', nvQueryConfigProfiles beispielBau mpegHevcAv1 = .fertig (.success, [.HEVCMain]) w' ∧
      ∃ kand w₁, sammleProfile (profilProben mpegHevcAv1.drv beispielBau.va120)
          { mpegHevcAv1 with spur := mpegHevcAv1.spur ++ [(.cuCtxPushCurrent, true)] } =
          .fertig kand w₁ ∧
        kand = [.MPEG2Simple, .MPEG2Main, .HEVCMain, .AV1Profile0] ∧
        [.HEVCMain] = kand.filter (uebersetzbar beispielBau.codecs) ∧
        (verdichte beispielBau.codecs kand.length kand 0 kand.length).2 = [VAProfile.HEVCMain].length ∧
        ∀ p ∈ [VAProfile.HEVCMain], ∀ e attribs w₀ st w₀',
          nvCreateConfig beispielBau p e attribs w₀ = .fertig st w₀' → st ≠ .errorUnsupportedProfile := by
  obtain ⟨w', h⟩ := Ausgang.eq_fertig_of_wert
    (show (nvQueryConfigProfiles beispielBau mpegHevcAv1).wert = some (.success, [.HEVCMain]) by decide)
  obtain ⟨kand, w₁, h₁, hl, hn, hc⟩ := profile_uebersetzbar beispielBau h
  have hk : (sammleProfile (profilProben mpegHevcAv1.drv beispielBau.va120)
      { mpegHevcAv1 with spur := mpegHevcAv1.spur ++ [(.cuCtxPushCurrent, true)] }).wert =
      some [.MPEG2Simple, .MPEG2Main, .HEVCMain, .AV1Profile0] := by decide
  rw [h₁] at hk
  exact ⟨w', h, kand, w₁, h₁, Option.some.inj hk, hl, hn, hc⟩

end NvdecVaapi
