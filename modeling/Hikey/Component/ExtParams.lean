import Hikey.Foundation.Align

/-!
# Extended parameters in a message (`audio/xa-class-base.c`)

The functions `xa_base_set_param_ext` and `xa_base_get_param_ext` with the bytes of a message: each
descriptor, of an index and a length, is followed by its data, which is padded to a multiple of 4.
Offsets are relative to the buffer of the message.  The plugin is handed the index and the place of
the data, but not its length: how many bytes it reads and writes there is its own choice.

A length of a descriptor is rounded up in 16 bits, and so is the length of a message in
`xa_base_set_param_ext`.  With `XF_TRACE` the bytes of the message are traced in rows of 16, and the
first four bytes of each parameter.
-/

namespace Hikey

/-! ## The source -/

/-- A half word of the message. -/
def extHalf (mem : ℕ → UInt8) (i : ℕ) : BitVec 16 := (mem (i + 1)).toBitVec ++ (mem i).toBitVec

/-- `n` bytes of the message. -/
def extBytes (mem : ℕ → UInt8) (i n : ℕ) : List UInt8 := (List.range n).map fun j => mem (i + j)

/-- The message with some bytes overwritten. -/
def extWrite (mem : ℕ → UInt8) (i : ℕ) (bytes : List UInt8) (a : ℕ) : UInt8 :=
  if i ≤ a then (bytes[a - i]?).getD (mem a) else mem a

/-- A parameter that is handed to the plugin, with the offset of its data.  The data are the padded
bytes of the descriptor, or as many as the plugin accesses, if that are more. -/
structure XaExtParam where
  id : BitVec 16
  offset : ℕ
  data : List UInt8
deriving DecidableEq

/-- The plugin: how many bytes it accesses for a parameter, and what it writes to them; `none` is an
error of fatal severity.  Its state is given by the parameters that it has got before. -/
structure XaExtPlugin where
  size : List XaExtParam → BitVec 16 → ℕ
  answer : List XaExtParam → BitVec 16 → List UInt8 → Option (List UInt8)

/-- The plugin accepts a parameter after other ones. -/
def XaExtPlugin.accepts (plugin : XaExtPlugin) (before : List XaExtParam) (p : XaExtParam) : Bool :=
  (plugin.answer before p.id (p.data.take (plugin.size before p.id))).isSome

/-- A call: the bytes of the message, the parameters handed over so far, and the places in the
message, with their lengths, that have been read or written. -/
structure XaExtRun where
  mem : ℕ → UInt8
  params : List XaExtParam
  touched : List (ℕ × ℕ)

/-- A place is read or written. -/
def XaExtRun.touch (r : XaExtRun) (i n : ℕ) : XaExtRun :=
  { r with touched := r.touched ++ [(i, n)] }

/-- The bytes behind the data are filled with zeros. -/
def XaExtRun.pad (r : XaExtRun) (data : ℕ) (dlen : BitVec 16) : XaExtRun :=
  let pad := dlen &&& 3#16
  if pad ≠ 0#16 then
    { r.touch (data + dlen.toNat) (4 - pad.toNat) with
      mem := extWrite r.mem (data + dlen.toNat) (List.replicate (4 - pad.toNat) 0) }
  else r

/-- `XA_API`, and whether it succeeds.  The plugin is not told the length. -/
def XaExtRun.api (r : XaExtRun) (plugin : XaExtPlugin) (id : BitVec 16) (data : ℕ)
    (dlen : BitVec 16) : Bool × XaExtRun :=
  let size := plugin.size r.params id
  let answer := plugin.answer r.params id (extBytes r.mem data size)
  let p : XaExtParam := ⟨id, data, extBytes r.mem data (max (alignUp 4 dlen.toNat) size)⟩
  let r := { r.touch data size with params := r.params ++ [p] }
  match answer with
  | none => (false, r)
  | some answer => (true, { r with mem := extWrite r.mem data (answer.take size) })

/-- The two commands. -/
inductive XaExtCmd
  | set
  | get
deriving DecidableEq, Repr

/-- The first bytes of the data in a trace. -/
def XaExtRun.traceData (r : XaExtRun) (trace : Bool) (data : ℕ) : XaExtRun :=
  if trace then r.touch data 4 else r

/-- The data is padded before it is set, and after it has been got. -/
def XaExtRun.param (r : XaExtRun) (trace : Bool) (cmd : XaExtCmd) (plugin : XaExtPlugin)
    (id : BitVec 16) (data : ℕ)
    (dlen : BitVec 16) : Bool × XaExtRun :=
  match cmd with
  | .set => ((r.pad data dlen).traceData trace data).api plugin id data dlen
  | .get =>
    let res := r.api plugin id data dlen
    if res.1 then (true, (res.2.pad data dlen).traceData trace data) else (false, res.2)

/-- The loop over the descriptors from offset `off` on; the remaining length is that of a 16-bit and
of a 32-bit variable.  It tells whether the message is accepted. -/
def xaExtLoop {w : ℕ} (trace : Bool) (cmd : XaExtCmd) (plugin : XaExtPlugin) :
    ℕ → ℕ → BitVec w → XaExtRun → Bool × XaExtRun
  | 0, _, remaining, r => (remaining = 0#w, r)
  | fuel + 1, off, remaining, r =>
    if 4#w ≤ remaining then
      let r := r.touch off 4
      let id := extHalf r.mem off
      let dlen := extHalf r.mem (off + 2)
      let dsize := (dlen + 3#16) &&& ~~~3#16
      let remaining := remaining - 4#w
      if dsize.setWidth w ≤ remaining then
        let res := r.param trace cmd plugin id (off + 4) dlen
        if res.1 then xaExtLoop trace cmd plugin fuel (off + 4 + dsize.toNat)
          (remaining - dsize.setWidth w) res.2
        else res
      else (false, r)
    else (remaining = 0#w, r)

/-- The rows of the message in a trace, from byte `i` on; they never end if `i` wraps around. -/
def xaExtRows {w : ℕ} (remaining : BitVec w) : ℕ → BitVec w → XaExtRun → Option XaExtRun
  | 0, _, _ => none
  | fuel + 1, i, r =>
    if i < remaining then xaExtRows remaining fuel (i + 16#w) (r.touch i.toNat 16) else some r

/-- The trace of the message. -/
def xaExtTraced {w : ℕ} (trace : Bool) (mem : ℕ → UInt8) (remaining : BitVec w) : Option XaExtRun :=
  if trace then xaExtRows remaining (remaining.toNat / 16 + 2) 0#w ⟨mem, [], []⟩
    else some ⟨mem, [], []⟩

/-- The trace and the loop from the start of a message on. -/
def xaExtRun {w : ℕ} (trace : Bool) (cmd : XaExtCmd) (plugin : XaExtPlugin) (mem : ℕ → UInt8)
    (remaining : BitVec w) :
    Option (Bool × XaExtRun) :=
  (xaExtTraced trace mem remaining).map fun r =>
    xaExtLoop trace cmd plugin remaining.toNat 0 remaining r

/-- `xa_base_set_param_ext`. -/
def xaBaseSetParamExtBytes (trace : Bool) (plugin : XaExtPlugin) (mem : ℕ → UInt8) (length : U32) :
    Option (Bool × XaExtRun) :=
  let length := length.setWidth 16
  let remaining := (length + 3#16) &&& ~~~3#16
  xaExtRun trace .set plugin mem remaining

/-- `xa_base_get_param_ext`. -/
def xaBaseGetParamExtBytes (trace : Bool) (plugin : XaExtPlugin) (mem : ℕ → UInt8) (length : U32) :
    Option (Bool × XaExtRun) :=
  let remaining := (length + 3#32) &&& ~~~3#32
  xaExtRun trace .get plugin mem remaining

/-! ## Messages -/

/-- The length in the descriptor at an offset. -/
def extLength (mem : ℕ → UInt8) (off : ℕ) : ℕ := (extHalf mem (off + 2)).toNat

/-- The padded data of a descriptor: with zeros where it is to be set, and as it stands where it is
to be got. -/
def extData (cmd : XaExtCmd) (mem : ℕ → UInt8) (data dlen : ℕ) : List UInt8 :=
  match cmd with
  | .set => extBytes mem data dlen ++ List.replicate (alignUp 4 dlen - dlen) 0
  | .get => extBytes mem data (alignUp 4 dlen)

/-- The parameter of the descriptor at an offset. -/
def extParamAt (cmd : XaExtCmd) (mem : ℕ → UInt8) (off : ℕ) : XaExtParam :=
  ⟨extHalf mem off, off + 4, extData cmd mem (off + 4) (extLength mem off)⟩

/-- The offset behind a descriptor and its padded data. -/
def extNext (mem : ℕ → UInt8) (off : ℕ) : ℕ := off + 4 + alignUp 4 (extLength mem off)

/-- The bytes from one offset to another are descriptors, each followed by its padded data. -/
inductive ExtParams (cmd : XaExtCmd) (mem : ℕ → UInt8) : ℕ → ℕ → List XaExtParam → Prop
  | nil (off : ℕ) : ExtParams cmd mem off off []
  | cons {off stop : ℕ} {ps : List XaExtParam} (h : ExtParams cmd mem (extNext mem off) stop ps) :
    ExtParams cmd mem off stop (extParamAt cmd mem off :: ps)

/-- The plugin accepts some parameters, after other ones. -/
def XaExtPlugin.Accepts (plugin : XaExtPlugin) : List XaExtParam → List XaExtParam → Prop
  | _, [] => True
  | before, p :: ps => plugin.accepts before p = true ∧ plugin.Accepts (before ++ [p]) ps

/-- A message of `stop` bytes consists of parameters that the plugin accepts. -/
def ExtWellFormed (cmd : XaExtCmd) (plugin : XaExtPlugin) (mem : ℕ → UInt8) (stop : ℕ) : Prop :=
  ∃ ps, ExtParams cmd mem 0 stop ps ∧ plugin.Accepts [] ps

/-- A call for a message of `stop` bytes, with its padding: it stays inside of the message, accepts
it if it consists of parameters that the plugin accepts, and has then handed over just these.  What
it hands over are always the first parameters of the message. -/
structure ExtExact (cmd : XaExtCmd) (plugin : XaExtPlugin) (mem : ℕ → UInt8) (stop : ℕ)
    (res : Bool × XaExtRun) : Prop where
  inside : ∀ place ∈ res.2.touched, place.1 + place.2 ≤ stop
  accepted : res.1 = true ↔ ExtWellFormed cmd plugin mem stop
  params : res.1 = true → ∀ ps, ExtParams cmd mem 0 stop ps → res.2.params = ps
  first : ∃ reached ≤ stop, ExtParams cmd mem 0 reached res.2.params

/-- A call ends, and does so. -/
def ExtHandled (cmd : XaExtCmd) (plugin : XaExtPlugin) (mem : ℕ → UInt8) (stop : ℕ)
    (res : Option (Bool × XaExtRun)) : Prop :=
  ∃ call, res = some call ∧ ExtExact cmd plugin mem stop call

/-- No descriptor that is reached from an offset on, after some parameters, has a length that is
rounded up to `2 ^ 16`. -/
def ExtShort (cmd : XaExtCmd) (plugin : XaExtPlugin) (mem : ℕ → UInt8) (before : List XaExtParam)
    (off stop : ℕ) : Prop :=
  ∀ reached ps, ExtParams cmd mem off reached ps → plugin.Accepts before ps → reached + 4 ≤ stop →
    extLength mem reached ≤ 65532

/-- For each parameter that is reached, and is inside of the message, the plugin accesses only its
padded data. -/
def ExtRoom (cmd : XaExtCmd) (plugin : XaExtPlugin) (mem : ℕ → UInt8) (before : List XaExtParam)
    (off stop : ℕ) : Prop :=
  ∀ reached ps, ExtParams cmd mem off reached ps → plugin.Accepts before ps →
    extNext mem reached ≤ stop →
      plugin.size (before ++ ps) (extHalf mem reached) ≤ alignUp 4 (extLength mem reached)

/-- A parameter at the end of a message has data, if it is traced: before it is set, and after it
has been got. -/
def ExtTraced (trace : Bool) (cmd : XaExtCmd) (plugin : XaExtPlugin) (mem : ℕ → UInt8)
    (before : List XaExtParam) (off stop : ℕ) : Prop :=
  trace = true → ∀ reached ps, ExtParams cmd mem off reached ps → plugin.Accepts before ps →
    reached + 4 = stop →
    cmd = .set ∨ plugin.accepts (before ++ ps) (extParamAt cmd mem reached) = true →
      extLength mem reached ≠ 0

/-- A message with lengths that are not rounded up to `2 ^ 16` and data that is as long as the
plugin takes it to be, whose traces stay inside of it. -/
structure ExtFits (trace : Bool) (cmd : XaExtCmd) (plugin : XaExtPlugin) (mem : ℕ → UInt8)
    (stop : ℕ) : Prop where
  short : ExtShort cmd plugin mem [] 0 stop
  room : ExtRoom cmd plugin mem [] 0 stop
  rows : trace = true → 16 ∣ stop
  traced : ExtTraced trace cmd plugin mem [] 0 stop

/-! ## Bytes -/

section Bytes

variable {mem mem' : ℕ → UInt8} {i n a : ℕ} {bytes : List UInt8}

lemma extWrite_of_lt (h : a < i) : extWrite mem i bytes a = mem a := if_neg (by omega)

lemma extWrite_of_le (h : i + bytes.length ≤ a) : extWrite mem i bytes a = mem a := by
  rw [extWrite, if_pos (by omega), List.getElem?_eq_none (by omega)]
  rfl

lemma extBytes_congr (h : ∀ a, i ≤ a → a < i + n → mem a = mem' a) :
    extBytes mem i n = extBytes mem' i n := by
  refine List.map_congr_left fun j hj => h _ (by omega) ?_
  have hlt := List.mem_range.mp hj
  omega

lemma extBytes_take (mem : ℕ → UInt8) (i n k : ℕ) (h : k ≤ n) :
    (extBytes mem i n).take k = extBytes mem i k := by
  rw [extBytes, ← List.map_take, List.take_range, min_eq_left h, extBytes]

lemma extBytes_length (mem : ℕ → UInt8) (i n : ℕ) : (extBytes mem i n).length = n := by
  rw [extBytes, List.length_map, List.length_range]

lemma extBytes_add (mem : ℕ → UInt8) (i n k : ℕ) :
    extBytes mem i (n + k) = extBytes mem i n ++ extBytes mem (i + n) k := by
  simp only [extBytes, List.range_add, List.map_append, List.map_map, Function.comp_def, add_assoc]

lemma extBytes_eq_replicate (h : ∀ a, i ≤ a → a < i + n → mem a = 0) :
    extBytes mem i n = List.replicate n 0 := by
  refine List.eq_replicate_iff.mpr ⟨extBytes_length mem i n, fun b hb => ?_⟩
  obtain ⟨j, hj, rfl⟩ := List.mem_map.mp hb
  have hlt := List.mem_range.mp hj
  exact h _ (by omega) (by omega)

/-- There are as many bytes of data as its rounded length says. -/
lemma extData_length (cmd : XaExtCmd) (mem : ℕ → UInt8) (data dlen : ℕ) :
    (extData cmd mem data dlen).length = alignUp 4 dlen := by
  have hle := le_alignUp (n := dlen) (by decide : 0 < 4)
  cases cmd with
  | set => rw [extData, List.length_append, extBytes_length, List.length_replicate,
      Nat.add_sub_cancel' hle]
  | get => rw [extData, extBytes_length]

lemma extHalf_congr (h : ∀ a, i ≤ a → mem a = mem' a) : extHalf mem i = extHalf mem' i := by
  rw [extHalf, extHalf, h i le_rfl, h (i + 1) (by omega)]

lemma extNext_gt (mem : ℕ → UInt8) (off : ℕ) : off + 4 ≤ extNext mem off := by
  rw [extNext]
  omega

/-- Parameters end behind their start. -/
lemma ExtParams.le {cmd : XaExtCmd} {off stop : ℕ} {ps : List XaExtParam}
    (h : ExtParams cmd mem off stop ps) : off ≤ stop := by
  induction h with
  | nil off => exact le_rfl
  | @cons off stop ps h ih => exact (Nat.le_add_right off 4).trans ((extNext_gt mem off).trans ih)

/-- Parameters determine where they end. -/
lemma ExtParams.stop_unique {cmd : XaExtCmd} {off stop stop' : ℕ} {ps : List XaExtParam}
    (h : ExtParams cmd mem off stop ps) (h' : ExtParams cmd mem off stop' ps) : stop = stop' := by
  induction h with
  | nil off =>
    cases h'
    rfl
  | cons h ih =>
    cases h' with
    | cons h' => exact ih h'

/-- The rounded length, unless it wraps around. -/
lemma toNat_dsize {dlen : BitVec 16} (h : dlen.toNat ≤ 65532) :
    ((dlen + 3#16) &&& ~~~3#16).toNat = alignUp 4 dlen.toNat := by
  have hfour : (4#16).toNat = 2 ^ 2 := rfl
  have hthree : 4#16 - 1 = 3#16 := rfl
  have halign := toNat_align dlen hfour (by omega)
  rw [hthree] at halign
  exact halign

end Bytes

/-! ## A parameter -/

section Param

variable {plugin : XaExtPlugin} {r : XaExtRun} {cmd : XaExtCmd} {id dlen : BitVec 16} {data : ℕ}

/-- A call or the padding for one parameter: it changes only the bytes from `start` to `stop`, and
touches none from `reach` on. -/
structure XaExtKeeps (r r' : XaExtRun) (start stop reach : ℕ) : Prop where
  touched : ∀ place ∈ r'.touched, place ∈ r.touched ∨ place.1 + place.2 ≤ reach
  monotone : ∀ place ∈ r.touched, place ∈ r'.touched
  before : ∀ a < start, r'.mem a = r.mem a
  behind : ∀ a, stop ≤ a → r'.mem a = r.mem a

lemma XaExtKeeps.trans {r' r'' : XaExtRun} {start stop reach : ℕ}
    (h : XaExtKeeps r r' start stop reach)
    (h' : XaExtKeeps r' r'' start stop reach) : XaExtKeeps r r'' start stop reach where
  touched place hplace := (h'.touched place hplace).elim (h.touched place) .inr
  monotone place hplace := h'.monotone place (h.monotone place hplace)
  before a ha := (h'.before a ha).trans (h.before a ha)
  behind a ha := (h'.behind a ha).trans (h.behind a ha)

lemma XaExtKeeps.mono {r' : XaExtRun} {start start' stop reach reach' : ℕ}
    (h : XaExtKeeps r r' start stop reach)
    (hstart : start' ≤ start) (hreach : reach ≤ reach') : XaExtKeeps r r' start' stop reach' where
  touched place hplace := (h.touched place hplace).imp_right fun hle => hle.trans hreach
  monotone := h.monotone
  before a ha := h.before a (ha.trans_le hstart)
  behind := h.behind

/-- Places that are touched. -/
lemma mem_touch {place : ℕ × ℕ} {i n reach : ℕ} (h : place ∈ (r.touch i n).touched)
    (hle : i + n ≤ reach) :
    place ∈ r.touched ∨ place.1 + place.2 ≤ reach := by
  rcases List.mem_append.mp h with hold | hnew
  · exact .inl hold
  · obtain rfl := List.mem_singleton.mp hnew
    exact .inr hle

lemma touch_mono {place : ℕ × ℕ} (i n : ℕ) (h : place ∈ r.touched) :
    place ∈ (r.touch i n).touched :=
  List.mem_append_left _ h

/-- The bits that tell how much padding there is. -/
lemma toNat_pad (dlen : BitVec 16) : (dlen &&& 3#16).toNat = dlen.toNat % 4 := by
  have hmask : (3#16).toNat = 2 ^ 2 - 1 := rfl
  rw [BitVec.toNat_and, hmask, Nat.and_two_pow_sub_one_eq_mod]

/-- The padding reaches up to the rounded length. -/
lemma pad_end (dlen : ℕ) (h : dlen % 4 ≠ 0) : dlen + (4 - dlen % 4) = alignUp 4 dlen := by
  rw [alignUp]
  omega

/-- Up to where a parameter is touched: at least four bytes of it if it is traced. -/
def extSpan (trace : Bool) (dlen : ℕ) : ℕ :=
  if trace then max 4 (alignUp 4 dlen) else alignUp 4 dlen

lemma alignUp_le_extSpan (trace : Bool) (dlen : ℕ) : alignUp 4 dlen ≤ extSpan trace dlen := by
  cases trace with
  | false => exact le_rfl
  | true => exact le_max_right _ _

lemma XaExtRun.pad_keeps (r : XaExtRun) (data : ℕ) (dlen : BitVec 16) :
    XaExtKeeps r (r.pad data dlen) (data + dlen.toNat) (data + alignUp 4 dlen.toNat)
        (data + alignUp 4 dlen.toNat) ∧
      (r.pad data dlen).params = r.params := by
  have hpad := toNat_pad dlen
  simp only [XaExtRun.pad]
  split
  case isTrue hne =>
    have hmod : dlen.toNat % 4 ≠ 0 := by
      intro hzero
      refine hne (BitVec.eq_of_toNat_eq ?_)
      rw [hpad, hzero]
      rfl
    have hend := pad_end _ hmod
    rw [hpad]
    refine ⟨⟨fun place hplace => mem_touch hplace ?_, fun place hplace => touch_mono _ _ hplace,
      fun a ha => extWrite_of_lt ha, fun a ha => extWrite_of_le ?_⟩, rfl⟩
    · omega
    · rw [List.length_replicate]
      omega
  case isFalse => exact ⟨⟨fun _ => .inl, fun _ => id, fun _ _ => rfl, fun _ _ => rfl⟩, rfl⟩

/-- The padding makes the data that of a parameter to be set. -/
lemma XaExtRun.pad_data (r : XaExtRun) (data : ℕ) (dlen : BitVec 16) :
    extBytes (r.pad data dlen).mem data (alignUp 4 dlen.toNat) =
      extData .set r.mem data dlen.toNat := by
  have hle := le_alignUp (n := dlen.toNat) (by decide : 0 < 4)
  have hbefore : extBytes (r.pad data dlen).mem data dlen.toNat = extBytes r.mem data dlen.toNat :=
    extBytes_congr fun a _ ha => (r.pad_keeps data dlen).1.before a ha
  obtain ⟨k, hk⟩ := Nat.exists_eq_add_of_le hle
  rw [extData, hk, extBytes_add, hbefore, Nat.add_sub_cancel_left]
  refine congrArg _ (extBytes_eq_replicate fun a hstart hend => ?_)
  have hpad := toNat_pad dlen
  simp only [XaExtRun.pad]
  split
  case isTrue hne =>
    have hmod : dlen.toNat % 4 ≠ 0 := by
      intro hzero
      exact hne (BitVec.eq_of_toNat_eq (hpad.trans hzero))
    have hup := pad_end _ hmod
    have hlt : a - (data + dlen.toNat) < 4 - dlen.toNat % 4 := by omega
    rw [hpad]
    simp only [extWrite, if_pos hstart, List.getElem?_replicate, if_pos hlt, Option.getD_some]
  case isFalse heq =>
    -- without padding the rounded length is the length
    have hzero : dlen.toNat % 4 = 0 := by
      rw [← hpad, not_not.mp heq]
      rfl
    rw [alignUp_of_dvd (by decide) (Nat.dvd_of_mod_eq_zero hzero)] at hk
    omega

/-- The trace of a parameter changes nothing. -/
lemma XaExtRun.traceData_keeps (r : XaExtRun) (trace : Bool) (data dlen : ℕ) :
    XaExtKeeps r (r.traceData trace data) data (data + alignUp 4 dlen) (data + extSpan trace dlen) ∧
      (r.traceData trace data).params = r.params ∧ (r.traceData trace data).mem = r.mem ∧
      (trace = true → (data, 4) ∈ (r.traceData trace data).touched) := by
  cases trace with
  | false =>
    exact ⟨⟨fun _ => .inl, fun _ => id, fun _ _ => rfl, fun _ _ => rfl⟩, rfl, rfl,
      fun h => by cases h⟩
  | true =>
    refine ⟨⟨fun place hplace => mem_touch hplace (Nat.add_le_add_left (le_max_left _ _) data),
      fun place hplace => touch_mono _ _ hplace, fun _ _ => rfl, fun _ _ => rfl⟩, rfl,
        rfl, fun _ => ?_⟩
    exact List.mem_append_right _ (List.mem_singleton_self _)

/-- The plugin is called, and has then got the parameter. -/
structure XaExtHands (r : XaExtRun) (plugin : XaExtPlugin) (id : BitVec 16) (data : ℕ)
    (dlen : BitVec 16) (r' : XaExtRun) : Prop where
  monotone : ∀ place ∈ r.touched, place ∈ r'.touched
  params : ∃ bytes, r'.params = r.params ++ [⟨id, data, bytes⟩] ∧
    bytes.length = max (alignUp 4 dlen.toNat) (plugin.size r.params id)

lemma XaExtRun.api_hands (r : XaExtRun) (plugin : XaExtPlugin) (id : BitVec 16) (data : ℕ)
    (dlen : BitVec 16) : XaExtHands r plugin id data dlen (r.api plugin id data dlen).2 := by
  simp only [XaExtRun.api]
  cases plugin.answer r.params id (extBytes r.mem data (plugin.size r.params id)) with
  | none => exact ⟨fun _ hplace => touch_mono _ _ hplace, _, rfl, extBytes_length _ _ _⟩
  | some answer => exact ⟨fun _ hplace => touch_mono _ _ hplace, _, rfl, extBytes_length _ _ _⟩

/-- However many bytes the plugin accesses, it has got one parameter more. -/
lemma XaExtRun.param_hands (r : XaExtRun) (trace : Bool) (cmd : XaExtCmd) (plugin : XaExtPlugin)
    (id : BitVec 16) (data : ℕ) (dlen : BitVec 16) :
    XaExtHands r plugin id data dlen (r.param trace cmd plugin id data dlen).2 := by
  cases cmd with
  | set =>
    obtain ⟨hpad, hparams⟩ := r.pad_keeps data dlen
    obtain ⟨htrace, hparams', -⟩ := (r.pad data dlen).traceData_keeps trace data dlen.toNat
    obtain ⟨hmono, hhands⟩ :=
      ((r.pad data dlen).traceData trace data).api_hands plugin id data dlen
    rw [hparams', hparams] at hhands
    exact ⟨fun place h => hmono _ (htrace.monotone _ (hpad.monotone _ h)), hhands⟩
  | get =>
    obtain ⟨hmono, bytes, hbytes, hlength⟩ := r.api_hands plugin id data dlen
    obtain ⟨hpad, hparams⟩ := (r.api plugin id data dlen).2.pad_keeps data dlen
    obtain ⟨htrace, hparams', -⟩ :=
      ((r.api plugin id data dlen).2.pad data dlen).traceData_keeps trace data dlen.toNat
    simp only [XaExtRun.param]
    split
    case isTrue =>
      exact ⟨fun place h => htrace.monotone _ (hpad.monotone _ (hmono _ h)), bytes,
        hparams'.trans (hparams.trans hbytes), hlength⟩
    case isFalse => exact ⟨hmono, bytes, hbytes, hlength⟩

/-- The call of the plugin, if it accesses only the padded data. -/
lemma XaExtRun.api_keeps (r : XaExtRun) (plugin : XaExtPlugin) (id : BitVec 16) (data : ℕ)
    (dlen : BitVec 16) (hroom : plugin.size r.params id ≤ alignUp 4 dlen.toNat) :
    XaExtKeeps r (r.api plugin id data dlen).2 data (data + alignUp 4 dlen.toNat)
        (data + alignUp 4 dlen.toNat) ∧
      (r.api plugin id data dlen).2.params =
        r.params ++ [⟨id, data, extBytes r.mem data (alignUp 4 dlen.toNat)⟩] ∧
      (r.api plugin id data dlen).1 =
        plugin.accepts r.params ⟨id, data, extBytes r.mem data (alignUp 4 dlen.toNat)⟩ := by
  have htouched : ∀ place ∈ (r.touch data (plugin.size r.params id)).touched,
      place ∈ r.touched ∨ place.1 + place.2 ≤ data + alignUp 4 dlen.toNat :=
    fun place hplace => mem_touch hplace (by omega)
  have haccepts : plugin.accepts r.params ⟨id, data, extBytes r.mem data (alignUp 4 dlen.toNat)⟩ =
      (plugin.answer r.params id (extBytes r.mem data (plugin.size r.params id))).isSome := by
    rw [XaExtPlugin.accepts, extBytes_take _ _ _ _ hroom]
  rw [haccepts]
  simp only [XaExtRun.api, max_eq_left hroom]
  cases plugin.answer r.params id (extBytes r.mem data (plugin.size r.params id)) with
  | none =>
    exact ⟨⟨htouched, fun place hplace => touch_mono _ _ hplace, fun _ _ => rfl, fun _ _ => rfl⟩,
      rfl, rfl⟩
  | some answer =>
    refine ⟨⟨htouched, fun place hplace => touch_mono _ _ hplace, fun a ha => extWrite_of_lt ha,
      fun a ha => extWrite_of_le ?_⟩, rfl, rfl⟩
    rw [List.length_take]
    omega

/-- What is done for one parameter, if the plugin accesses only its padded data. -/
structure XaExtParamDone (r : XaExtRun) (trace : Bool) (cmd : XaExtCmd) (plugin : XaExtPlugin)
    (id : BitVec 16) (data : ℕ) (dlen : BitVec 16) (res : Bool × XaExtRun) : Prop where
  keeps : XaExtKeeps r res.2 data (data + alignUp 4 dlen.toNat) (data + extSpan trace dlen.toNat)
  untraced : cmd = .get → res.1 = false →
    XaExtKeeps r res.2 data (data + alignUp 4 dlen.toNat) (data + alignUp 4 dlen.toNat)
  params : res.2.params = r.params ++ [⟨id, data, extData cmd r.mem data dlen.toNat⟩]
  ok : res.1 = plugin.accepts r.params ⟨id, data, extData cmd r.mem data dlen.toNat⟩
  traced : trace = true → cmd = .set ∨ res.1 = true → (data, 4) ∈ res.2.touched

lemma XaExtRun.param_done (r : XaExtRun) (trace : Bool) (cmd : XaExtCmd) (plugin : XaExtPlugin)
    (id : BitVec 16) (data : ℕ) (dlen : BitVec 16)
    (hroom : plugin.size r.params id ≤ alignUp 4 dlen.toNat) :
    XaExtParamDone r trace cmd plugin id data dlen (r.param trace cmd plugin id data dlen) := by
  have hspan := Nat.add_le_add_left (alignUp_le_extSpan trace dlen.toNat) data
  have hdata : data ≤ data + dlen.toNat := Nat.le_add_right _ _
  cases cmd with
  | set =>
    obtain ⟨hpad, hparams⟩ := r.pad_keeps data dlen
    obtain ⟨htrace, hparams', hmem, htraced⟩ :=
      (r.pad data dlen).traceData_keeps trace data dlen.toNat
    have hsame := hparams'.trans hparams
    obtain ⟨hapi, hparams'', hok⟩ :=
      ((r.pad data dlen).traceData trace data).api_keeps plugin id data dlen (hsame ▸ hroom)
    rw [hmem, r.pad_data, hsame] at hparams'' hok
    exact ⟨((hpad.mono hdata hspan).trans htrace).trans (hapi.mono le_rfl hspan),
      (fun h => by cases h), hparams'', hok, fun h _ => hapi.monotone _ (htraced h)⟩
  | get =>
    obtain ⟨hapi, hparams, hok⟩ := r.api_keeps plugin id data dlen hroom
    obtain ⟨hpad, hparams'⟩ := (r.api plugin id data dlen).2.pad_keeps data dlen
    obtain ⟨htrace, hparams'', -, htraced⟩ :=
      ((r.api plugin id data dlen).2.pad data dlen).traceData_keeps trace data dlen.toNat
    simp only [XaExtRun.param]
    split
    case isTrue h =>
      exact ⟨((hapi.mono le_rfl hspan).trans (hpad.mono hdata hspan)).trans htrace,
        (fun _ h => by cases h), hparams''.trans (hparams'.trans hparams), h.symm.trans hok,
        fun h _ => htraced h⟩
    case isFalse h =>
      exact ⟨hapi.mono le_rfl hspan, fun _ _ => hapi, hparams,
        (Bool.eq_false_iff.mpr h).symm.trans hok, fun _ h => by rcases h with h | h <;> cases h⟩

end Param

/-! ## The loop -/

section Loop

variable {w fuel off stop : ℕ} {trace : Bool} {cmd : XaExtCmd} {plugin : XaExtPlugin}
  {mem : ℕ → UInt8} {remaining : BitVec w}
  {r : XaExtRun} {res : Bool × XaExtRun} {ps before : List XaExtParam}

/-- What the loop does from an offset on. -/
structure ExtLoop (trace : Bool) (cmd : XaExtCmd) (plugin : XaExtPlugin) (mem : ℕ → UInt8)
    (off stop : ℕ) (r : XaExtRun) (res : Bool × XaExtRun) : Prop where
  inside : ExtTraced trace cmd plugin mem r.params off stop →
    ∀ place ∈ res.2.touched, place ∈ r.touched ∨ place.1 + place.2 ≤ stop
  accepted : res.1 = true ↔ ∃ ps, ExtParams cmd mem off stop ps ∧ plugin.Accepts r.params ps
  params : res.1 = true → ∀ ps, ExtParams cmd mem off stop ps → res.2.params = r.params ++ ps
  first : ∃ reached ps, reached ≤ stop ∧ ExtParams cmd mem off reached ps ∧
    res.2.params = r.params ++ ps

/-- Parameters that do not end at once start with a descriptor. -/
lemma ExtParams.cons_inv (h : ExtParams cmd mem off stop ps) (hlt : off < stop) :
    ∃ ps', ps = extParamAt cmd mem off :: ps' ∧ ExtParams cmd mem (extNext mem off) stop ps' := by
  cases h with
  | nil => exact absurd hlt (lt_irrefl off)
  | @cons _ _ ps' h => exact ⟨ps', rfl, h⟩

lemma ExtParams.nil_inv (h : ExtParams cmd mem off off ps) : ps = [] := by
  cases h with
  | nil => rfl
  | cons h =>
    have hle := h.le
    have hgt := extNext_gt mem off
    omega

/-- What holds for the descriptors that are reached holds behind the first one. -/
lemma ExtShort.next (h : ExtShort cmd plugin mem before off stop)
    (haccepts : plugin.accepts before (extParamAt cmd mem off) = true) :
    ExtShort cmd plugin mem (before ++ [extParamAt cmd mem off]) (extNext mem off) stop :=
  fun reached _ hps hall => h reached _ (.cons hps) ⟨haccepts, hall⟩

lemma ExtRoom.next (h : ExtRoom cmd plugin mem before off stop)
    (haccepts : plugin.accepts before (extParamAt cmd mem off) = true) :
    ExtRoom cmd plugin mem (before ++ [extParamAt cmd mem off]) (extNext mem off) stop := by
  intro reached ps hps hall hle
  have hroom := h reached _ (.cons hps) ⟨haccepts, hall⟩ hle
  rwa [List.append_assoc, List.singleton_append]

lemma ExtTraced.next (h : ExtTraced trace cmd plugin mem before off stop)
    (haccepts : plugin.accepts before (extParamAt cmd mem off) = true) :
    ExtTraced trace cmd plugin mem (before ++ [extParamAt cmd mem off]) (extNext mem off) stop := by
  intro htrace reached ps hps hall hend hlast
  refine h htrace reached _ (.cons hps) ⟨haccepts, hall⟩ hend (hlast.imp_right fun hok => ?_)
  rw [List.append_assoc, List.singleton_append] at hok
  exact hok

/-- The plugin accesses only the data of the descriptor at which the loop stands. -/
lemma ExtRoom.here (h : ExtRoom cmd plugin mem before off stop) (hle : extNext mem off ≤ stop) :
    plugin.size before (extHalf mem off) ≤ alignUp 4 (extLength mem off) := by
  have hroom := h off [] (.nil off) trivial hle
  rwa [List.append_nil] at hroom

/-- The loop ends at the end of the message. -/
lemma ExtLoop.done : ExtLoop trace cmd plugin mem off off r (true, r) where
  inside _ _ := .inl
  accepted := iff_of_true rfl ⟨[], .nil off, trivial⟩
  params _ ps h := by rw [h.nil_inv, List.append_nil]
  first := ⟨off, [], le_rfl, .nil off, (List.append_nil _).symm⟩

/-- The loop ends with an error where no parameters that the plugin accepts end at the end of the
message. -/
lemma ExtLoop.failed (hres : res.1 = false)
    (hinside : ExtTraced trace cmd plugin mem r.params off stop →
      ∀ place ∈ res.2.touched, place ∈ r.touched ∨ place.1 + place.2 ≤ stop)
    (hnone : ∀ ps, ExtParams cmd mem off stop ps → ¬ plugin.Accepts r.params ps)
    (hfirst : ∃ reached ps, reached ≤ stop ∧ ExtParams cmd mem off reached ps ∧
      res.2.params = r.params ++ ps) :
    ExtLoop trace cmd plugin mem off stop r res where
  inside := hinside
  accepted := by
    rw [hres]
    exact iff_of_false (by decide) fun ⟨ps, h, haccepts⟩ => hnone ps h haccepts
  params h := by
    rw [hres] at h
    cases h
  first := hfirst

/-- What is behind a descriptor decides. -/
lemma ExtLoop.step {r' : XaExtRun} (h : ExtLoop trace cmd plugin mem (extNext mem off) stop r' res)
    (hstop : off + 4 ≤ stop) (haccepts : plugin.accepts r.params (extParamAt cmd mem off) = true)
    (hparams : r'.params = r.params ++ [extParamAt cmd mem off])
    (hinside : ExtTraced trace cmd plugin mem r.params off stop →
      ∀ place ∈ r'.touched, place ∈ r.touched ∨ place.1 + place.2 ≤ stop) :
    ExtLoop trace cmd plugin mem off stop r res where
  inside htraced place hplace :=
    (h.inside (hparams ▸ htraced.next haccepts) place hplace).elim (hinside htraced place) .inr
  accepted := by
    rw [h.accepted, hparams]
    constructor
    · rintro ⟨ps, hps, hall⟩
      exact ⟨_, .cons hps, haccepts, hall⟩
    · rintro ⟨ps, hps, hall⟩
      obtain ⟨ps', rfl, hps'⟩ := hps.cons_inv (by omega)
      exact ⟨ps', hps', hall.2⟩
  params hok ps hps := by
    obtain ⟨ps', rfl, hps'⟩ := hps.cons_inv (by omega)
    rw [h.params hok ps' hps', hparams, List.append_assoc, List.singleton_append]
  first := by
    obtain ⟨reached, ps, hreached, hps, heq⟩ := h.first
    refine ⟨reached, _, hreached, .cons hps, ?_⟩
    rw [heq, hparams, List.append_assoc, List.singleton_append]

/-- The words of the loop. -/
lemma four_le_iff (hw : 16 ≤ w) : 4#w ≤ remaining ↔ 4 ≤ remaining.toNat := by
  have hpow : 2 ^ 16 ≤ 2 ^ w := Nat.pow_le_pow_right (by decide) hw
  rw [BitVec.le_def, BitVec.toNat_ofNat, Nat.mod_eq_of_lt (by omega)]

lemma toNat_sub_four (hw : 16 ≤ w) (h : 4 ≤ remaining.toNat) :
    (remaining - 4#w).toNat = remaining.toNat - 4 := by
  have hpow : 2 ^ 16 ≤ 2 ^ w := Nat.pow_le_pow_right (by decide) hw
  have hfour : (4#w).toNat = 4 := by rw [BitVec.toNat_ofNat, Nat.mod_eq_of_lt (by omega)]
  rw [BitVec.toNat_sub_of_le ((four_le_iff hw).mpr h), hfour]

lemma toNat_setWidth_half (hw : 16 ≤ w) (x : BitVec 16) : (x.setWidth w).toNat = x.toNat := by
  have hpow : 2 ^ 16 ≤ 2 ^ w := Nat.pow_le_pow_right (by decide) hw
  rw [BitVec.toNat_setWidth, Nat.mod_eq_of_lt (by omega)]

/-- The rounded length of the descriptor at an offset, in 16 bits. -/
def extDsize (mem : ℕ → UInt8) (off : ℕ) : BitVec 16 := (extHalf mem (off + 2) + 3#16) &&& ~~~3#16

/-- What is done for the descriptor at an offset. -/
def XaExtRun.descriptor (r : XaExtRun) (trace : Bool) (cmd : XaExtCmd) (plugin : XaExtPlugin)
    (mem : ℕ → UInt8) (off : ℕ) :
    Bool × XaExtRun :=
  (r.touch off 4).param trace cmd plugin (extHalf mem off) (off + 4) (extHalf mem (off + 2))

/-- The loop stands at an offset: the bytes from there on are still the ones of the message. -/
structure ExtAt (mem : ℕ → UInt8) (off stop fuel : ℕ) (remaining : BitVec w) (r : XaExtRun) :
    Prop where
  fuel_le : remaining.toNat ≤ fuel
  sum : off + remaining.toNat = stop
  dvd : 4 ∣ remaining.toNat
  bytes : ∀ a, off ≤ a → r.mem a = mem a

/-- At the end of the message the loop ends. -/
lemma ExtAt.loop_end (h : ExtAt mem off stop fuel remaining r) (trace : Bool) (cmd : XaExtCmd)
    (plugin : XaExtPlugin)
    (hw : 16 ≤ w) (hlt : stop < off + 4) :
    off = stop ∧ xaExtLoop trace cmd plugin fuel off remaining r = (true, r) := by
  have hsum := h.sum
  have hdvd := h.dvd
  have hzero : remaining = 0#w := BitVec.eq_of_toNat_eq (by rw [BitVec.toNat_zero]; omega)
  have hnot : ¬ 4#w ≤ remaining := by
    rw [four_le_iff hw]
    omega
  refine ⟨by omega, ?_⟩
  cases fuel with
  | zero => rw [xaExtLoop, decide_eq_true hzero]
  | succ fuel => rw [xaExtLoop, if_neg hnot, decide_eq_true hzero]

/-- The check of a length against what is left. -/
lemma ExtAt.fits_iff (h : ExtAt mem off stop fuel remaining r) (hw : 16 ≤ w)
    (hle : off + 4 ≤ stop) :
    (extDsize mem off).setWidth w ≤ remaining - 4#w ↔
    off + 4 + (extDsize mem off).toNat ≤ stop := by
  have hsum := h.sum
  have hge : 4 ≤ remaining.toNat := by omega
  rw [BitVec.le_def, toNat_setWidth_half hw, toNat_sub_four hw hge]
  omega

/-- Before the end of the message the loop handles a descriptor, if its data fits. -/
lemma ExtAt.loop_step (h : ExtAt mem off stop fuel remaining r) (trace : Bool) (cmd : XaExtCmd)
    (plugin : XaExtPlugin)
    (hw : 16 ≤ w) (hle : off + 4 ≤ stop) :
    ∃ fuel', fuel = fuel' + 1 ∧ xaExtLoop trace cmd plugin fuel off remaining r =
      if off + 4 + (extDsize mem off).toNat ≤ stop then
        if (r.descriptor trace cmd plugin mem off).1 then
          xaExtLoop trace cmd plugin fuel' (off + 4 + (extDsize mem off).toNat)
            (remaining - 4#w - (extDsize mem off).setWidth w)
            (r.descriptor trace cmd plugin mem off).2
        else r.descriptor trace cmd plugin mem off
      else (false, r.touch off 4) := by
  have hsum := h.sum
  have hfuel := h.fuel_le
  have hge : 4 ≤ remaining.toNat := by omega
  have hid : extHalf (r.touch off 4).mem off = extHalf mem off := extHalf_congr h.bytes
  have hdlen : extHalf (r.touch off 4).mem (off + 2) = extHalf mem (off + 2) :=
    extHalf_congr fun a ha => h.bytes a (by omega)
  obtain ⟨fuel, rfl⟩ : ∃ fuel', fuel = fuel' + 1 := ⟨fuel - 1, by omega⟩
  refine ⟨fuel, rfl, ?_⟩
  rw [xaExtLoop, if_pos ((four_le_iff hw).mpr hge)]
  simp only [hid, hdlen]
  exact if_congr (h.fits_iff hw hle) rfl rfl

lemma ExtAt.toNat_rest (hw : 16 ≤ w) (h : ExtAt mem off stop fuel remaining r)
    (hfit : off + 4 + (extDsize mem off).toNat ≤ stop) :
    off + 4 + (extDsize mem off).toNat + (remaining - 4#w - (extDsize mem off).setWidth w).toNat =
      stop := by
  have hsum := h.sum
  have hge : 4 ≤ remaining.toNat := by omega
  have hrest := toNat_sub_four hw hge
  have hle : (extDsize mem off).setWidth w ≤ remaining - 4#w := by
    rw [BitVec.le_def, toNat_setWidth_half hw, hrest]
    omega
  rw [BitVec.toNat_sub_of_le hle, toNat_setWidth_half hw, hrest]
  omega

/-- The descriptor is that of the message. -/
lemma ExtAt.descriptor_done (h : ExtAt mem off stop fuel remaining r) (trace : Bool)
    (cmd : XaExtCmd) (plugin : XaExtPlugin)
    (hroom : plugin.size r.params (extHalf mem off) ≤ alignUp 4 (extLength mem off)) :
    XaExtParamDone (r.touch off 4) trace cmd plugin (extHalf mem off) (off + 4)
        (extHalf mem (off + 2)) (r.descriptor trace cmd plugin mem off) ∧
      (r.descriptor trace cmd plugin mem off).2.params = r.params ++ [extParamAt cmd mem off] ∧
      (r.descriptor trace cmd plugin mem off).1 =
        plugin.accepts r.params (extParamAt cmd mem off) := by
  have hdone := (r.touch off 4).param_done trace cmd plugin (extHalf mem off) (off + 4)
    (extHalf mem (off + 2)) hroom
  have hbytes (n : ℕ) : extBytes (r.touch off 4).mem (off + 4) n = extBytes mem (off + 4) n :=
    extBytes_congr fun a ha _ => h.bytes a (by omega)
  have hdata : extData cmd (r.touch off 4).mem (off + 4) (extHalf mem (off + 2)).toNat =
      extData cmd mem (off + 4) (extLength mem off) := by
    cases cmd with
    | set => exact congrArg (· ++ _) (hbytes _)
    | get => exact hbytes _
  have hparams := hdone.params
  have hok := hdone.ok
  rw [hdata] at hparams hok
  exact ⟨hdone, hparams, hok⟩

/-- A descriptor whose data fits stays inside of the message, with its trace. -/
lemma ExtAt.descriptor_inside (h : ExtAt mem off stop fuel remaining r)
    (hfit : extNext mem off ≤ stop)
    (hroom : plugin.size r.params (extHalf mem off) ≤ alignUp 4 (extLength mem off))
    (htraced : ExtTraced trace cmd plugin mem r.params off stop) :
    ∀ place ∈ (r.descriptor trace cmd plugin mem off).2.touched, place ∈ r.touched ∨
      place.1 + place.2 ≤ stop := by
  obtain ⟨hdone, -, hok⟩ := h.descriptor_done trace cmd plugin hroom
  have hgt := extNext_gt mem off
  have hnext : extNext mem off = off + 4 + alignUp 4 (extHalf mem (off + 2)).toNat := rfl
  have hkeeps : ∃ reach ≤ stop,
      XaExtKeeps (r.touch off 4) (r.descriptor trace cmd plugin mem off).2 (off + 4)
        (extNext mem off) reach := by
    rcases Nat.lt_or_ge stop (off + 4 + extSpan trace (extHalf mem (off + 2)).toNat) with hlt | hge
    · -- only the trace of an empty parameter at the end exceeds the message
      have hend : trace = true ∧ off + 4 = stop ∧ extLength mem off = 0 := by
        have hsum := h.sum
        have hdvd := h.dvd
        have hle := le_alignUp (n := (extHalf mem (off + 2)).toNat) (by decide : 0 < 4)
        have hfour : 4 ∣ alignUp 4 (extHalf mem (off + 2)).toNat := dvd_alignUp 4 _
        rw [extSpan] at hlt
        rw [extLength]
        split at hlt
        case isTrue htrace => exact ⟨htrace, by omega, by omega⟩
        case isFalse => omega
      by_cases hcmd : cmd = .get ∧ (r.descriptor trace cmd plugin mem off).1 = false
      · exact ⟨extNext mem off, hfit, hdone.untraced hcmd.1 hcmd.2⟩
      · refine absurd hend.2.2 (htraced hend.1 off [] (.nil off) trivial hend.2.1 ?_)
        rw [List.append_nil, ← hok]
        cases cmd with
        | set => exact .inl rfl
        | get => exact .inr (Bool.eq_true_of_not_eq_false fun hfalse => hcmd ⟨rfl, hfalse⟩)
    · exact ⟨_, hge, hdone.keeps⟩
  obtain ⟨reach, hreach, hkeeps⟩ := hkeeps
  intro place hplace
  rcases hkeeps.touched place hplace with htouch | hle
  · exact mem_touch htouch (by omega)
  · exact .inr (hle.trans hreach)

/-- Behind a descriptor whose length does not wrap around. -/
lemma ExtAt.next (h : ExtAt mem off stop (fuel + 1) remaining r) (trace : Bool) (cmd : XaExtCmd)
    (plugin : XaExtPlugin)
    (hw : 16 ≤ w) (hlength : extLength mem off ≤ 65532) (hfit : extNext mem off ≤ stop)
    (hroom : plugin.size r.params (extHalf mem off) ≤ alignUp 4 (extLength mem off)) :
    extNext mem off = off + 4 + (extDsize mem off).toNat ∧
      ExtAt mem (extNext mem off) stop fuel (remaining - 4#w - (extDsize mem off).setWidth w)
        (r.descriptor trace cmd plugin mem off).2 := by
  have hdsize : (extDsize mem off).toNat = alignUp 4 (extLength mem off) := toNat_dsize hlength
  have hnext : extNext mem off = off + 4 + (extDsize mem off).toNat := by rw [hdsize, extNext]
  have hrest := h.toNat_rest hw (hnext ▸ hfit)
  have hsum := h.sum
  have hfuel := h.fuel_le
  have hdvd := h.dvd
  have hfour : 4 ∣ (extDsize mem off).toNat := hdsize ▸ dvd_alignUp 4 _
  obtain ⟨hdone, -⟩ := h.descriptor_done trace cmd plugin hroom
  refine ⟨hnext, ?_, ?_, ?_, fun a ha => (hdone.keeps.behind a ha).trans (h.bytes a ?_)⟩
  · omega
  · omega
  · omega
  · omega

/-- The loop over descriptors whose lengths do not wrap around, by induction on the rest of the
message. -/
lemma xaExtLoop_spec (hw : 16 ≤ w) (h : ExtAt mem off stop fuel remaining r)
    (hshort : ExtShort cmd plugin mem r.params off stop)
    (hroom : ExtRoom cmd plugin mem r.params off stop) :
    ExtLoop trace cmd plugin mem off stop r
      (xaExtLoop trace cmd plugin fuel off remaining r) := by
  induction fuel generalizing off remaining r with
  | zero =>
    have hsum := h.sum
    have hfuel := h.fuel_le
    obtain ⟨rfl, hres⟩ := h.loop_end trace cmd plugin hw (by omega)
    rw [hres]
    exact ExtLoop.done
  | succ fuel ih =>
    rcases Nat.lt_or_ge stop (off + 4) with hlt | hge
    · obtain ⟨rfl, hres⟩ := h.loop_end trace cmd plugin hw hlt
      rw [hres]
      exact ExtLoop.done
    · have hlength : extLength mem off ≤ 65532 := hshort off [] (.nil off) trivial hge
      have hdsize : (extDsize mem off).toNat = alignUp 4 (extLength mem off) := toNat_dsize hlength
      have hnext : extNext mem off = off + 4 + (extDsize mem off).toNat := by rw [hdsize, extNext]
      obtain ⟨fuel', hfuel, hres⟩ := h.loop_step trace cmd plugin hw hge
      obtain rfl := Nat.succ.inj hfuel
      rw [hres, ← hnext]
      split
      case isFalse hfit =>
        refine ExtLoop.failed rfl (fun _ place hplace => mem_touch hplace hge) (fun ps hps _ => ?_)
          ⟨off, [], by omega, .nil off, (List.append_nil _).symm⟩
        obtain ⟨ps', -, hps'⟩ := hps.cons_inv (by omega)
        exact hfit hps'.le
      case isTrue hfit =>
        have hsize := hroom.here hfit
        obtain ⟨-, hparams, hok⟩ := h.descriptor_done trace cmd plugin hsize
        have hinside : ExtTraced trace cmd plugin mem r.params off stop → _ :=
          h.descriptor_inside hfit hsize
        split
        case isTrue haccepted =>
          have haccepts := hok.symm.trans haccepted
          have hat := (h.next trace cmd plugin hw hlength hfit hsize).2
          have hrest := ih hat (hparams ▸ hshort.next haccepts) (hparams ▸ hroom.next haccepts)
          exact ExtLoop.step hrest hge haccepts hparams hinside
        case isFalse hrejected =>
          have hfalse := Bool.eq_false_iff.mpr hrejected
          refine ExtLoop.failed hfalse hinside (fun ps hps hall => ?_)
            ⟨extNext mem off, _, hfit, .cons (.nil _), hparams⟩
          obtain ⟨ps', rfl, -⟩ := hps.cons_inv (by omega)
          have haccepts := hok.trans hall.1
          rw [hfalse] at haccepts
          cases haccepts

end Loop

end Hikey
