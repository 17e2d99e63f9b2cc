import Hikey.Component.ExtParams

/-!
# Messages with extended parameters (`audio/xa-class-base.c`)

Whole calls of `xa_base_set_param_ext` and `xa_base_get_param_ext`: the trace of a message, the loop
over its descriptors, and what becomes of lengths that wrap around when they are rounded.
-/

namespace Hikey

/-! ## Lengths that wrap around -/

section Loop

variable {w fuel off stop : ℕ} {trace : Bool} {cmd : XaExtCmd} {plugin : XaExtPlugin}
  {mem : ℕ → UInt8} {remaining : BitVec w}
  {r : XaExtRun} {ps : List XaExtParam}

/-- The loop only adds to what has been touched and handed over: first the data of the descriptor
that it stands at, if it accepts the message and is not at its end. -/
lemma xaExtLoop_extends (trace : Bool) (cmd : XaExtCmd) (plugin : XaExtPlugin) (fuel off : ℕ)
    (remaining : BitVec w) (r : XaExtRun) :
    (∀ place ∈ r.touched, place ∈ (xaExtLoop trace cmd plugin fuel off remaining r).2.touched) ∧
      ∃ ps, (xaExtLoop trace cmd plugin fuel off remaining r).2.params = r.params ++ ps ∧
        (∀ p ∈ ps.head?, p.offset = off + 4) ∧
        ((xaExtLoop trace cmd plugin fuel off remaining r).1 = true → fuel ≠ 0 → 4#w ≤ remaining →
          ps ≠ []) := by
  have hnil : ∀ p ∈ ([] : List XaExtParam).head?, p.offset = off + 4 := fun _ h => by cases h
  induction fuel generalizing off remaining r with
  | zero => exact ⟨fun _ => id, [], (List.append_nil _).symm, hnil, fun _ h => absurd rfl h⟩
  | succ fuel ih =>
    have htouch : ∀ place ∈ r.touched, place ∈ (r.touch off 4).touched :=
      fun _ hplace => touch_mono _ _ hplace
    rw [xaExtLoop]
    simp only
    split
    case isFalse hlt =>
      exact ⟨fun _ => id, [], (List.append_nil _).symm, hnil, fun _ _ h => absurd h hlt⟩
    case isTrue hge =>
      split
      case isFalse hfit => exact ⟨htouch, [], (List.append_nil _).symm, hnil, fun h => by cases h⟩
      case isTrue hfit =>
        obtain ⟨hmono, bytes, hbytes, -⟩ := (r.touch off 4).param_hands trace cmd plugin
          (extHalf (r.touch off 4).mem off) (off + 4) (extHalf (r.touch off 4).mem (off + 2))
        have htouched := fun place hplace => hmono place (htouch place hplace)
        split
        case isTrue haccepted =>
          obtain ⟨hmore, ps, hps, -⟩ := ih _ _ _ fun _ h => by cases h
          rw [hbytes, List.append_assoc] at hps
          exact ⟨fun place hplace => hmore place (htouched place hplace), _, hps, by simp, by simp⟩
        case isFalse => exact ⟨htouched, _, hbytes, by simp, by simp⟩

/-- Parameters up to an offset are the first ones of those that go on. -/
lemma ExtParams.split {reached : ℕ} {ps all : List XaExtParam}
    (h : ExtParams cmd mem off reached ps)
    (hall : ExtParams cmd mem off stop all) (hle : reached ≤ stop) :
    ∃ ps', all = ps ++ ps' ∧ ExtParams cmd mem reached stop ps' := by
  induction h generalizing all with
  | nil off => exact ⟨all, rfl, hall⟩
  | @cons off reached ps h ih =>
    have hgt := extNext_gt mem off
    have hreached := h.le
    obtain ⟨rest, rfl, hrest⟩ := hall.cons_inv (by omega)
    obtain ⟨ps', rfl, hps'⟩ := ih hrest hle
    exact ⟨ps', rfl, hps'⟩

/-- Parameters that start with others go on where these end. -/
lemma ExtParams.behind {reached : ℕ} {ps ps' : List XaExtParam}
    (h : ExtParams cmd mem off reached ps) (hall : ExtParams cmd mem off stop (ps ++ ps')) :
    ExtParams cmd mem reached stop ps' := by
  induction h with
  | nil off => exact hall
  | cons h ih =>
    cases hall with
    | cons hall => exact ih hall

/-- A descriptor that fits is handled. -/
lemma ExtAt.touches (h : ExtAt mem off stop fuel remaining r) (trace : Bool) (cmd : XaExtCmd)
    (plugin : XaExtPlugin) (hw : 16 ≤ w) (hfit : off + 4 + (extDsize mem off).toNat ≤ stop)
    {place : ℕ × ℕ} (hplace : place ∈ (r.descriptor trace cmd plugin mem off).2.touched) :
    place ∈ (xaExtLoop trace cmd plugin fuel off remaining r).2.touched := by
  obtain ⟨fuel, rfl, hres⟩ := h.loop_step trace cmd plugin hw (by omega)
  rw [hres, if_pos hfit]
  split
  case isFalse => exact hplace
  case isTrue => exact (xaExtLoop_extends _ _ _ _ _ _ _).1 _ hplace

/-- If what is handed over are parameters of the message, then a descriptor that fits is one of
them: it is inside of these, and the plugin accesses only its data. -/
lemma ExtAt.hands {reached : ℕ} (h : ExtAt mem off stop fuel remaining r) (trace : Bool)
    (plugin : XaExtPlugin) (hw : 16 ≤ w) (hfit : off + 4 + (extDsize mem off).toNat ≤ stop)
    (hbefore : ExtParams cmd mem 0 off r.params)
    (hall : ExtParams cmd mem 0 reached
    (xaExtLoop trace cmd plugin fuel off remaining r).2.params) :
    extNext mem off ≤ reached ∧
      plugin.size r.params (extHalf mem off) ≤ alignUp 4 (extLength mem off) := by
  obtain ⟨fuel, rfl, hres⟩ := h.loop_step trace cmd plugin hw (by omega)
  obtain ⟨-, bytes, hbytes, hlength⟩ := (r.touch off 4).param_hands trace cmd plugin
    (extHalf mem off) (off + 4) (extHalf mem (off + 2))
  have hdescriptor : (r.descriptor trace cmd plugin mem off).2.params =
      r.params ++ [⟨extHalf mem off, off + 4, bytes⟩] := hbytes
  obtain ⟨ps, hps⟩ : ∃ ps, (xaExtLoop trace cmd plugin (fuel + 1) off remaining r).2.params =
      r.params ++ ⟨extHalf mem off, off + 4, bytes⟩ :: ps := by
    rw [hres, if_pos hfit]
    split
    case isFalse => exact ⟨[], hdescriptor⟩
    case isTrue =>
      obtain ⟨-, ps, hps, -⟩ := xaExtLoop_extends trace cmd plugin fuel
        (off + 4 + (extDsize mem off).toNat) (remaining - 4#w - (extDsize mem off).setWidth w)
        (r.descriptor trace cmd plugin mem off).2
      rw [hdescriptor, List.append_assoc] at hps
      exact ⟨ps, hps⟩
  rw [hps] at hall
  generalize hp : (⟨extHalf mem off, off + 4, bytes⟩ : XaExtParam) = p at hall
  cases hbefore.behind hall with
  | cons hbehind =>
    have hdata : bytes = extData cmd mem (off + 4) (extLength mem off) :=
      congrArg XaExtParam.data hp
    rw [hdata, extData_length] at hlength
    exact ⟨hbehind.le, (le_max_right _ _).trans_eq hlength.symm⟩

/-- The loop comes to a descriptor, unless it comes before to one whose length wraps around, or for
which the plugin accesses more than its data. -/
lemma ExtAt.reach {reached : ℕ} (h : ExtAt mem off stop fuel remaining r) (trace : Bool)
    (hw : 16 ≤ w) (hps : ExtParams cmd mem off reached ps) (hall : plugin.Accepts r.params ps)
    (hle : reached + 4 ≤ stop) :
    ∃ first fuel' ps', ∃ remaining' : BitVec w, ∃ r', ExtParams cmd mem off first ps' ∧
      plugin.Accepts r.params ps' ∧ first + 4 ≤ stop ∧
      (65532 < extLength mem first ∨
        extNext mem first ≤ stop ∧ extLength mem first ≤ 65532 ∧
          alignUp 4 (extLength mem first) < plugin.size r'.params (extHalf mem first) ∨
        first = reached ∧ ps' = ps) ∧
      ExtAt mem first stop fuel' remaining' r' ∧ r'.params = r.params ++ ps' ∧
      xaExtLoop trace cmd plugin fuel off remaining r =
        xaExtLoop trace cmd plugin fuel' first remaining' r' := by
  induction hps generalizing fuel remaining r with
  | nil off =>
    exact ⟨off, fuel, [], remaining, r, .nil off, trivial, hle, .inr (.inr ⟨rfl, rfl⟩), h,
      (List.append_nil _).symm, rfl⟩
  | @cons off reached ps hps ih =>
    have hgt := extNext_gt mem off
    have hreached := hps.le
    rcases Nat.lt_or_ge 65532 (extLength mem off) with hwrap | hshort
    · exact ⟨off, fuel, [], remaining, r, .nil off, trivial, by omega, .inl hwrap, h,
        (List.append_nil _).symm, rfl⟩
    · rcases Nat.lt_or_ge (alignUp 4 (extLength mem off)) (plugin.size r.params (extHalf mem off))
        with hnone | hroom
      · exact ⟨off, fuel, [], remaining, r, .nil off, trivial, by omega,
          .inr (.inl ⟨by omega, hshort, hnone⟩), h, (List.append_nil _).symm, rfl⟩
      · obtain ⟨haccepts, hall⟩ := hall
        obtain ⟨fuel, rfl, hres⟩ := h.loop_step trace cmd plugin hw (by omega)
        obtain ⟨hnext, hat⟩ := h.next trace cmd plugin hw hshort (by omega) hroom
        obtain ⟨-, hparams, hok⟩ := h.descriptor_done trace cmd plugin hroom
        obtain ⟨first, fuel', ps', remaining', r', hps', hall', hfirst, hwhich, hat',
          hparams', hres'⟩ :=
          ih hat (hparams ▸ hall) hle
        rw [hparams] at hall'
        refine ⟨first, fuel', extParamAt cmd mem off :: ps', remaining', r', .cons hps',
          ⟨haccepts, hall'⟩, hfirst, ?_, hat', ?_, ?_⟩
        · exact hwhich.imp_right (Or.imp_right fun h => ⟨h.1, congrArg _ h.2⟩)
        · rw [hparams', hparams, List.append_assoc, List.singleton_append]
        · rw [hres, ← hnext, if_pos (by omega), if_pos (hok.trans haccepts), hres']

/-- A length that wraps around is rounded to 0. -/
lemma toNat_extDsize_of_long (hlong : 65532 < extLength mem off) :
    (extDsize mem off).toNat = 0 := by
  have hlt := (extHalf mem (off + 2)).isLt
  have hfour : (4#16).toNat = 2 ^ 2 := rfl
  have hthree : (3#16).toNat = 3 := rfl
  rw [extLength] at hlong
  have hround := toNat_and_not_sub_one (extHalf mem (off + 2) + 3#16) hfour
  rw [BitVec.toNat_add, hthree] at hround
  refine hround.trans ?_
  omega

/-- A length that wraps around is rounded to `2 ^ 16` in a message. -/
lemma extNext_of_long (hlong : 65532 < extLength mem off) : extNext mem off = off + 4 + 65536 := by
  have hlt : extLength mem off < 2 ^ 16 := (extHalf mem (off + 2)).isLt
  rw [extNext, alignUp]
  omega

/-- After a length that wraps around, the next descriptor is taken from the data. -/
lemma ExtAt.wraps (hw : 16 ≤ w) (h : ExtAt mem off stop fuel remaining r)
    (hlong : 65532 < extLength mem off)
    (hroom : plugin.size r.params (extHalf mem off) ≤ alignUp 4 (extLength mem off))
    (haccepted : (xaExtLoop trace cmd plugin fuel off remaining r).1 = true)
    (hps : ExtParams cmd mem off stop ps) (hlt : off < stop) :
    (xaExtLoop trace cmd plugin fuel off remaining r).2.params ≠ r.params ++ ps := by
  intro heq
  obtain ⟨rest, rfl, hnextps⟩ := hps.cons_inv hlt
  have hend := hnextps.le
  have hnext := extNext_of_long hlong
  have hzero := toNat_extDsize_of_long hlong
  have hrest := h.toNat_rest hw (by omega)
  have hfuel := h.fuel_le
  have hsum := h.sum
  obtain ⟨fuel, rfl, hres⟩ := h.loop_step trace cmd plugin hw (by omega)
  obtain ⟨-, hparams, -⟩ := h.descriptor_done trace cmd plugin hroom
  obtain ⟨-, tail, htail, hhead, hne⟩ := xaExtLoop_extends trace cmd plugin fuel
    (off + 4 + (extDsize mem off).toNat) (remaining - 4#w - (extDsize mem off).setWidth w)
    (r.descriptor trace cmd plugin mem off).2
  rw [hres, if_pos (by omega)] at haccepted heq
  split at haccepted
  case isFalse hrejected => exact hrejected haccepted
  case isTrue hok =>
    rw [if_pos hok, htail, hparams, List.append_assoc, List.singleton_append] at heq
    obtain ⟨-, rfl⟩ := List.cons.inj (List.append_cancel_left heq)
    have hnonempty := hne haccepted (by omega) ((four_le_iff hw).mpr (by omega))
    -- the next parameter of the message is `2 ^ 16` bytes further behind
    cases hnextps with
    | nil => exact hnonempty rfl
    | cons hbehind =>
      have hoffset : extNext mem off + 4 = off + 4 + (extDsize mem off).toNat + 4 := hhead _ rfl
      omega

end Loop

/-! ## The trace -/

section Rows

variable {w fuel : ℕ} {remaining i : BitVec w} {r r' : XaExtRun}

/-- The rows change nothing but what is touched. -/
lemma xaExtRows_extends (h : xaExtRows remaining fuel i r = some r') :
    r'.mem = r.mem ∧ r'.params = r.params ∧ ∀ place ∈ r.touched, place ∈ r'.touched := by
  induction fuel generalizing i r with
  | zero => cases h
  | succ fuel ih =>
    rw [xaExtRows] at h
    split at h
    case isTrue =>
      obtain ⟨hmem, hparams, htouched⟩ := ih h
      exact ⟨hmem, hparams, fun place hplace => htouched place (touch_mono _ _ hplace)⟩
    case isFalse =>
      cases h
      exact ⟨rfl, rfl, fun _ => id⟩

/-- The next row. -/
lemma toNat_add_row (hw : 16 ≤ w) (remaining i : BitVec w) (hle : i.toNat + 16 ≤ remaining.toNat) :
    (i + 16#w).toNat = i.toNat + 16 := by
  have hpow : 2 ^ 16 ≤ 2 ^ w := Nat.pow_le_pow_right (by decide) hw
  have hlt := remaining.isLt
  have hrow : (16#w).toNat = 16 := by rw [BitVec.toNat_ofNat, Nat.mod_eq_of_lt (by omega)]
  rw [BitVec.toNat_add, hrow, Nat.mod_eq_of_lt (by omega)]

/-- The rows of a length that is a multiple of 16 end with it. -/
lemma xaExtRows_inside (hw : 16 ≤ w) (fuel : ℕ) (i : BitVec w) (r : XaExtRun)
    (hdvd : 16 ∣ remaining.toNat)
    (hi : 16 ∣ i.toNat) (hle : i.toNat ≤ remaining.toNat)
    (hfuel : remaining.toNat < i.toNat + 16 * fuel) :
    ∃ r', xaExtRows remaining fuel i r = some r' ∧
      ∀ place ∈ r'.touched, place ∈ r.touched ∨ place.1 + place.2 ≤ remaining.toNat := by
  induction fuel generalizing i r with
  | zero => omega
  | succ fuel ih =>
    rw [xaExtRows]
    split
    case isTrue hlt =>
      rw [BitVec.lt_def] at hlt
      have hrow := toNat_add_row hw remaining i (by omega)
      obtain ⟨r', hres, hinside⟩ :=
        ih (i + 16#w) (r.touch i.toNat 16) (by omega) (by omega) (by omega)
      refine ⟨r', hres, fun place hplace =>
        (hinside place hplace).elim (fun htouch => mem_touch htouch ?_) .inr⟩
      omega
    case isFalse => exact ⟨r, rfl, fun _ => .inl⟩

/-- The last row of another length goes beyond it. -/
lemma xaExtRows_outside (hw : 16 ≤ w) (hdvd : ¬ 16 ∣ remaining.toNat) (hi : 16 ∣ i.toNat)
    (hle : i.toNat ≤ remaining.toNat)
    (h : xaExtRows remaining fuel i r = some r') :
    (remaining.toNat / 16 * 16, 16) ∈ r'.touched := by
  induction fuel generalizing i r with
  | zero => cases h
  | succ fuel ih =>
    have hlt : i < remaining := by
      rw [BitVec.lt_def]
      omega
    rw [xaExtRows, if_pos hlt] at h
    rcases Nat.lt_or_ge (i.toNat + 16) remaining.toNat with hnext | hlast
    · have hrow := toNat_add_row hw remaining i hnext.le
      exact ih (i := i + 16#w) (by omega) (by omega) h
    · have hplace : i.toNat = remaining.toNat / 16 * 16 := by omega
      rw [← hplace]
      exact (xaExtRows_extends h).2.2 _ (List.mem_append_right _ (List.mem_singleton_self _))

end Rows

/-! ## The two functions -/

section Handled

variable {w stop : ℕ} {trace : Bool} {cmd : XaExtCmd} {plugin : XaExtPlugin} {mem : ℕ → UInt8}
  {remaining : BitVec w} {ps : List XaExtParam}

/-- The loop starts after the trace. -/
lemma extAt_start (hdvd : 4 ∣ remaining.toNat) {r : XaExtRun}
    (h : xaExtTraced trace mem remaining = some r) :
    r.params = [] ∧ ExtAt mem 0 remaining.toNat remaining.toNat remaining r := by
  cases trace with
  | false =>
    cases h
    exact ⟨rfl, le_rfl, Nat.zero_add _, hdvd, fun _ _ => rfl⟩
  | true =>
    obtain ⟨hmem, hparams, -⟩ := xaExtRows_extends h
    exact ⟨hparams, le_rfl, Nat.zero_add _, hdvd, fun a _ => congrFun hmem a⟩

/-- The trace is inside of a message whose length is a multiple of its rows. -/
lemma xaExtTraced_inside (mem : ℕ → UInt8) (hw : 16 ≤ w)
    (hrows : trace = true → 16 ∣ remaining.toNat) :
    ∃ r, xaExtTraced trace mem remaining = some r ∧
      ∀ place ∈ r.touched, place.1 + place.2 ≤ remaining.toNat := by
  cases trace with
  | false => exact ⟨_, rfl, fun _ hplace => absurd hplace List.not_mem_nil⟩
  | true =>
    obtain ⟨r, hres, hinside⟩ := xaExtRows_inside hw (remaining.toNat / 16 + 2) 0#w ⟨mem, [], []⟩
      (hrows rfl) (by simp) (by simp) (by rw [BitVec.toNat_zero]; omega)
    exact ⟨r, hres, fun place hplace => (hinside place hplace).resolve_left List.not_mem_nil⟩

/-- Descriptors with lengths that do not wrap around are handled, if the plugin accesses only their
data and their traces are inside of the message. -/
lemma xaExtRun_handled (hw : 16 ≤ w) (hdvd : 4 ∣ remaining.toNat)
    (hfits : ExtFits trace cmd plugin mem remaining.toNat) :
    ExtHandled cmd plugin mem remaining.toNat (xaExtRun trace cmd plugin mem remaining) := by
  obtain ⟨r, htraced, hinside⟩ := xaExtTraced_inside mem hw hfits.rows
  obtain ⟨hparams, hat⟩ := extAt_start hdvd htraced
  have hloop : ExtLoop trace cmd plugin mem 0 remaining.toNat r _ :=
    xaExtLoop_spec hw hat (hparams.symm ▸ hfits.short) (hparams.symm ▸ hfits.room)
  have hin := hloop.inside (hparams.symm ▸ hfits.traced)
  have haccepted := hloop.accepted
  have hps := hloop.params
  obtain ⟨reached, ps, hreached, hfirst, heq⟩ := hloop.first
  rw [hparams] at haccepted hps heq
  exact ⟨_, congrArg (Option.map _) htraced,
    ⟨fun place hplace => (hin place hplace).elim (hinside place) id, haccepted, hps,
      reached, hreached, heq ▸ hfirst⟩⟩

/-- If the loop hands over parameters of the message, then it comes to a descriptor with room for
what the plugin accesses, unless it comes to one before whose length wraps around. -/
lemma ExtAt.stands {reached last : ℕ} {r : XaExtRun} (hw : 16 ≤ w)
    (hat : ExtAt mem 0 stop stop remaining r) (hparams : r.params = [])
    (hhanded : ExtParams cmd mem 0 last (xaExtLoop trace cmd plugin stop 0 remaining r).2.params)
    (hps : ExtParams cmd mem 0 reached ps) (hall : plugin.Accepts [] ps)
    (hle : reached + 4 ≤ stop) :
    ∃ first fuel, ∃ remaining' : BitVec w, ∃ r', ExtParams cmd mem 0 first r'.params ∧
      plugin.Accepts [] r'.params ∧ first + 4 ≤ stop ∧
      (65532 < extLength mem first ∨ first = reached ∧ r'.params = ps) ∧
      ExtAt mem first stop fuel remaining' r' ∧
      xaExtLoop trace cmd plugin stop 0 remaining r =
        xaExtLoop trace cmd plugin fuel first remaining' r' ∧
      (first + 4 + (extDsize mem first).toNat ≤ stop → extNext mem first ≤ last ∧
        plugin.size r'.params (extHalf mem first) ≤ alignUp 4 (extLength mem first)) := by
  obtain ⟨first, fuel, ps', remaining', r', hps', hall', hfirst, hwhich, hat', hparams', hres⟩ :=
    hat.reach trace hw hps (hparams.symm ▸ hall) hle
  rw [hparams] at hall' hparams'
  obtain rfl : r'.params = ps' := hparams'
  rw [hres] at hhanded
  have hhands (hfit : first + 4 + (extDsize mem first).toNat ≤ stop) :=
    hat'.hands trace plugin hw hfit hps' hhanded
  refine ⟨first, fuel, remaining', r', hps', hall', hfirst, ?_, hat', hres, hhands⟩
  rcases hwhich with hwrap | ⟨hfit, hshort, hnone⟩ | hsame
  · exact .inl hwrap
  · have hdsize : (extDsize mem first).toNat = alignUp 4 (extLength mem first) := toNat_dsize hshort
    have hroom := (hhands (by rwa [hdsize, ← extNext])).2
    omega
  · exact .inr hsame

/-- A length that wraps around leads out of a message that is short, or to other parameters than
those of the message. -/
lemma ExtAt.short {r : XaExtRun} (hw : 16 ≤ w) (hat : ExtAt mem 0 stop stop remaining r)
    (hparams : r.params = [])
    (h : ExtExact cmd plugin mem stop (xaExtLoop trace cmd plugin stop 0 remaining r))
    (hmessage : stop ≤ 65536 ∨ ExtWellFormed cmd plugin mem stop) :
    ExtShort cmd plugin mem [] 0 stop := by
  intro reached ps hps hall hle
  by_contra hlong
  obtain ⟨last, hlast, hhanded⟩ := h.first
  obtain ⟨first, fuel, remaining', r', hps', -, hfirst, hwhich, hat', hres, hhands⟩ :=
    hat.stands hw hparams hhanded hps hall hle
  have hwrap : 65532 < extLength mem first := by
    rcases hwhich with hwrap | ⟨rfl, -⟩
    · exact hwrap
    · omega
  have hzero := toNat_extDsize_of_long hwrap
  have hnext := extNext_of_long hwrap
  obtain ⟨hinside, hroom⟩ := hhands (by omega)
  rcases hmessage with hsmall | ⟨all, hformed, haccepts⟩
  · omega
  · have haccepted := h.accepted.mpr ⟨all, hformed, haccepts⟩
    obtain ⟨rest, rfl, hrest⟩ := hps'.split hformed (by omega)
    have hsame := h.params haccepted _ hformed
    rw [hres] at haccepted hsame
    exact hat'.wraps hw hwrap hroom haccepted hrest (by omega) hsame

/-- A plugin that accesses more than the data of a descriptor gets another parameter than that of
the message. -/
lemma ExtAt.room {last : ℕ} {r : XaExtRun} (hw : 16 ≤ w)
    (hat : ExtAt mem 0 stop stop remaining r) (hparams : r.params = [])
    (hhanded : ExtParams cmd mem 0 last (xaExtLoop trace cmd plugin stop 0 remaining r).2.params)
    (hshort : ExtShort cmd plugin mem [] 0 stop) : ExtRoom cmd plugin mem [] 0 stop := by
  intro reached ps hps hall hle
  have hgt := extNext_gt mem reached
  obtain ⟨first, fuel, remaining', r', hps', hall', hfirst, hwhich, -, -, hhands⟩ :=
    hat.stands hw hparams hhanded hps hall (by omega)
  have hlength := hshort first _ hps' hall' hfirst
  have hdsize : (extDsize mem first).toNat = alignUp 4 (extLength mem first) := toNat_dsize hlength
  rcases hwhich with hwrap | ⟨rfl, rfl⟩
  · omega
  · exact (hhands (by rwa [hdsize, ← extNext])).2

/-- The trace of an empty parameter at the end leads out of the message. -/
lemma ExtAt.traced {r : XaExtRun} (hw : 16 ≤ w) (hat : ExtAt mem 0 stop stop remaining r)
    (hparams : r.params = [])
    (h : ExtExact cmd plugin mem stop (xaExtLoop trace cmd plugin stop 0 remaining r))
    (hshort : ExtShort cmd plugin mem [] 0 stop) : ExtTraced trace cmd plugin mem [] 0 stop := by
  intro htrace reached ps hps hall hend hlast hzero
  obtain ⟨last, -, hhanded⟩ := h.first
  obtain ⟨first, fuel, remaining', r', hps', hall', hfirst, hwhich, hat', hres, hhands⟩ :=
    hat.stands hw hparams hhanded hps hall hend.le
  have hlength := hshort first _ hps' hall' hfirst
  rcases hwhich with hwrap | ⟨rfl, rfl⟩
  · omega
  · have hdsize : (extDsize mem first).toNat = alignUp 4 (extLength mem first) :=
      toNat_dsize hlength
    have hround : alignUp 4 0 = 0 := rfl
    rw [hzero, hround] at hdsize
    obtain ⟨hdone, -, hok⟩ := hat'.descriptor_done trace cmd plugin (hhands (by omega)).2
    rw [List.nil_append, ← hok] at hlast
    have htouched := hat'.touches trace cmd plugin hw (by omega) (hdone.traced htrace hlast)
    rw [← hres] at htouched
    have hinside : first + 4 + 4 ≤ stop := h.inside _ htouched
    omega

/-- What is handled fits. -/
lemma ExtHandled.fits (hw : 16 ≤ w) (hdvd : 4 ∣ remaining.toNat)
    (h : ExtHandled cmd plugin mem remaining.toNat (xaExtRun trace cmd plugin mem remaining))
    (hmessage : remaining.toNat ≤ 65536 ∨ ExtWellFormed cmd plugin mem remaining.toNat) :
    ExtFits trace cmd plugin mem remaining.toNat := by
  obtain ⟨call, hcall, hexact⟩ := h
  obtain ⟨r, htraced, rfl⟩ := Option.map_eq_some_iff.mp hcall
  obtain ⟨hparams, hat⟩ := extAt_start hdvd htraced
  obtain ⟨last, -, hhanded⟩ := hexact.first
  have hshort := hat.short hw hparams hexact hmessage
  refine ⟨hshort, hat.room hw hparams hhanded hshort, fun htrace => ?_,
    hat.traced hw hparams hexact hshort⟩
  by_contra hrows
  subst htrace
  have hrow := xaExtRows_outside hw hrows (by simp) (by simp) htraced
  have hinside : remaining.toNat / 16 * 16 + 16 ≤ remaining.toNat :=
    hexact.inside _ ((xaExtLoop_extends _ _ _ _ _ _ _).1 _ hrow)
  omega

/-- A part of a message is not handled as the message. -/
lemma ExtHandled.not_part (hw : 16 ≤ w) (hdvd : 4 ∣ remaining.toNat)
    (hpart : remaining.toNat < stop)
    (hshort : ExtShort cmd plugin mem [] 0 remaining.toNat)
    (hmessage : ExtWellFormed cmd plugin mem stop) :
    ¬ ExtHandled cmd plugin mem stop (xaExtRun trace cmd plugin mem remaining) := by
  rintro ⟨call, hcall, hexact⟩
  have haccepted := hexact.accepted.mpr hmessage
  obtain ⟨all, hall, -⟩ := hmessage
  obtain ⟨r, htraced, rfl⟩ := Option.map_eq_some_iff.mp hcall
  obtain ⟨hparams, hat⟩ := extAt_start hdvd htraced
  obtain ⟨last, -, hhanded⟩ := hexact.first
  have hroom := hat.room hw hparams hhanded hshort
  have hloop : ExtLoop trace cmd plugin mem 0 remaining.toNat r _ :=
    xaExtLoop_spec hw hat (hparams.symm ▸ hshort) (hparams.symm ▸ hroom)
  obtain ⟨ps, hps, -⟩ := hloop.accepted.mp haccepted
  have hsame := hloop.params haccepted ps hps
  rw [hparams, List.nil_append] at hsame
  have heq : ps = all := hsame.symm.trans (hexact.params haccepted all hall)
  exact hpart.ne (hps.stop_unique (heq ▸ hall))

/-- The length of a message is rounded up, or to 0 if that wraps around. -/
lemma toNat_round {x four : BitVec w} (hfour : four.toNat = 2 ^ 2) :
    (x.toNat + 3 < 2 ^ w → ((x + (four - 1)) &&& ~~~(four - 1)).toNat = alignUp 4 x.toNat) ∧
      (2 ^ w ≤ x.toNat + 3 → ((x + (four - 1)) &&& ~~~(four - 1)).toNat = 0) := by
  refine ⟨toNat_align x hfour, fun h => ?_⟩
  have hx := x.isLt
  have hfour' := four.isLt
  have hthree : x.toNat + (2 ^ 2 - 1) = x.toNat + 3 - 2 ^ w + 2 ^ w := by omega
  rw [toNat_and_not_sub_one _ hfour, BitVec.toNat_add, toNat_sub_one hfour, hthree,
    Nat.add_mod_right,
    Nat.mod_eq_of_lt (by omega), Nat.div_eq_of_lt (by omega), Nat.zero_mul]

/-- Messages whose length is rounded in the variable: the lengths of the descriptors, the bytes that
the plugin accesses and the traces decide. -/
lemma xaExtRun_handled_iff (hw : 16 ≤ w) (hdvd : 4 ∣ remaining.toNat)
    (hstop : remaining.toNat = stop)
    (hmessage : stop ≤ 65536 ∨ ExtWellFormed cmd plugin mem stop) :
    ExtHandled cmd plugin mem stop (xaExtRun trace cmd plugin mem remaining) ↔
      ExtFits trace cmd plugin mem stop := by
  subst hstop
  exact ⟨fun h => h.fits hw hdvd hmessage, xaExtRun_handled hw hdvd⟩

end Handled

/-- In `xa_base_set_param_ext` the length of the message is one of 16 bits. -/
lemma setParamExt_handled_iff (trace : Bool) (plugin : XaExtPlugin) (mem : ℕ → UInt8) (length : U32)
    (hmessage : length.toNat ≤ 65532 ∨ ExtShort .set plugin mem [] 0 (alignUp 4 length.toNat) ∧
      ExtWellFormed .set plugin mem (alignUp 4 length.toNat)) :
    ExtHandled .set plugin mem (alignUp 4 length.toNat)
        (xaBaseSetParamExtBytes trace plugin mem length) ↔
      length.toNat ≤ 65532 ∧ ExtFits trace .set plugin mem (alignUp 4 length.toNat) := by
  have hfour : (4#16).toNat = 2 ^ 2 := rfl
  have hle := le_alignUp (n := length.toNat) (by decide : 0 < 4)
  have hup := alignUp_le 4 length.toNat
  obtain ⟨hround, hwrap⟩ := toNat_round (x := length.setWidth 16) hfour
  rcases Nat.lt_or_ge 65532 length.toNat with hlong | hsmall
  · refine iff_of_false ?_ fun h => by omega
    obtain ⟨hshort, hformed⟩ := hmessage.resolve_left (by omega)
    have hdvd : 4 ∣ ((length.setWidth 16 + 3#16) &&& ~~~3#16).toNat :=
      ⟨_, (toNat_and_not_sub_one (length.setWidth 16 + 3#16) hfour).trans (Nat.mul_comm _ _)⟩
    have hlt := ((length.setWidth 16 + 3#16) &&& ~~~3#16).isLt
    exact ExtHandled.not_part le_rfl hdvd (by omega)
      (fun reached ps hps hall h => hshort reached ps hps hall (by omega)) hformed
  · have hwidth : (length.setWidth 16).toNat = length.toNat := by
      rw [BitVec.toNat_setWidth, Nat.mod_eq_of_lt (by omega)]
    rw [hwidth] at hround
    have hstop := hround (by omega)
    rw [and_iff_right hsmall]
    exact xaExtRun_handled_iff le_rfl (hstop ▸ dvd_alignUp 4 _) hstop (.inl (by omega))

/-- In `xa_base_get_param_ext` it is one of 32 bits. -/
lemma getParamExt_handled_iff (trace : Bool) (plugin : XaExtPlugin) (mem : ℕ → UInt8) (length : U32)
    (hmessage : length.toNat ≤ 65536 ∨ ExtWellFormed .get plugin mem (alignUp 4 length.toNat)) :
    ExtHandled .get plugin mem (alignUp 4 length.toNat)
        (xaBaseGetParamExtBytes trace plugin mem length) ↔
      length.toNat ≤ 2 ^ 32 - 4 ∧ ExtFits trace .get plugin mem (alignUp 4 length.toNat) := by
  have hfour : (4#32).toNat = 2 ^ 2 := rfl
  have hle := le_alignUp (n := length.toNat) (by decide : 0 < 4)
  obtain ⟨hround, hwrap⟩ := toNat_round (x := length) hfour
  rcases Nat.lt_or_ge (2 ^ 32 - 4) length.toNat with hlong | hsmall
  · refine iff_of_false ?_ fun h => by omega
    have hzero : ((length + 3#32) &&& ~~~3#32).toNat = 0 := hwrap (by omega)
    exact ExtHandled.not_part (by decide) (hzero ▸ dvd_zero 4) (by omega)
      (fun reached ps hps hall h => by omega) (hmessage.resolve_left (by omega))
  · have hstop := hround (by omega)
    rw [and_iff_right hsmall]
    refine xaExtRun_handled_iff (by decide) (hstop ▸ dvd_alignUp 4 _) hstop
      (hmessage.imp_left fun h => ?_)
    exact alignUp_le_of_dvd (by decide) ⟨16384, rfl⟩ h

/-- Both functions handle a message exactly when its length is not rounded up to `2 ^ 16` or
`2 ^ 32`, no descriptor that is reached has a length that is rounded up to `2 ^ 16`, the plugin
accesses only the data of the descriptors, and the traces are inside of the message.  Where a length
is larger, messages that are not well formed may still be rejected. -/
theorem paramExt_handled_iff (trace : Bool) (plugin : XaExtPlugin) (mem : ℕ → UInt8)
    (length : U32) :
    (length.toNat ≤ 65532 ∨ ExtShort .set plugin mem [] 0 (alignUp 4 length.toNat) ∧
          ExtWellFormed .set plugin mem (alignUp 4 length.toNat) →
      (ExtHandled .set plugin mem (alignUp 4 length.toNat)
          (xaBaseSetParamExtBytes trace plugin mem length) ↔
        length.toNat ≤ 65532 ∧ ExtFits trace .set plugin mem (alignUp 4 length.toNat))) ∧
    (length.toNat ≤ 65536 ∨ ExtWellFormed .get plugin mem (alignUp 4 length.toNat) →
      (ExtHandled .get plugin mem (alignUp 4 length.toNat)
          (xaBaseGetParamExtBytes trace plugin mem length) ↔
        length.toNat ≤ 2 ^ 32 - 4 ∧ ExtFits trace .get plugin mem (alignUp 4 length.toNat))) ∧
    (length.toNat ≤ 2 ^ 32 - 4 → ExtFits trace .get plugin mem (alignUp 4 length.toNat) →
      ExtHandled .get plugin mem (alignUp 4 length.toNat)
        (xaBaseGetParamExtBytes trace plugin mem length)) := by
  refine ⟨setParamExt_handled_iff trace plugin mem length,
    getParamExt_handled_iff trace plugin mem length, fun hlength hfits => ?_⟩
  have hfour : (4#32).toNat = 2 ^ 2 := rfl
  have hstop := (toNat_round (x := length) hfour).1 (by omega)
  rw [← hstop] at hfits ⊢
  exact xaExtRun_handled (by decide) (hstop ▸ dvd_alignUp 4 _) hfits

/-- A message of one descriptor with 12 bytes of data. -/
def dozenMessage (i : ℕ) : UInt8 := if i = 2 then 12 else 0

lemma dozenMessage_length (reached : ℕ) :
    extLength dozenMessage reached = if reached = 0 then 12 else 0 := by
  rcases Nat.eq_zero_or_pos reached with rfl | hpos
  · decide
  · have hlow : dozenMessage (reached + 2) = 0 := if_neg (by omega)
    have hhigh : dozenMessage (reached + 2 + 1) = 0 := if_neg (by omega)
    rw [extLength, extHalf, hlow, hhigh, if_neg (by omega)]
    decide

/-- A plugin that reads and writes words, such as the values of the PCM plugin. -/
def wordPlugin : XaExtPlugin where
  size _ _ := 4
  answer _ _ _ := some [1, 2, 3, 4]

lemma dozenMessage_fits (cmd : XaExtCmd) : ExtFits true cmd wordPlugin dozenMessage 16 where
  short reached ps hps hall hle := by
    rw [dozenMessage_length]
    split <;> omega
  room reached ps hps hall hle := by
    -- behind the only descriptor there is no room for another one
    cases hps with
    | nil => decide
    | cons hps =>
      have hnext : extNext dozenMessage 0 = 16 := by decide
      have hle' := hps.le
      have hgt := extNext_gt dozenMessage reached
      omega
  rows _ := dvd_rfl
  traced _ reached ps hps hall hend _ := by
    cases hps with
    | nil => omega
    | cons hps =>
      have hnext : extNext dozenMessage 0 = 16 := by decide
      have hle := hps.le
      omega

/-- A plugin that writes the first four of the 12 bytes; the traces are one row and the first bytes
of the data. -/
theorem paramExt_handled_iff_dozen :
    ExtHandled .set wordPlugin dozenMessage 16
        (xaBaseSetParamExtBytes true wordPlugin dozenMessage 16) ∧
      ExtHandled .get wordPlugin dozenMessage 16
        (xaBaseGetParamExtBytes true wordPlugin dozenMessage 16) := by
  have hhandled := paramExt_handled_iff true wordPlugin dozenMessage 16
  exact ⟨(hhandled.1 (.inl (by decide))).mpr ⟨by decide, dozenMessage_fits _⟩,
    (hhandled.2.1 (.inl (by decide))).mpr ⟨by decide, dozenMessage_fits _⟩⟩

/-- Without a length that wraps around, and with and without a trace: the message of 4 bytes is one
parameter without data, and the plugin writes a word behind the message.  The length 65535 of a
parameter in a message of 4 bytes is rounded to 0, so that the byte behind 65535 bytes of data is
overwritten, for every plugin. -/
theorem paramExt_handled_fails :
    ¬ (∃ trace : Bool, ∀ (mem : ℕ → UInt8) (length : U32),
        ExtHandled .get wordPlugin mem (alignUp 4 length.toNat)
          (xaBaseGetParamExtBytes trace wordPlugin mem length)) ∧
      ¬ ∃ (trace : Bool) (plugin : XaExtPlugin), ∀ (mem : ℕ → UInt8) (length : U32),
        ExtHandled .set plugin mem (alignUp 4 length.toNat)
          (xaBaseSetParamExtBytes trace plugin mem length) := by
  constructor
  · rintro ⟨trace, h⟩
    have hiff := getParamExt_handled_iff trace wordPlugin (fun _ => 0) 4 (.inl (by decide))
    have hroom := (hiff.mp (h _ 4)).2.room 0 [] (.nil 0) trivial (by decide)
    exact absurd hroom (by decide)
  · rintro ⟨trace, plugin, h⟩
    have hiff := setParamExt_handled_iff trace plugin (fun i => if i < 2 then 0 else 255) 4
      (.inl (by decide))
    have hlong := (hiff.mp (h _ 4)).2.short 0 [] (.nil 0) trivial (by decide)
    exact absurd hlong (by decide)

end Hikey
