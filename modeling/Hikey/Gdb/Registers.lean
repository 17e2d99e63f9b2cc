import Hikey.Gdb.Stub

/-!
# The cache of the special registers

`Regs.Holds r sr v` says that the register `sr` stands at `v` for the debugger: the cache has `v`
where it has been read or changed, and the processor has it where nothing is to be written back.  A
command asks at most one thing of the special registers (`regsAct`), and keeps this, but for a
register that was changed without having been read: reading it then brings back the value of the
processor.
-/

namespace Hikey.Gdb

/-! ## What a command asks of the special registers -/

/-- What a command does to the special registers. -/
inductive RegsAct
  | keep
  | read (sr : ℕ)
  | write (sr : ℕ) (v : U32)
  | pc (v : U32)
  | insert (addr : U32)
  | remove (addr : U32)

/-- The special registers behind a command. -/
def RegsAct.apply (cfg : Config) (r : Regs) : RegsAct → Regs
  | .keep => r
  | .read sr => r.readSr sr
  | .write sr v => ((r.set sr v).markRead sr).markMod sr
  | .pc v => r.set cfg.debugPc v
  | .insert addr => ((r.readSr cfg.ibreakEnable).insertLoop cfg addr 0 cfg.numIbreak).1
  | .remove addr => ((r.readSr cfg.ibreakEnable).removeLoop cfg addr 0 cfg.numIbreak).1

/-- What the command `p` asks of the special registers. -/
def readAct (cfg : Config) (windowbase : U32) (buffer : ℕ → UInt8) (ptr : ℕ) : Option RegsAct := do
  let (numChars, addr, _) ← hexToInt buffer ptr
  match regPlace cfg windowbase addr with
  | .special sr => pure (if numChars = 0 then .keep else .read sr)
  | _ => pure .keep

/-- What the command `P` asks of the special registers. -/
def writeAct (cfg : Config) (windowbase : U32) (buffer : ℕ → UInt8) (ptr : ℕ) : Option RegsAct := do
  match ← hexThen buffer ptr '=' with
  | none => pure .keep
  | some (addr, ptr) =>
    match regPlace cfg windowbase addr with
    | .pc => .pc <$> hex2word buffer ptr
    | .special sr => .write sr <$> hex2word buffer ptr
    | _ => pure .keep

/-- What the command `Z` asks of the special registers. -/
def insertAct (cfg : Config) (buffer : ℕ → UInt8) (ptr : ℕ) : Option RegsAct := do
  let kind ← charAt buffer ptr
  if kind ≠ '1'.toUInt8 then pure .keep
  else do
    match ← breakArgs buffer (ptr + 1) with
    | none => pure (.read cfg.ibreakEnable)
    | some (addr, ptr) => do
      let ch ← charAt buffer ptr
      pure (if ch ≠ 0 then .read cfg.ibreakEnable else .insert addr)

/-- What the command `z` asks of the special registers. -/
def removeAct (cfg : Config) (buffer : ℕ → UInt8) (ptr : ℕ) : Option RegsAct := do
  let kind ← charAt buffer ptr
  if kind ≠ '1'.toUInt8 then pure .keep
  else do
    match ← breakArgs buffer (ptr + 1) with
    | none => pure (.read cfg.ibreakEnable)
    | some (addr, _) => pure (.remove addr)

/-- What the packet at `ptr` asks of the special registers. -/
def regsAct (cfg : Config) (windowbase : U32) (buffer : ℕ → UInt8) (ptr : ℕ) : Option RegsAct := do
  let ch ← charAt buffer ptr
  if ch = 'p'.toUInt8 then readAct cfg windowbase buffer (ptr + 1)
  else if ch = 'P'.toUInt8 then writeAct cfg windowbase buffer (ptr + 1)
  else if ch = 'Z'.toUInt8 then insertAct cfg buffer (ptr + 1)
  else if ch = 'z'.toUInt8 then removeAct cfg buffer (ptr + 1)
  else pure .keep

variable {cfg : Config} {bus : Bus} {windowbase : U32} {s s' : Stub} {buffer : ℕ → UInt8}
  {ptr : ℕ} {r : Regs}

@[simp] lemma Stub.strcpy_regs (s : Stub) (text : String) : (s.strcpy text).regs = s.regs := rfl

@[simp] lemma Stub.wordHex_regs (s : Stub) (v : U32) : (s.wordHex v).regs = s.regs := rfl

lemma mem2hex_regs {addr length : U32} {ok : Bool} (h : mem2hex bus s addr length = some (s', ok)) :
    s'.regs = s.regs := by
  rw [mem2hex, Option.map_eq_some_iff] at h
  obtain ⟨⟨out, ok'⟩, -, h⟩ := h
  rw [Prod.mk.injEq] at h
  rw [← h.1]

lemma Stub.readMemory_regs (h : s.readMemory bus buffer ptr = some s') : s'.regs = s.regs := by
  simp only [Stub.readMemory, Option.bind_eq_bind, Option.bind_eq_some_iff] at h
  obtain ⟨_ | ⟨addr, ptr⟩, -, h⟩ := h
  · obtain rfl := Option.some.inj h
    rfl
  · simp only [Option.bind_eq_some_iff] at h
    obtain ⟨⟨numChars, length, _⟩, -, h⟩ := h
    by_cases hnum : numChars = 0
    · rw [if_pos hnum] at h
      obtain rfl := Option.some.inj h
      rfl
    · rw [if_neg hnum, Option.bind_eq_some_iff] at h
      obtain ⟨⟨s₁, ok⟩, hmem, h⟩ := h
      obtain rfl := Option.some.inj h
      have hsame : s₁.regs = s.regs := mem2hex_regs hmem
      cases ok <;> exact hsame

lemma Stub.writeMemory_regs (h : s.writeMemory bus buffer ptr = some s') : s'.regs = s.regs := by
  simp only [Stub.writeMemory, Option.bind_eq_bind, Option.bind_eq_some_iff] at h
  obtain ⟨_ | ⟨addr, ptr⟩, -, h⟩ := h
  · obtain rfl := Option.some.inj h
    rfl
  · simp only [Option.bind_eq_some_iff] at h
    obtain ⟨_ | ⟨length, ptr⟩, -, h⟩ := h
    · obtain rfl := Option.some.inj h
      rfl
    · simp only [Option.bind_eq_some_iff] at h
      obtain ⟨⟨mem, ok⟩, -, h⟩ := h
      obtain rfl := Option.some.inj h
      rfl

lemma Stub.readRegister_act (h : s.readRegister cfg windowbase buffer ptr = some s') :
    ∃ act, readAct cfg windowbase buffer ptr = some act ∧ s'.regs = act.apply cfg s.regs := by
  simp only [Stub.readRegister, Option.bind_eq_bind, Option.bind_eq_some_iff] at h
  obtain ⟨⟨numChars, addr, last⟩, hint, h⟩ := h
  simp only [readAct, hint, Option.bind_eq_bind, Option.bind_some]
  by_cases hnum : numChars = 0
  · simp only [if_pos hnum] at h ⊢
    obtain rfl := Option.some.inj h
    cases regPlace cfg windowbase addr <;> exact ⟨.keep, rfl, rfl⟩
  · simp only [if_neg hnum] at h ⊢
    cases hplace : regPlace cfg windowbase addr <;> simp only [hplace] at h
    case outside => cases h
    all_goals
      obtain rfl := Option.some.inj h
      exact ⟨_, rfl, rfl⟩

lemma Stub.writeRegister_act (h : s.writeRegister cfg windowbase buffer ptr = some s') :
    ∃ act, writeAct cfg windowbase buffer ptr = some act ∧ s'.regs = act.apply cfg s.regs := by
  simp only [Stub.writeRegister, Option.bind_eq_bind, Option.bind_eq_some_iff] at h
  obtain ⟨_ | ⟨addr, last⟩, harg, h⟩ := h
  · obtain rfl := Option.some.inj h
    simp only [writeAct, harg, Option.bind_eq_bind, Option.bind_some]
    exact ⟨.keep, rfl, rfl⟩
  · simp only [writeAct, harg, Option.bind_eq_bind, Option.bind_some]
    cases hplace : regPlace cfg windowbase addr <;> simp only [hplace, Option.bind_eq_some_iff] at h
    case outside => cases h
    case user | unknown =>
      obtain rfl := Option.some.inj h
      exact ⟨.keep, rfl, rfl⟩
    case areg i =>
      obtain ⟨v, -, h⟩ := h
      obtain rfl := Option.some.inj h
      exact ⟨.keep, rfl, rfl⟩
    case pc | special sr =>
      obtain ⟨v, hv, h⟩ := h
      obtain rfl := Option.some.inj h
      rw [hv]
      exact ⟨_, rfl, rfl⟩

lemma Stub.insertBreak_act (h : s.insertBreak cfg buffer ptr = some s') :
    ∃ act, insertAct cfg buffer ptr = some act ∧ s'.regs = act.apply cfg s.regs := by
  simp only [Stub.insertBreak, Option.bind_eq_bind, Option.bind_eq_some_iff] at h
  obtain ⟨kind, hkind, h⟩ := h
  simp only [insertAct, hkind, Option.bind_eq_bind, Option.bind_some]
  by_cases hone : kind ≠ '1'.toUInt8
  · rw [if_pos hone] at h ⊢
    obtain rfl := Option.some.inj h
    exact ⟨.keep, rfl, rfl⟩
  · rw [if_neg hone, Option.bind_eq_some_iff] at h
    rw [if_neg hone]
    obtain ⟨_ | ⟨addr, last⟩, harg, h⟩ := h
    · obtain rfl := Option.some.inj h
      rw [harg]
      exact ⟨_, rfl, rfl⟩
    · simp only [Option.bind_eq_some_iff] at h
      obtain ⟨ch, hch, h⟩ := h
      simp only [harg, hch, Option.bind_some]
      by_cases hend : ch ≠ 0
      · rw [if_pos hend] at h ⊢
        obtain rfl := Option.some.inj h
        exact ⟨_, rfl, rfl⟩
      · rw [if_neg hend] at h ⊢
        obtain rfl := Option.some.inj h
        exact ⟨_, rfl, rfl⟩

lemma Stub.removeBreak_act (h : s.removeBreak cfg buffer ptr = some s') :
    ∃ act, removeAct cfg buffer ptr = some act ∧ s'.regs = act.apply cfg s.regs := by
  simp only [Stub.removeBreak, Option.bind_eq_bind, Option.bind_eq_some_iff] at h
  obtain ⟨kind, hkind, h⟩ := h
  simp only [removeAct, hkind, Option.bind_eq_bind, Option.bind_some]
  by_cases hone : kind ≠ '1'.toUInt8
  · rw [if_pos hone] at h ⊢
    obtain rfl := Option.some.inj h
    exact ⟨.keep, rfl, rfl⟩
  · rw [if_neg hone, Option.bind_eq_some_iff] at h
    rw [if_neg hone]
    obtain ⟨_ | ⟨addr, last⟩, harg, h⟩ := h
    · obtain rfl := Option.some.inj h
      rw [harg]
      exact ⟨_, rfl, rfl⟩
    · obtain rfl := Option.some.inj h
      rw [harg]
      exact ⟨_, rfl, rfl⟩

/-- A command that is answered does what its packet asks of the special registers. -/
lemma Stub.command_act (h : s.command cfg bus windowbase buffer ptr = some (.reply s')) :
    ∃ act, regsAct cfg windowbase buffer ptr = some act ∧ s'.regs = act.apply cfg s.regs := by
  simp only [Stub.command, Option.bind_eq_bind, Option.bind_eq_some_iff] at h
  obtain ⟨ch, hch, h⟩ := h
  have replied : ∀ {o : Option Stub}, Outcome.reply <$> o = some (.reply s') → o = some s' := by
    intro o ho
    cases o with
    | none => cases ho
    | some s₁ =>
      obtain rfl := Outcome.reply.inj (Option.some.inj ho)
      rfl
  have resumed : ∀ {o : Option Stub} {f : Stub → Stub}, (fun s => Outcome.resume (f s)) <$> o ≠ some
      (.reply s') := by
    intro o f ho
    cases o with
    | none => cases ho
    | some s₁ => cases Option.some.inj ho
  simp only [regsAct, hch, Option.bind_eq_bind, Option.bind_some]
  have hregs : ({ s with outBuffer := Function.update s.outBuffer 0 0 } : Stub).regs = s.regs := rfl
  generalize ({ s with outBuffer := Function.update s.outBuffer 0 0 } : Stub) = s₀ at h hregs
  rw [← hregs]
  rcases ne_or_eq ch 'p'.toUInt8 with hp | rfl
  · rcases ne_or_eq ch 'P'.toUInt8 with hP | rfl
    · rcases ne_or_eq ch 'Z'.toUInt8 with hZ | rfl
      · rcases ne_or_eq ch 'z'.toUInt8 with hz | rfl
        · simp only [if_neg hp, if_neg hP, if_neg hZ, if_neg hz] at h ⊢
          refine ⟨.keep, rfl, ?_⟩
          by_cases hstatus : ch = '?'.toUInt8
          · rw [if_pos hstatus] at h
            obtain rfl := Outcome.reply.inj (Option.some.inj h)
            rfl
          · rw [if_neg hstatus] at h
            by_cases hc : ch = 'c'.toUInt8
            · rw [if_pos hc] at h
              exact absurd h (resumed (f := id))
            · rw [if_neg hc] at h
              by_cases hm : ch = 'm'.toUInt8
              · rw [if_pos hm] at h
                exact Stub.readMemory_regs (replied h)
              · rw [if_neg hm] at h
                by_cases hM : ch = 'M'.toUInt8
                · rw [if_pos hM] at h
                  exact Stub.writeMemory_regs (replied h)
                · rw [if_neg hM] at h
                  by_cases hq : ch = 'q'.toUInt8
                  · rw [if_pos hq] at h
                    obtain rfl := Outcome.reply.inj (Option.some.inj h)
                    split_ifs <;> rfl
                  · rw [if_neg hq] at h
                    by_cases hs : ch = 's'.toUInt8
                    · rw [if_pos hs] at h
                      exact absurd h resumed
                    · rw [if_neg hs] at h
                      obtain rfl := Outcome.reply.inj (Option.some.inj h)
                      rfl
        · simp +decide only [if_true, if_false] at h
          simp +decide only [if_true, if_false]
          exact Stub.removeBreak_act (replied h)
      · simp +decide only [if_true, if_false] at h
        simp +decide only [if_true, if_false]
        exact Stub.insertBreak_act (replied h)
    · simp +decide only [if_true, if_false] at h
      simp +decide only [if_true, if_false]
      exact Stub.writeRegister_act (replied h)
  · simp +decide only [if_true, if_false] at h
    simp +decide only [if_true, if_false]
    exact Stub.readRegister_act (replied h)

/-- A command that lets the program go on may set the program counter, and may start a single step.
-/
lemma Stub.command_resume (h : s.command cfg bus windowbase buffer ptr = some (.resume s')) :
    ∃ r, (r = s.regs ∨ ∃ v, r = s.regs.set cfg.debugPc v) ∧
      (s'.regs = r ∨ s'.regs = r.singleStep cfg) := by
  simp only [Stub.command, Option.bind_eq_bind, Option.bind_eq_some_iff] at h
  obtain ⟨ch, -, h⟩ := h
  have hregs : ({ s with outBuffer := Function.update s.outBuffer 0 0 } : Stub).regs = s.regs := rfl
  generalize ({ s with outBuffer := Function.update s.outBuffer 0 0 } : Stub) = s₀ at h hregs
  rw [← hregs]
  have replied : ∀ {o : Option Stub}, Outcome.reply <$> o ≠ some (.resume s') := by
    intro o ho
    cases o with
    | none => cases ho
    | some s₁ => cases Option.some.inj ho
  have pc : ∀ {s₁ : Stub}, s₀.setPc cfg buffer (ptr + 1) = some s₁ →
      s₁.regs = s₀.regs ∨ ∃ v, s₁.regs = s₀.regs.set cfg.debugPc v := by
    intro s₁ hpc
    simp only [Stub.setPc, Option.bind_eq_bind, Option.bind_eq_some_iff] at hpc
    obtain ⟨⟨numChars, addr, last⟩, -, hpc⟩ := hpc
    obtain rfl := Option.some.inj hpc
    by_cases hnum : numChars = 0
    · exact .inl (by rw [if_pos hnum])
    · exact .inr ⟨addr, by rw [if_neg hnum]⟩
  rcases ne_or_eq ch 'c'.toUInt8 with hc | rfl
  · rcases ne_or_eq ch 's'.toUInt8 with hs | rfl
    · simp only [if_neg hc, if_neg hs] at h
      split_ifs at h <;> first | exact absurd h replied | cases h
    · simp +decide only [if_true, if_false] at h
      rw [Option.map_eq_map, Option.map_eq_some_iff] at h
      obtain ⟨s₁, hpc, h⟩ := h
      obtain rfl := Outcome.resume.inj h
      exact ⟨s₁.regs, pc hpc, .inr rfl⟩
  · simp +decide only [if_true, if_false] at h
    rw [Option.map_eq_map, Option.map_eq_some_iff] at h
    obtain ⟨s₁, hpc, h⟩ := h
    obtain rfl := Outcome.resume.inj h
    exact ⟨s₁.regs, pc hpc, .inl rfl⟩

/-! ## Where a register stands -/

/-- The register `sr` stands at `v`: the cache has it once it was read or changed, and the processor
has it where nothing is to be written back. -/
structure Regs.Holds (r : Regs) (sr : ℕ) (v : U32) : Prop where
  cached : r.sregsRead sr = true ∨ r.sregsMod sr = true → r.sregs sr = v
  untouched : r.sregsMod sr = false → r.sregsLate sr = false → r.special sr = v

/-- A register that was changed has been read. -/
def Regs.Clean (r : Regs) (sr : ℕ) : Prop := r.sregsMod sr = true → r.sregsRead sr = true

/-- The registers that are saved when the program stops are marked, and read. -/
structure Regs.Saved (cfg : Config) (r : Regs) : Prop where
  late : ∀ sr, r.sregsLate sr = cfg.late.contains sr
  read : ∀ sr, r.sregsLate sr = true → r.sregsRead sr = true

variable {sr sr' : ℕ} {v v' : U32}

/-- Nothing of the register `sr` changes. -/
structure Regs.SameAt (r r' : Regs) (sr : ℕ) : Prop where
  special : r'.special sr = r.special sr
  sregs : r'.sregs sr = r.sregs sr
  read : r'.sregsRead sr = r.sregsRead sr
  mod : r'.sregsMod sr = r.sregsMod sr
  late : r'.sregsLate sr = r.sregsLate sr

section SameAt

variable {r' r'' : Regs}

lemma Regs.SameAt.refl (r : Regs) (sr : ℕ) : r.SameAt r sr := ⟨rfl, rfl, rfl, rfl, rfl⟩

lemma Regs.SameAt.trans (h : r.SameAt r' sr) (h' : r'.SameAt r'' sr) : r.SameAt r'' sr :=
  ⟨h'.special.trans h.special, h'.sregs.trans h.sregs, h'.read.trans h.read, h'.mod.trans h.mod,
    h'.late.trans h.late⟩

lemma Regs.SameAt.holds (h : r.SameAt r' sr) (hholds : r.Holds sr v) : r'.Holds sr v := by
  refine ⟨fun hc => ?_, fun hm hl => ?_⟩
  · rw [h.read, h.mod] at hc
    rw [h.sregs, hholds.cached hc]
  · rw [h.mod] at hm
    rw [h.late] at hl
    rw [h.special, hholds.untouched hm hl]

lemma Regs.SameAt.clean (h : r.SameAt r' sr) (hclean : r.Clean sr) : r'.Clean sr := by
  intro hm
  rw [h.mod] at hm
  rw [h.read, hclean hm]

lemma Regs.sameAt_set (r : Regs) (v : U32) (hne : sr ≠ sr') : r.SameAt (r.set sr' v) sr :=
  ⟨rfl, Function.update_of_ne hne .., rfl, rfl, rfl⟩

lemma Regs.sameAt_markMod (r : Regs) (hne : sr ≠ sr') : r.SameAt (r.markMod sr') sr :=
  ⟨rfl, rfl, rfl, Function.update_of_ne hne .., rfl⟩

lemma Regs.sameAt_markRead (r : Regs) (hne : sr ≠ sr') : r.SameAt (r.markRead sr') sr :=
  ⟨rfl, rfl, Function.update_of_ne hne .., rfl, rfl⟩

lemma Regs.sameAt_readSr (r : Regs) (hne : sr ≠ sr') : r.SameAt (r.readSr sr') sr := by
  rw [Regs.readSr]
  split_ifs
  · exact (r.sameAt_set _ hne).trans (Regs.sameAt_markRead _ hne)
  · exact .refl r sr

/-- A register that is not for breakpoints stays where breakpoints are inserted. -/
lemma Regs.sameAt_insertLoop {addr : U32} {i n : ℕ} (hen : sr ≠ cfg.ibreakEnable)
    (hbreak : ∀ j, i ≤ j → j < i + n → sr ≠ cfg.ibreakA + j) :
    r.SameAt (r.insertLoop cfg addr i n).1 sr := by
  induction n generalizing i with
  | zero => exact .refl r sr
  | succ n ih =>
    rw [Regs.insertLoop]
    have hi := hbreak i le_rfl (by omega)
    split_ifs
    · exact (((r.sameAt_set _ hi).trans (Regs.sameAt_markMod _ hi)).trans
        (Regs.sameAt_set _ _ hen)).trans
        (Regs.sameAt_markMod _ hen)
    · exact ih fun j hij hj => hbreak j (by omega) (by omega)

/-- A register that is not for breakpoints stays where breakpoints are removed. -/
lemma Regs.sameAt_removeLoop {addr : U32} {i n : ℕ} (hen : sr ≠ cfg.ibreakEnable)
    (hbreak : ∀ j, i ≤ j → j < i + n → sr ≠ cfg.ibreakA + j) :
    r.SameAt (r.removeLoop cfg addr i n).1 sr := by
  induction n generalizing i r with
  | zero => exact .refl r sr
  | succ n ih =>
    rw [Regs.removeLoop]
    have hi := hbreak i le_rfl (by omega)
    refine (r.sameAt_readSr hi).trans ?_
    split_ifs
    · exact (Regs.sameAt_set _ _ hen).trans (Regs.sameAt_markMod _ hen)
    · exact ih fun j hij hj => hbreak j (by omega) (by omega)

end SameAt

lemma Regs.Saved.readSr (hsaved : r.Saved cfg) : (r.readSr sr').Saved cfg := by
  rw [Regs.readSr]
  split_ifs
  · refine ⟨hsaved.late, fun sr hl => ?_⟩
    simp only [Regs.markRead, Regs.set]
    by_cases hsr : sr = sr'
    · rw [hsr, Function.update_self]
    · rw [Function.update_of_ne hsr]
      exact hsaved.read sr hl
  · exact hsaved

lemma Regs.readSr_read (r : Regs) (sr : ℕ) : (r.readSr sr).sregsRead sr = true := by
  rw [Regs.readSr]
  split_ifs with hread
  · exact Function.update_self ..
  · simpa using hread

lemma Regs.Saved.not_late_of_not_read (hsaved : r.Saved cfg) (hread : r.sregsRead sr = false) :
    r.sregsLate sr = false := by
  by_contra hl
  rw [hsaved.read sr (by simpa using hl)] at hread
  cases hread

/-- Reading a register that was not changed blindly leaves it where it stands, and the cache has its
value. -/
lemma Regs.Holds.readSr (h : r.Holds sr v) (hsaved : r.Saved cfg) (hclean : r.Clean sr) :
    (r.readSr sr).Holds sr v ∧ (r.readSr sr).Clean sr ∧ (r.readSr sr).sregs sr = v := by
  by_cases hread : r.sregsRead sr = true
  · rw [Regs.readSr, hread]
    exact ⟨h, hclean, h.cached (.inl hread)⟩
  · rw [Bool.not_eq_true] at hread
    have hmod : r.sregsMod sr = false := by
      by_contra hm
      rw [hclean (by simpa using hm)] at hread
      cases hread
    have hvalue := h.untouched hmod (hsaved.not_late_of_not_read hread)
    have hset : (r.readSr sr).sregs sr = v := by
      rw [Regs.readSr, hread]
      exact (Function.update_self ..).trans hvalue
    refine ⟨⟨fun _ => hset, fun _ _ => ?_⟩, fun _ => ?_, hset⟩
    · rw [Regs.readSr, hread]
      exact hvalue
    · rw [Regs.readSr, hread]
      exact Function.update_self ..

/-- Writing a register. -/
lemma Regs.holds_write (r : Regs) (sr : ℕ) (v : U32) :
    (((r.set sr v).markRead sr).markMod sr).Holds sr v ∧
    (((r.set sr v).markRead sr).markMod sr).Clean sr := by
  refine ⟨⟨fun _ => Function.update_self .., fun hm _ => ?_⟩, fun _ => Function.update_self ..⟩
  have hmod : (((r.set sr v).markRead sr).markMod sr).sregsMod sr = true := Function.update_self ..
  rw [hmod] at hm
  cases hm

lemma Regs.Saved.set (hsaved : r.Saved cfg) : (r.set sr v).Saved cfg := ⟨hsaved.late, hsaved.read⟩

lemma Regs.Saved.markMod (hsaved : r.Saved cfg) : (r.markMod sr).Saved cfg :=
  ⟨hsaved.late, hsaved.read⟩

lemma Regs.Saved.markRead (hsaved : r.Saved cfg) : (r.markRead sr).Saved cfg := by
  refine ⟨hsaved.late, fun sr' hl => ?_⟩
  simp only [Regs.markRead]
  by_cases hsr : sr' = sr
  · rw [hsr, Function.update_self]
  · rw [Function.update_of_ne hsr]
    exact hsaved.read sr' hl

lemma Regs.Saved.insertLoop {addr : U32} {i n : ℕ} (hsaved : r.Saved cfg) :
    (r.insertLoop cfg addr i n).1.Saved cfg := by
  induction n generalizing i with
  | zero => exact hsaved
  | succ n ih =>
    rw [Regs.insertLoop]
    split_ifs
    · exact hsaved.set.markMod.set.markMod
    · exact ih

lemma Regs.Saved.removeLoop {addr : U32} {i n : ℕ} (hsaved : r.Saved cfg) :
    (r.removeLoop cfg addr i n).1.Saved cfg := by
  induction n generalizing i r with
  | zero => exact hsaved
  | succ n ih =>
    rw [Regs.removeLoop]
    split_ifs
    · exact hsaved.readSr.set.markMod
    · exact ih hsaved.readSr

lemma Regs.Saved.apply (hsaved : r.Saved cfg) (act : RegsAct) : (act.apply cfg r).Saved cfg := by
  cases act with
  | keep => exact hsaved
  | read => exact hsaved.readSr
  | write => exact hsaved.set.markRead.markMod
  | pc => exact hsaved.set
  | insert => exact hsaved.readSr.insertLoop
  | remove => exact hsaved.readSr.removeLoop

/-! ## Registers that only the debugger writes -/

/-- A register that nothing but the program and the command `P` with its number changes. -/
def Config.Ordinary (cfg : Config) (sr : ℕ) : Prop :=
  sr < 256 ∧ (sr < cfg.ibreakA ∨ cfg.ibreakA + cfg.numIbreak ≤ sr) ∧
    sr ∉ [cfg.ibreakEnable, cfg.icount, cfg.icountLevel, cfg.debugPc, cfg.debugCause, cfg.debugPs,
      cfg.debugExcsave] ++ cfg.live

/-- The registers that an ordinary one is not. -/
structure Config.NotSpecial (cfg : Config) (sr : ℕ) : Prop where
  enable : sr ≠ cfg.ibreakEnable
  count : sr ≠ cfg.icount
  level : sr ≠ cfg.icountLevel
  pc : sr ≠ cfg.debugPc
  cause : sr ≠ cfg.debugCause
  ps : sr ≠ cfg.debugPs
  excsave : sr ≠ cfg.debugExcsave

lemma Config.Ordinary.notSpecial (hord : cfg.Ordinary sr) : cfg.NotSpecial sr := by
  obtain ⟨-, -, hother⟩ := hord
  simp only [List.mem_append, List.mem_cons, List.not_mem_nil, or_false, not_or] at hother
  obtain ⟨⟨henable, hcount, hlevel, hpc, hcause, hps, hexcsave⟩, -⟩ := hother
  exact ⟨henable, hcount, hlevel, hpc, hcause, hps, hexcsave⟩

/-- The value of register `sr` behind an action. -/
def RegsAct.written (sr : ℕ) (v : U32) : RegsAct → U32
  | .write sr' v' => if sr' = sr then v' else v
  | _ => v

/-- The last value that the packets of a session give to the register `sr`, which stood at `v`. -/
def lastWritten (sr : ℕ) (v : U32) (acts : List RegsAct) : U32 := acts.foldl (RegsAct.written sr) v

/-- An action leaves an ordinary register where the debugger has put it. -/
lemma Regs.Holds.apply (hord : cfg.Ordinary sr) (h : r.Holds sr v) (hclean : r.Clean sr)
    (hsaved : r.Saved cfg)
    (act : RegsAct) :
    (act.apply cfg r).Holds sr (act.written sr v) ∧ (act.apply cfg r).Clean sr := by
  have hbreak := hord.2.1
  have hen := hord.notSpecial.enable
  have hpc := hord.notSpecial.pc
  have frame : ∀ {r' : Regs}, r.SameAt r' sr → r'.Holds sr v ∧ r'.Clean sr := fun hsame =>
      ⟨hsame.holds h, hsame.clean hclean⟩
  cases act with
  | keep => exact ⟨h, hclean⟩
  | read sr' =>
    by_cases hsr : sr = sr'
    · subst hsr
      obtain ⟨hholds, hclean', -⟩ := h.readSr hsaved hclean
      exact ⟨hholds, hclean'⟩
    · exact frame (r.sameAt_readSr hsr)
  | write sr' v' =>
    by_cases hsr : sr' = sr
    · subst hsr
      rw [RegsAct.written, if_pos rfl]
      exact r.holds_write sr' v'
    · rw [RegsAct.written, if_neg hsr]
      have hne := Ne.symm hsr
      exact frame (((r.sameAt_set _ hne).trans (Regs.sameAt_markRead _ hne)).trans
        (Regs.sameAt_markMod _ hne))
  | pc v' => exact frame (r.sameAt_set v' hpc)
  | insert addr =>
    exact frame ((r.sameAt_readSr hen).trans (Regs.sameAt_insertLoop hen fun j _ hj => by omega))
  | remove addr =>
    exact frame ((r.sameAt_readSr hen).trans (Regs.sameAt_removeLoop hen fun j _ hj => by omega))

/-- What `restore_sr` writes back. -/
lemma Regs.restoreSr_eq (r : Regs) : r.restoreSr =
    { r with special := fun i => if i < 256 ∧ r.sregsMod i = true ∧
    r.sregsLate i = false then r.sregs i else r.special i } := by
  have upto : ∀ n, (List.range n).foldl
      (fun r i => if r.sregsMod i && !r.sregsLate i then r.writeSr i else r) r =
      { r with special := fun i => if i < n ∧ r.sregsMod i = true ∧
        r.sregsLate i = false then r.sregs i else r.special i } := by
    intro n
    induction n with
    | zero => simp
    | succ n ih =>
      rw [List.range_succ, List.foldl_append, ih, List.foldl_cons, List.foldl_nil]
      by_cases hn : r.sregsMod n = true ∧ r.sregsLate n = false
      · simp only [hn.1, hn.2, Bool.not_false, Bool.and_self, if_true, Regs.writeSr]
        congr 1
        funext i
        by_cases hi : i = n
        · subst hi
          simp [hn]
        · rw [Function.update_of_ne hi]
          simp [show i < n + 1 ↔ i < n by omega]
      · have hoff : (r.sregsMod n && !r.sregsLate n) = false := by
          cases hm : r.sregsMod n <;> cases hl : r.sregsLate n <;> simp_all
        simp only [hoff, Bool.false_eq_true, if_false]
        congr 1
        funext i
        by_cases hi : i = n
        · subst hi
          simp [hn]
        · simp [show i < n + 1 ↔ i < n by omega]
  exact upto 256

/-- What a stop does to a register other than `ICOUNTLEVEL` and those that the entry uses; the
program counter is changed where it is that of the initial breakpoint. -/
structure Regs.StoppedAt (cfg : Config) (r r' : Regs) (sr : ℕ) : Prop where
  special : r'.special sr = r.special sr
  late : r'.sregsLate sr = r.sregsLate sr
  read : r'.sregsRead sr = r.sregsLate sr
  mod : r'.sregsMod sr = false
  sregs : sr ≠ cfg.debugPc →
    r'.sregs sr = if cfg.late.contains sr then r.special sr else r.sregs sr

lemma Regs.except_special (r : Regs) (a2 : U32) (hps : sr ≠ cfg.debugPs)
    (hexcsave : sr ≠ cfg.debugExcsave) : (r.except cfg a2).special sr = r.special sr :=
  (Function.update_of_ne hexcsave ..).trans (Function.update_of_ne hps ..)

/-- The value of `PS` for the debugger is the one that the exception has kept. -/
lemma Regs.save_except (r : Regs) (a2 : U32) (hps : sr ≠ cfg.debugPs)
    (hexcsave : sr ≠ cfg.debugExcsave) :
    (r.except cfg a2).save cfg sr =
      if cfg.late.contains sr then r.special sr else r.sregs sr := by
  unfold Regs.save
  by_cases hsr : sr = cfg.ps
  · have hkept : (r.except cfg a2).special cfg.debugPs = r.special cfg.ps :=
      (Function.update_of_ne cfg.level_ne ..).trans (Function.update_self ..)
    rw [if_pos hsr, hkept, hsr]
    rfl
  · rw [if_neg hsr, r.except_special a2 hps hexcsave]
    rfl

lemma Stub.stoppedAt (s : Stub) (hlevel : sr ≠ cfg.icountLevel) (hps : sr ≠ cfg.debugPs)
    (hexcsave : sr ≠ cfg.debugExcsave) : s.regs.StoppedAt cfg (s.stop cfg).regs sr := by
  simp only [Stub.stop]
  generalize (if 2 < cfg.numAregs then _ else _ : U32) = a2
  have hspecial := s.regs.except_special a2 hps hexcsave
  have hsave := s.regs.save_except a2 hps hexcsave
  have hlate : (s.regs.except cfg a2).sregsLate = s.regs.sregsLate := rfl
  generalize s.regs.except cfg a2 = r at hspecial hsave hlate ⊢
  generalize hregs :
    (if r.special cfg.debugPc = cfg.initialBreakpoint then _ else _ : ℕ → U32) = sregs
  have hvalue : sr ≠ cfg.debugPc →
      sregs sr = if cfg.late.contains sr then s.regs.special sr else s.regs.sregs sr := by
    intro hpc
    rw [← hregs, ← hsave]
    split_ifs
    · exact Function.update_of_ne hpc ..
    · rfl
  split_ifs
  · exact ⟨hspecial, congrFun hlate sr, congrFun hlate sr, Function.update_of_ne hlevel ..,
      fun hpc => (Function.update_of_ne hlevel ..).trans (hvalue hpc)⟩
  · exact ⟨hspecial, congrFun hlate sr, congrFun hlate sr, rfl, hvalue⟩

/-- The entry finds the program's `a2` and `PS` in the registers that it uses. -/
lemma Stub.stop_level (s : Stub) :
    (s.stop cfg).regs.special cfg.debugExcsave = (s.stop cfg).aregs 2 ∧
      (s.stop cfg).regs.special cfg.debugPs = s.regs.special cfg.ps := by
  simp only [Stub.stop]
  split_ifs <;>
    exact ⟨Function.update_self .., (Function.update_of_ne cfg.level_ne ..).trans
      (Function.update_self ..)⟩

/-- The registers that the entry has saved are marked as read. -/
lemma Stub.saved_stop (hlate : ∀ sr, s.regs.sregsLate sr = cfg.late.contains sr) :
    (s.stop cfg).regs.Saved cfg := by
  have hmarks : (s.stop cfg).regs.sregsLate = s.regs.sregsLate ∧
      (s.stop cfg).regs.sregsRead = s.regs.sregsLate := by
    simp only [Stub.stop]
    split_ifs <;> exact ⟨rfl, rfl⟩
  refine ⟨fun sr => ?_, fun sr hl => ?_⟩
  · rw [hmarks.1, hlate]
  · rw [hmarks.2, ← hmarks.1, hl]

/-- `init_gdbstub` marks the registers that are saved, from the cleared marks of the start on. -/
lemma Regs.initGdbstub_late (hclear : ∀ sr, r.sregsLate sr = false) (sr : ℕ) :
    (r.initGdbstub cfg).sregsLate sr = cfg.late.contains sr := by
  have marks : ∀ (late : List ℕ) (r : Regs),
      (late.foldl Regs.markLate r).sregsLate sr = (r.sregsLate sr || late.contains sr) := by
    intro late
    induction late with
    | nil => simp
    | cons n late ih =>
      intro r
      rw [List.foldl_cons, ih, List.contains_cons]
      by_cases hsr : sr = n
      · simp [Regs.markLate, hsr]
      · have hbeq : (sr == n) = false := by simpa using hsr
        simp only [Regs.markLate, Function.update_of_ne hsr, hbeq, Bool.false_or]
  rw [Regs.initGdbstub, marks, hclear, Bool.false_or]

/-- A register stands where the program had it when it stops. -/
lemma Regs.StoppedAt.holds {r' : Regs} (h : r.StoppedAt cfg r' sr)
    (hlate : ∀ sr, r.sregsLate sr = cfg.late.contains sr) (hpc : sr ≠ cfg.debugPc) :
    r'.Holds sr (r.special sr) ∧ r'.Clean sr := by
  refine ⟨⟨fun hc => ?_, fun _ _ => h.special⟩, fun hm => ?_⟩
  · rw [h.mod, h.read, hlate] at hc
    rw [h.sregs hpc, if_pos (by simpa using hc)]
  · rw [h.mod] at hm
    cases hm

lemma Stub.holds_stop (hord : cfg.Ordinary sr)
    (hlate : ∀ sr, s.regs.sregsLate sr = cfg.late.contains sr) :
    (s.stop cfg).regs.Holds sr (s.regs.special sr) ∧ (s.stop cfg).regs.Clean sr ∧
      (s.stop cfg).regs.Saved cfg := by
  have hne := hord.notSpecial
  obtain ⟨hholds, hclean⟩ := (s.stoppedAt hne.level hne.ps hne.excsave).holds hlate hne.pc
  exact ⟨hholds, hclean, Stub.saved_stop hlate⟩

/-- A register stands where the program has it when it goes on. -/
lemma Stub.special_go (hlt : sr < 256) (hcause : sr ≠ cfg.debugCause) (hps : sr ≠ cfg.debugPs)
    (hexcsave : sr ≠ cfg.debugExcsave) (h : s.regs.Holds sr v) (hsaved : s.regs.Saved cfg) :
    (s.go cfg).regs.special sr = v := by
  simp only [Stub.go, Regs.leave, Regs.restoreSr_eq]
  have hl := hsaved.late sr
  cases hlate : s.regs.sregsLate sr with
  | true =>
    rw [hlate] at hl
    have hne : (sr != cfg.debugCause) = true := by simpa using hcause
    rw [if_pos (by rw [← hl, hne]; rfl), h.cached (.inl (hsaved.read sr hlate))]
  | false =>
    rw [hlate] at hl
    rw [← hl, Bool.false_and, if_neg Bool.false_ne_true, Function.update_of_ne hps,
      Function.update_of_ne hexcsave]
    cases hmod : s.regs.sregsMod sr with
    | true => rw [if_pos ⟨hlt, rfl, hlate⟩, h.cached (.inr hmod)]
    | false =>
      rw [if_neg (by simp), h.untouched hmod hlate]

/-- The exit overwrites the registers that the entry uses, whatever the debugger has written. -/
lemma Stub.go_level (s : Stub) :
    (s.go cfg).regs.special cfg.debugExcsave = cfg.debugExceptionEntry ∧
      (s.go cfg).regs.special cfg.debugPs = s.regs.sregs cfg.ps := by
  have hapart : ∀ r ∈ [cfg.debugPs, cfg.debugExcsave], cfg.late.contains r = false := fun r hr => by
    have hnot := (cfg.level_apart r hr).1
    simp only [List.mem_cons, not_or] at hnot
    simpa using hnot.2.2.2
  simp only [Stub.go, Regs.leave, Regs.restoreSr_eq]
  rw [hapart _ (by simp), hapart _ (by simp)]
  refine ⟨?_, Function.update_self ..⟩
  exact (Function.update_of_ne cfg.level_ne.symm ..).trans (Function.update_self ..)

/-- The commands of one stop that are answered, with the state behind each of them. -/
inductive Session (cfg : Config) (bus : Bus) (windowbase : U32) :
    Stub → List ((ℕ → UInt8) × ℕ) → Stub → Prop
  | nil (s : Stub) : Session cfg bus windowbase s [] s
  | snoc {s s₁ s₂ : Stub} {packets : List ((ℕ → UInt8) × ℕ)} (buffer : ℕ → UInt8) (ptr : ℕ)
      (hrun : Session cfg bus windowbase s packets s₁)
      (h : s₁.command cfg bus windowbase buffer ptr = some (.reply s₂)) :
      Session cfg bus windowbase s (packets ++ [(buffer, ptr)]) s₂

/-- What the packets of a session ask of the special registers. -/
def sessionActs (cfg : Config) (windowbase : U32) (packets : List ((ℕ → UInt8) × ℕ)) :
    List RegsAct :=
  packets.filterMap fun packet => regsAct cfg windowbase packet.1 packet.2

/-- In every state of a session an ordinary register stands at the value that was written last. -/
lemma Session.holds {s₀ : Stub} {packets : List ((ℕ → UInt8) × ℕ)}
    (hrun : Session cfg bus windowbase (s₀.stop cfg) packets s)
    (hord : cfg.Ordinary sr) (hlate : ∀ sr, s₀.regs.sregsLate sr = cfg.late.contains sr) :
    s.regs.Holds sr (lastWritten sr (s₀.regs.special sr) (sessionActs cfg windowbase packets)) ∧
      s.regs.Clean sr ∧
      s.regs.Saved cfg := by
  induction hrun with
  | nil => exact Stub.holds_stop hord hlate
  | snoc buffer ptr _ h ih =>
    obtain ⟨hholds, hclean, hsaved⟩ := ih
    obtain ⟨act, hact, hregs⟩ := Stub.command_act h
    have hstep := hholds.apply hord hclean hsaved act
    rw [sessionActs, List.filterMap_append, lastWritten, List.foldl_append]
    simp only [List.filterMap_cons, hact, List.filterMap_nil, List.foldl_cons, List.foldl_nil]
    rw [hregs]
    exact ⟨hstep.1, hstep.2, hsaved.apply act⟩

/-- The reply that is a text. -/
lemma Stub.strcpy_string (s : Stub) (text : String) (hchars : 0 ∉ text.toList.map Char.toUInt8)
    (hlen : (text.toList.map Char.toUInt8).length < bufMax) :
    cString (s.strcpy text).outBuffer 0 bufMax = some (text.toList.map Char.toUInt8) := by
  simp only [Stub.strcpy]
  exact cString_patch (fun ch hch hzero => hchars (hzero ▸ hch)) hlen

/-- The reply that is a word. -/
lemma Stub.wordHex_string (s : Stub) (v : U32) :
    cString (s.wordHex v).outBuffer 0 bufMax = some ((leBytes v).flatMap byteHex) := by
  simp only [Stub.wordHex]
  apply cString_patch
  · intro ch hch
    rw [List.mem_flatMap] at hch
    obtain ⟨b, -, hch⟩ := hch
    simp only [byteHex, List.mem_cons, List.not_mem_nil, or_false] at hch
    rcases hch with rfl | rfl
    · exact fun h => absurd (h ▸ hexchars_mem _) (by decide)
    · exact fun h => absurd (h ▸ hexchars_mem _) (by decide)
  · have hlen : ((leBytes v).flatMap byteHex).length = 8 := rfl
    rw [hlen, bufMax]
    omega

/-- The reply to a command `p` that names a special register. -/
lemma Stub.command_read (bus : Bus) (s : Stub) {numChars last : ℕ} {addr : U32}
    (hp : charAt buffer ptr = some 'p'.toUInt8)
    (hint : hexToInt buffer (ptr + 1) = some (numChars, addr, last)) (hnum : numChars ≠ 0)
    (hplace : regPlace cfg windowbase addr = .special sr) :
    ∃ s', s.command cfg bus windowbase buffer ptr = some (.reply s') ∧
      cString s'.outBuffer 0 bufMax = some
        ((leBytes ((s.regs.readSr sr).sregs sr)).flatMap byteHex) := by
  refine ⟨({ s with outBuffer := Function.update s.outBuffer 0 0, regs := s.regs.readSr sr
    } : Stub).wordHex
    ((s.regs.readSr sr).sregs sr), ?_, Stub.wordHex_string _ _⟩
  simp only [Stub.command, hp, Option.bind_eq_bind, Option.bind_some]
  simp +decide only [if_true, if_false]
  simp only [Stub.readRegister, hint, Option.bind_eq_bind, Option.bind_some, if_neg hnum, hplace]
  rfl

/-- A processor with two breakpoints and 64 address registers. -/
def twoBreakpoints : Config where
  numIbreak := 2
  numAregs := 64
  ibreakEnable := 96
  ibreakA := 128
  icount := 236
  icountLevel := 237
  windowBase := 72
  debugCause := 233
  debugPc := 182
  ps := 230
  debugPs := 198
  debugExcsave := 214
  late := [0, 1, 2, 3, 72, 73, 182, 209, 230, 232, 233, 238]
  live := [177, 226, 234]
  debugLevel := 6
  icountMask := 1
  initialBreakpoint := 0xc000a140
  debugExceptionEntry := 0xc000a000
  ibreak_le := by decide
  numAregs_le := by decide
  apart := by decide
  enable_ne := by decide
  late_ne := by decide
  late_mem := by decide
  level_apart := by decide
  level_ne := by decide

/-- A stub behind `init_gdbstub`. -/
def freshStub : Stub where
  mem := fun _ => 0
  regs := (Regs.mk (fun sr => BitVec.ofNat 32 sr) (fun _ => 0) (fun _ => false) (fun _ => false)
    (fun _ => false)).initGdbstub twoBreakpoints
  ar := fun _ => 0
  aregs := fun _ => 0
  outBuffer := fun _ => 0

lemma freshStub_late (sr : ℕ) :
    freshStub.regs.sregsLate sr = twoBreakpoints.late.contains sr :=
  Regs.initGdbstub_late (fun _ => rfl) sr

/-- A memory without faults. -/
def Bus.free : Bus := ⟨fun _ => false, fun _ => false, fun _ h => h⟩

end Hikey.Gdb
