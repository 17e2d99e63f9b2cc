import Hikey.Foundation.Bytes
import Hikey.Gdb.Packet

/-!
# The commands of the debugger stub (`gdbstub.c`, `gdbstub-entry.S`)

A stop of the program saves some special registers, serves the commands of the debugger until one of
them lets the program go on, and writes back the registers that were changed.  `sregs` is a cache of
the special registers: a register is read once in a stop (`readSr`), and written at its end
(`restoreSr`).  An access outside of the arrays of the stub is `none`.
-/

namespace Hikey.Gdb

/-! ## The processor -/

/-- The numbers of the special registers and the sizes, from the headers of the processor. -/
structure Config where
  numIbreak : ℕ
  numAregs : ℕ
  ibreakEnable : ℕ
  ibreakA : ℕ
  icount : ℕ
  icountLevel : ℕ
  windowBase : ℕ
  debugCause : ℕ
  debugPc : ℕ
  ps : ℕ
  debugPs : ℕ
  debugExcsave : ℕ
  /-- The registers that `init_gdbstub` marks, which `DebugExceptionEntry` saves. -/
  late : List ℕ
  /-- The registers that the processor changes by itself, such as a counter of cycles. -/
  live : List ℕ
  debugLevel : U32
  icountMask : U32
  initialBreakpoint : U32
  debugExceptionEntry : U32
  ibreak_le : numIbreak ≤ 32 ∧ ibreakA + numIbreak ≤ 256
  numAregs_le : 16 ≤ numAregs ∧ numAregs ≤ 256
  /-- The other registers are not breakpoint addresses. -/
  apart : ∀ r ∈ ibreakEnable :: icount :: icountLevel :: late, r < 256 ∧
    (r < ibreakA ∨ ibreakA + numIbreak ≤ r)
  enable_ne : ibreakEnable ≠ icount ∧ ibreakEnable ≠ icountLevel ∧ icount ≠ icountLevel
  late_ne : ibreakEnable ∉ late ∧ icount ∉ late ∧ icountLevel ∉ late
  late_mem : windowBase ∈ late ∧ debugCause ∈ late ∧ debugPc ∈ late
  /-- The registers that the entry uses are no others of these. -/
  level_apart : ∀ r ∈ [debugPs, debugExcsave], r ∉ ibreakEnable :: icount :: icountLevel :: late ∧
    (r < ibreakA ∨ ibreakA + numIbreak ≤ r)
  level_ne : debugPs ≠ debugExcsave

/-- The words of the memory that cannot be loaded or stored; what cannot be loaded cannot be stored
either. -/
structure Bus where
  loadFaults : U32 → Bool
  storeFaults : U32 → Bool
  store_of_load : ∀ word, loadFaults word → storeFaults word

/-! ## The source -/

/-- The special registers of the processor, and their cache. -/
structure Regs where
  special : ℕ → U32
  sregs : ℕ → U32
  sregsRead : ℕ → Bool
  sregsMod : ℕ → Bool
  sregsLate : ℕ → Bool

/-- `mark_read` -/
def Regs.markRead (r : Regs) (sr : ℕ) : Regs :=
  { r with sregsRead := Function.update r.sregsRead sr true }

/-- `mark_late` -/
def Regs.markLate (r : Regs) (sr : ℕ) : Regs :=
  { r with sregsLate := Function.update r.sregsLate sr true }

/-- `init_gdbstub` -/
def Regs.initGdbstub (cfg : Config) (r : Regs) : Regs := cfg.late.foldl Regs.markLate r

/-- `mark_mod` -/
def Regs.markMod (r : Regs) (sr : ℕ) : Regs :=
  { r with sregsMod := Function.update r.sregsMod sr true }

/-- `sregs[sr] = v` -/
def Regs.set (r : Regs) (sr : ℕ) (v : U32) : Regs :=
  { r with sregs := Function.update r.sregs sr v }

/-- `read_sr` -/
def Regs.readSr (r : Regs) (sr : ℕ) : Regs :=
  if !r.sregsRead sr then (r.set sr (r.special sr)).markRead sr else r

/-- `write_sr` -/
def Regs.writeSr (r : Regs) (sr : ℕ) : Regs :=
  { r with special := Function.update r.special sr (r.sregs sr) }

/-- `restore_sr` -/
def Regs.restoreSr (r : Regs) : Regs :=
  (List.range 256).foldl (fun r i => if r.sregsMod i && !r.sregsLate i then r.writeSr i else r) r

/-- The stub: the memory, the special registers, the address registers with the array where they are
saved, and the buffer of the replies. -/
structure Stub where
  mem : U32 → UInt8
  regs : Regs
  ar : ℕ → U32
  aregs : ℕ → U32
  outBuffer : ℕ → UInt8

/-- `strcpy(remcomOutBuffer, text)` -/
def Stub.strcpy (s : Stub) (text : String) : Stub :=
  { s with outBuffer := patch s.outBuffer 0 (text.toList.map Char.toUInt8 ++ [0]) }

/-- A character of `remcomInBuffer`. -/
def charAt (buffer : ℕ → UInt8) (ptr : ℕ) : Option UInt8 :=
  if ptr < bufMax then some (buffer ptr) else none

/-- The two characters of a byte. -/
def byteHex (ch : UInt8) : List UInt8 := [hexchars (ch >>> 4).toNat, hexchars (ch &&& 0xf).toNat]

/-- The byte of two characters in `hex2mem`. -/
def hexByte (ch₁ ch₂ : UInt8) : UInt8 := UInt8.ofInt (hex ch₁ * 16) ||| UInt8.ofInt (hex ch₂)

/-- `addr & ~3` -/
def wordOf (addr : U32) : U32 := addr &&& ~~~3#32

/-- The loop of `mem2hex`, from place `pos` of the buffer on; the second part says that there was no
fault. -/
def mem2hexLoop (bus : Bus) (mem : U32 → UInt8) (addr : U32) (out : ℕ → UInt8) (pos : ℕ) :
    ℕ → Option ((ℕ → UInt8) × Bool)
  | 0 => if pos < bufMax then some (Function.update out pos 0, true) else none
  | count + 1 =>
    if bus.loadFaults (wordOf addr) then some (out, false)
    else if pos + 1 < bufMax then mem2hexLoop bus mem (addr + 1)
      (patch out pos (byteHex (mem addr))) (pos + 2) count
    else none

/-- `mem2hex` into the buffer of the replies. -/
def mem2hex (bus : Bus) (s : Stub) (addr length : U32) : Option (Stub × Bool) :=
  (mem2hexLoop bus s.mem addr s.outBuffer 0 length.toInt.toNat).map fun (out, ok) =>
    ({ s with outBuffer := out }, ok)

/-- `mem2hex` of one of the arrays of the stub. -/
def Stub.wordHex (s : Stub) (v : U32) : Stub :=
  { s with outBuffer := patch s.outBuffer 0 ((leBytes v).flatMap byteHex ++ [0]) }

/-- The loop of `hex2mem`; the second part is the address behind the last byte, or nothing after a
fault. -/
def hex2memLoop (bus : Bus) (buffer : ℕ → UInt8) (ptr : ℕ) (mem : U32 → UInt8) (addr : U32) :
    ℕ → Option ((U32 → UInt8) × Option U32)
  | 0 => some (mem, some addr)
  | count + 1 => do
    let ch₁ ← charAt buffer ptr
    let ch₂ ← charAt buffer (ptr + 1)
    if bus.storeFaults (wordOf addr) then pure (mem, none)
    else hex2memLoop bus buffer (ptr + 2) (Function.update mem addr
      (hexByte ch₁ ch₂)) (addr + 1) count

/-- `hex2mem`; the second part says that the pointer that it returns is not null. -/
def hex2mem (bus : Bus) (buffer : ℕ → UInt8) (ptr : ℕ) (mem : U32 → UInt8) (addr length : U32) :
    Option ((U32 → UInt8) × Bool) :=
  if 0xece80000#32 ≤ addr then some (mem, false)
  else (hex2memLoop bus buffer ptr mem addr length.toInt.toNat).map fun (mem, last) =>
    (mem, last.any (· ≠ 0))

/-- `hex2mem` of a word of one of the arrays of the stub. -/
def hex2word (buffer : ℕ → UInt8) (ptr : ℕ) : Option U32 := do
  let c ← (List.range 8).mapM fun i => charAt buffer (ptr + i)
  pure (leWord (hexByte (c.getD 0 0) (c.getD 1 0)) (hexByte (c.getD 2 0) (c.getD 3 0))
    (hexByte (c.getD 4 0) (c.getD 5 0))
    (hexByte (c.getD 6 0) (c.getD 7 0)))

/-- The loop of `hexToInt` in a buffer of `n` more places: the number of the digits, their value,
and the place behind them. -/
def hexToIntLoop (buffer : ℕ → UInt8) (ptr numChars : ℕ) (intValue : U32) : ℕ → Option (ℕ × U32 × ℕ)
  | 0 => none
  | n + 1 =>
    if buffer ptr = 0 ∨ hex (buffer ptr) < 0 then some (numChars, intValue, ptr)
    else hexToIntLoop buffer (ptr + 1) (numChars + 1)
      (intValue <<< 4 ||| BitVec.ofInt 32 (hex (buffer ptr))) n

/-- `hexToInt` -/
def hexToInt (buffer : ℕ → UInt8) (ptr : ℕ) : Option (ℕ × U32 × ℕ) :=
  hexToIntLoop buffer ptr 0 0 (bufMax - ptr)

/-- `hexToInt(&ptr, &v) && *ptr++ == sep`: the value, and the place behind the separator. -/
def hexThen (buffer : ℕ → UInt8) (ptr : ℕ) (sep : Char) : Option (Option (U32 × ℕ)) := do
  let (numChars, v, ptr) ← hexToInt buffer ptr
  if numChars = 0 then pure none
  else do
    let ch ← charAt buffer ptr
    pure (if ch = sep.toUInt8 then some (v, ptr + 1) else none)

/-- `mAA..AA,LLLL`: read memory. -/
def Stub.readMemory (bus : Bus) (s : Stub) (buffer : ℕ → UInt8) (ptr : ℕ) : Option Stub := do
  match ← hexThen buffer ptr ',' with
  | none => pure (s.strcpy "E01")
  | some (addr, ptr) => do
    let (numChars, length, _) ← hexToInt buffer ptr
    if numChars = 0 then pure (s.strcpy "E01")
    else do
      let (s, ok) ← mem2hex bus s addr length
      pure (if ok then s else s.strcpy "E03")

/-- `MAA..AA,LLLL:`: write memory. -/
def Stub.writeMemory (bus : Bus) (s : Stub) (buffer : ℕ → UInt8) (ptr : ℕ) : Option Stub := do
  match ← hexThen buffer ptr ',' with
  | none => pure (s.strcpy "E02")
  | some (addr, ptr) => do
    match ← hexThen buffer ptr ':' with
    | none => pure (s.strcpy "E02")
    | some (length, ptr) => do
      let (mem, ok) ← hex2mem bus buffer ptr s.mem addr length
      let s := { s with mem := mem }
      pure (s.strcpy (if ok then "OK" else "E03"))

/-- Where the register `addr` of the protocol is. -/
inductive RegPlace
  | areg (i : ℕ)
  | pc
  | special (sr : ℕ)
  | user
  | unknown
  /-- Outside of the array of address registers. -/
  | outside
deriving DecidableEq, Repr

/-- The register numbers of the commands `p` and `P`. -/
def regPlace (cfg : Config) (windowbase addr : U32) : RegPlace :=
  if addr.toInt < 0x10 then
    if 0 ≤ addr.toInt then .areg addr.toNat else .outside
  else if addr = 0x20 then .pc
  else if 0x100 ≤ addr.toInt ∧ addr.toInt < 0x100 + cfg.numAregs then
    let i := ((addr - windowbase) &&& 0xff).toNat
    if i < cfg.numAregs then .areg i else .outside
  else if 0x200 ≤ addr.toInt ∧ addr.toInt < 0x300 then .special (addr &&& 0xff).toNat
  else if 0x300 ≤ addr.toInt ∧ addr.toInt < 0x400 then .user
  else .unknown

/-- `pAA..AA`: read a register. -/
def Stub.readRegister (cfg : Config) (windowbase : U32) (s : Stub) (buffer : ℕ → UInt8) (ptr : ℕ) :
    Option Stub := do
  let (numChars, addr, _) ← hexToInt buffer ptr
  if numChars = 0 then pure s
  else
    match regPlace cfg windowbase addr with
    | .areg i => pure (s.wordHex (s.aregs i))
    | .pc => pure (s.wordHex (s.regs.sregs cfg.debugPc))
    | .special sr =>
      let s := { s with regs := s.regs.readSr sr }
      pure (s.wordHex (s.regs.sregs sr))
    | .user => pure (s.strcpy "deadbabe")
    | .unknown => pure (s.strcpy "E00")
    | .outside => none

/-- `PAA..AA=VV..VV`: write a register. -/
def Stub.writeRegister (cfg : Config) (windowbase : U32) (s : Stub) (buffer : ℕ → UInt8) (ptr : ℕ) :
    Option Stub := do
  match ← hexThen buffer ptr '=' with
  | none => pure s
  | some (addr, ptr) =>
    match regPlace cfg windowbase addr with
    | .areg i => do
      let v ← hex2word buffer ptr
      pure ({ s with aregs := Function.update s.aregs i v }.strcpy "OK")
    | .pc => do
      let v ← hex2word buffer ptr
      pure ({ s with regs := s.regs.set cfg.debugPc v }.strcpy "OK")
    | .special sr => do
      let v ← hex2word buffer ptr
      pure ({ s with regs := ((s.regs.set sr v).markRead sr).markMod sr }.strcpy "OK")
    | .user | .unknown => pure (s.strcpy "E00")
    | .outside => none

/-- `sregs[IBREAKENABLE] & (1 << i)` -/
def Regs.enabled (cfg : Config) (r : Regs) (i : ℕ) : Bool := (r.sregs cfg.ibreakEnable).getLsbD i

/-- The loop of `Z1` over the breakpoint registers from `i` on. -/
def Regs.insertLoop (cfg : Config) (addr : U32) (r : Regs) (i : ℕ) : ℕ → Regs × Bool
  | 0 => (r, false)
  | n + 1 =>
    if !r.enabled cfg i || r.sregs (cfg.ibreakA + i) == addr then
      let r := (r.set (cfg.ibreakA + i) addr).markMod (cfg.ibreakA + i)
      ((r.set cfg.ibreakEnable (r.sregs cfg.ibreakEnable ||| 1#32 <<< i)).markMod cfg.ibreakEnable,
        true)
    else r.insertLoop cfg addr (i + 1) n

/-- The loop of `z1` over the breakpoint registers from `i` on. -/
def Regs.removeLoop (cfg : Config) (addr : U32) (r : Regs) (i : ℕ) : ℕ → Regs × Bool
  | 0 => (r, false)
  | n + 1 =>
    let r := r.readSr (cfg.ibreakA + i)
    if r.enabled cfg i && r.sregs (cfg.ibreakA + i) == addr then
      ((r.set cfg.ibreakEnable (r.sregs cfg.ibreakEnable &&& ~~~(1#32 <<< i))).markMod
        cfg.ibreakEnable, true)
    else r.removeLoop cfg addr (i + 1) n

/-- `*ptr++ == ',' && hexToInt(&ptr, &addr) && *ptr++ == ',' && hexToInt(&ptr, &length)`: the
address, and the place behind the length. -/
def breakArgs (buffer : ℕ → UInt8) (ptr : ℕ) : Option (Option (U32 × ℕ)) := do
  let ch ← charAt buffer ptr
  if ch ≠ ','.toUInt8 then pure none
  else do
    match ← hexThen buffer (ptr + 1) ',' with
    | none => pure none
    | some (addr, ptr) => do
      let (numChars, _, ptr) ← hexToInt buffer ptr
      pure (if numChars = 0 then none else some (addr, ptr))

/-- `Z`: insert a hardware breakpoint. -/
def Stub.insertBreak (cfg : Config) (s : Stub) (buffer : ℕ → UInt8) (ptr : ℕ) : Option Stub := do
  let kind ← charAt buffer ptr
  if kind ≠ '1'.toUInt8 then pure s
  else do
    let s := { s with regs := s.regs.readSr cfg.ibreakEnable }
    match ← breakArgs buffer (ptr + 1) with
    | none => pure (s.strcpy "E01")
    | some (addr, ptr) => do
      let ch ← charAt buffer ptr
      if ch ≠ 0 then pure (s.strcpy "E01")
      else
        let (regs, ok) := s.regs.insertLoop cfg addr 0 cfg.numIbreak
        pure ({ s with regs := regs }.strcpy (if ok then "OK" else "E02"))

/-- `z`: remove a hardware breakpoint. -/
def Stub.removeBreak (cfg : Config) (s : Stub) (buffer : ℕ → UInt8) (ptr : ℕ) : Option Stub := do
  let kind ← charAt buffer ptr
  if kind ≠ '1'.toUInt8 then pure s
  else do
    let s := { s with regs := s.regs.readSr cfg.ibreakEnable }
    match ← breakArgs buffer (ptr + 1) with
    | none => pure (s.strcpy "E01")
    | some (addr, _) =>
      let (regs, ok) := s.regs.removeLoop cfg addr 0 cfg.numIbreak
      pure ({ s with regs := regs }.strcpy (if ok then "OK" else "E02"))

/-- The optional address of the commands `c` and `s`. -/
def Stub.setPc (cfg : Config) (s : Stub) (buffer : ℕ → UInt8) (ptr : ℕ) : Option Stub := do
  let (numChars, addr, _) ← hexToInt buffer ptr
  pure (if numChars = 0 then s else { s with regs := s.regs.set cfg.debugPc addr })

/-- `s`: the instruction counter is set to stop after one instruction. -/
def Regs.singleStep (cfg : Config) (r : Regs) : Regs :=
  let r := (r.set cfg.icount 0xfffffffe).markMod cfg.icount
  (r.set cfg.icountLevel cfg.debugLevel).markMod cfg.icountLevel

/-- How a command ends: with a reply, or with the program going on. -/
inductive Outcome
  | reply (s : Stub)
  | resume (s : Stub)

/-- The body of the loop of `handle_exception`, for the packet at `ptr`. -/
def Stub.command (cfg : Config) (bus : Bus) (windowbase : U32) (s : Stub) (buffer : ℕ → UInt8)
    (ptr : ℕ) : Option Outcome := do
  let s := { s with outBuffer := Function.update s.outBuffer 0 0 }
  let ch ← charAt buffer ptr
  let ptr := ptr + 1
  if ch = '?'.toUInt8 then pure (.reply (s.strcpy "S05"))
  else if ch = 'c'.toUInt8 then .resume <$> s.setPc cfg buffer ptr
  else if ch = 'm'.toUInt8 then .reply <$> s.readMemory bus buffer ptr
  else if ch = 'M'.toUInt8 then .reply <$> s.writeMemory bus buffer ptr
  else if ch = 'p'.toUInt8 then .reply <$> s.readRegister cfg windowbase buffer ptr
  else if ch = 'P'.toUInt8 then .reply <$> s.writeRegister cfg windowbase buffer ptr
  else if ch = 'q'.toUInt8 then
    pure (.reply (if slice buffer ptr 9 = "Supported".toList.map Char.toUInt8 then s.strcpy
      "PacketSize=100" else s))
  else if ch = 's'.toUInt8 then
    (fun s : Stub => .resume { s with regs := s.regs.singleStep cfg }) <$> s.setPc cfg buffer ptr
  else if ch = 'Z'.toUInt8 then .reply <$> s.insertBreak cfg buffer ptr
  else if ch = 'z'.toUInt8 then .reply <$> s.removeBreak cfg buffer ptr
  else pure (.reply s)

/-- The debug exception up to `DebugExceptionEntry`: the processor keeps `PS` in `DEBUG_PS`, and
`DebugExceptionVector` exchanges `a2` with `DEBUG_EXCSAVE`. -/
def Regs.except (cfg : Config) (r : Regs) (a2 : U32) : Regs :=
  { r with special :=
      Function.update (Function.update r.special cfg.debugPs (r.special cfg.ps)) cfg.debugExcsave a2
        }

/-- `SAVE`, and `SAVE_` for `DEBUG_PS`: the saved registers in the cache. -/
def Regs.save (cfg : Config) (r : Regs) : ℕ → U32 := fun sr =>
  if cfg.late.contains sr then r.special (if sr = cfg.ps then cfg.debugPs else sr) else r.sregs sr

/-- What is done of `DebugExceptionVector`, `DebugExceptionEntry` and `handle_exception` before the
first command. -/
def Stub.stop (cfg : Config) (s : Stub) : Stub :=
  -- the windows of the address registers are saved from the current one on
  let first := 4 * (s.regs.special cfg.windowBase).toNat
  let aregs := fun k => if k < cfg.numAregs then s.ar ((first + k) % cfg.numAregs) else s.aregs k
  let regs := s.regs.except cfg (aregs 2)
  let sregs := regs.save cfg
  let sregs := if regs.special cfg.debugPc = cfg.initialBreakpoint then
    Function.update sregs cfg.debugPc (regs.special cfg.debugPc + 3) else sregs
  let regs : Regs :=
    { regs with sregs := sregs, sregsRead := regs.sregsLate, sregsMod := fun _ => false }
  let regs := if regs.sregs cfg.debugCause &&& cfg.icountMask ≠ 0 then
    (regs.set cfg.icountLevel 0).markMod cfg.icountLevel else regs
  { s with regs := regs, aregs := aregs }

/-- `DebugExceptionExit`, up to the address registers: it loads the saved registers but
`DEBUGCAUSE`, and `DEBUG_PS` for `rfi`, which puts it back in `PS`. -/
def Regs.leave (cfg : Config) (r : Regs) : Regs :=
  let special := Function.update r.special cfg.debugExcsave cfg.debugExceptionEntry
  let special := Function.update special cfg.debugPs (r.sregs cfg.ps)
  { r with special := fun sr =>
      if cfg.late.contains sr && sr != cfg.debugCause then r.sregs sr else special sr }

/-- `restore_sr` and `DebugExceptionExit`. -/
def Stub.go (cfg : Config) (s : Stub) : Stub :=
  let regs := s.regs.restoreSr.leave cfg
  let first := 4 * (regs.sregs cfg.windowBase).toNat
  let ar := fun k =>
    if k < cfg.numAregs then s.aregs ((k + (cfg.numAregs - first % cfg.numAregs)) % cfg.numAregs)
    else s.ar k
  { s with regs := regs, ar := ar }

end Hikey.Gdb
