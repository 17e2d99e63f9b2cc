import Hikey.Foundation.Patch

/-!
# The image of the boot loader (`gen_loader_hikey.py`)

The loader, BL1 and the optional NS BL1U are written into one file, each at a running file pointer;
an entry in the head of the loader names the block of each of them.  Blocks have 512 bytes and are
counted from 2048 bytes in front of the file.  At last the end of BL1 is noted in the head.  `none`
is an error that ends the script.
-/

namespace Hikey

/-! ## The source -/

/-- The file that is written; what has not been written reads as zeros. -/
structure OutFile where
  data : ℕ → UInt8
  pos : ℕ

/-- `seek` -/
def OutFile.seek (fp : OutFile) (pos : ℕ) : OutFile := { fp with pos := pos }

/-- `write` -/
def OutFile.write (fp : OutFile) (buf : List UInt8) : OutFile where
  data := patch fp.data fp.pos buf
  pos := fp.pos + buf.length

/-- `struct.pack('i', n)` -/
def structPackInt (n : ℤ) : Option (List UInt8) :=
  if -2 ^ 31 ≤ n ∧ n < 2 ^ 31 then some (leBytes (BitVec.ofInt 32 n)) else none

/-- The number of type `i` at a position. -/
def OutFile.int (fp : OutFile) (pos : ℕ) : ℤ :=
  (leWord (fp.data pos) (fp.data (pos + 1)) (fp.data (pos + 2)) (fp.data (pos + 3))).toInt

/-- `struct.pack('8s', s)` -/
def structPackName (s : String) : List UInt8 :=
  (s.toList.map Char.toUInt8 ++ List.replicate 8 0).take 8

/-- `struct.pack('8s8siii', 'ENTRYHDR', name, lba, blocks, bootp)` -/
def entryHead (name : String) (lba blocks bootp : ℤ) : Option (List UInt8) := do
  let lba ← structPackInt lba
  let blocks ← structPackInt blocks
  let bootp ← structPackInt bootp
  return structPackName "ENTRYHDR" ++ structPackName name ++ lba ++ blocks ++ bootp

/-- `s1_entry_name` -/
def s1EntryName : List String := ["loader", "bl1", "ns_bl1u"]

/-- `block_size` -/
def blockSize : ℕ := 512

/-- An image, the block in its entry, the number of its blocks, and where in the file it was
written. -/
structure PlacedImage where
  lba : ℕ
  blocks : ℕ
  offset : ℕ
  img : List UInt8
deriving DecidableEq, Repr

/-- `generator`, and the images added so far. -/
structure Generator where
  fp : OutFile
  idx : ℕ
  pEntry : ℕ
  pFile : ℕ
  pLoaderEnd : ℕ
  images : List PlacedImage

/-- A generator with a new file. -/
def Generator.new : Generator := ⟨⟨fun _ => 0, 0⟩, 0, 0, 0, 0, []⟩

/-- `blocks` in `add` -/
def blockCount (fsize : ℕ) : ℕ := (fsize + blockSize - 1) / blockSize

/-- `left_bytes` in `add` -/
def leftBytes (idx fsize : ℕ) : ℕ :=
  if idx = 0 then 2048 - fsize
  else if fsize % blockSize ≠ 0 then blockSize - fsize % blockSize
  else fsize % blockSize

/-- The pointers that `add` sets before it writes. -/
def Generator.locate (g : Generator) (lba : ℕ) : Generator :=
  if g.idx = 0 then { g with pEntry := 28 }
  else if 1 < g.idx then
    -- the third image is not loaded with the others, so the end of the loader is where it would
    -- begin
    { g with
      pLoaderEnd := g.pFile
      pFile := if g.pFile < lba * blockSize - 2048 then lba * blockSize - 2048 else g.pFile }
  else g

/-- The loop of `add` that writes the image; `img` is what has not been read of it. -/
def writeBlocks (fp : OutFile) (pFile : ℕ) (img : List UInt8) : (blocks : ℕ) → OutFile × ℕ
  | 0 => (fp, pFile)
  | blocks + 1 => writeBlocks ((fp.seek pFile).write (img.take blockSize)) (pFile + blockSize)
      (img.drop blockSize) blocks

/-- The loop of `add` that pads the image. -/
def writeZeros (fp : OutFile) : (leftBytes : ℕ) → OutFile
  | 0 => fp
  | leftBytes + 1 => writeZeros (fp.write [0]) leftBytes

/-- `add` -/
def Generator.add (g : Generator) (lba : ℕ) (img : List UInt8) : Option Generator :=
  let fsize := img.length
  let blocks := blockCount fsize
  let g := g.locate lba
  if g.idx = 0 ∧ 2048 < fsize then none
  else
    let written := writeBlocks g.fp g.pFile img blocks
    let pFile := if g.idx = 0 then 2048 else written.2
    let fp := writeZeros written.1 (leftBytes g.idx fsize)
    match entryHead (s1EntryName.getD g.idx "") lba blocks 1 with
    | none => none
    | some byte => some
      { fp := (fp.seek g.pEntry).write byte
        idx := g.idx + 1
        pEntry := g.pEntry + 28
        pFile := pFile
        pLoaderEnd := g.pLoaderEnd
        images := g.images ++ [⟨lba, blocks, g.pFile, img⟩] }

/-- `create` -/
def Generator.create (g : Generator) (imgLoader imgBl1 : List UInt8)
    (imgNsBl1u : Option (List UInt8)) : Option Generator := do
  let g ← g.add 4 imgLoader
  let g ← g.add 8 imgBl1
  match imgNsBl1u with
  | none => return g
  | some img => g.add 192 img

/-- `end` -/
def Generator.finish (g : Generator) : Option Generator := do
  let start := g.fp.int 20
  let finish := start + g.pLoaderEnd
  let byte ← structPackInt finish
  return { g with fp := (g.fp.seek 24).write byte }

/-- The script. -/
def genLoader (imgLoader imgBl1 : List UInt8) (imgNsBl1u : Option (List UInt8)) :
    Option Generator := do
  let g ← Generator.new.create imgLoader imgBl1 imgNsBl1u
  g.finish

/-! ## What is promised -/

/-- The position is in the blocks that the entry names. -/
def PlacedImage.Covers (p : PlacedImage) (i : ℕ) : Prop :=
  p.lba * blockSize - 2048 ≤ i ∧ i < p.lba * blockSize - 2048 + p.blocks * blockSize

/-- `l_loader_start` in the head of the loader, which is filled up with zeros. -/
def loaderStart (imgLoader : List UInt8) : ℤ :=
  (leWord (imgLoader.getD 20 0) (imgLoader.getD 21 0) (imgLoader.getD 22 0)
    (imgLoader.getD 23 0)).toInt

/-- The image is as its entries say. -/
structure LoaderOk (imgLoader : List UInt8) (g : Generator) : Prop where
  placed : ∀ p ∈ g.images, p.img ≠ [] → p.lba * blockSize - 2048 = p.offset
  covers : ∀ p ∈ g.images, p.img.length ≤ p.blocks * blockSize
  apart : g.images.Pairwise fun p q => ∀ i, ¬ (p.Covers i ∧ q.Covers i)
  entries : ∀ k (hk : k < g.images.length),
    entryHead (s1EntryName.getD k "") g.images[k].lba g.images[k].blocks 1
      = some (slice g.fp.data (28 + 28 * k) 28)
  contents : ∀ p ∈ g.images.tail, slice g.fp.data p.offset p.img.length = p.img
  head : ∀ i < 24, g.fp.data i = imgLoader.getD i 0
  loader : ∀ i, 112 ≤ i → i < 2048 → g.fp.data i = imgLoader.getD i 0
  loaderEnd : ∀ p, g.images[1]? = some p →
    g.fp.int 24 = loaderStart imgLoader + (p.offset + p.blocks * blockSize)

section WriteLoops

variable {fp : OutFile} {pFile n : ℕ} {img : List UInt8}

/-- With blocks enough, the whole image is written at the file pointer. -/
lemma writeBlocks_data (h : img.length ≤ n * blockSize) :
    (writeBlocks fp pFile img n).1.data = patch fp.data pFile img ∧
    (writeBlocks fp pFile img n).2 = pFile + n * blockSize := by
  induction n generalizing fp pFile img with
  | zero =>
    obtain rfl : img = [] := List.eq_nil_of_length_eq_zero (by omega)
    simp [writeBlocks]
  | succ n ih =>
    rw [Nat.add_mul, one_mul] at h ⊢
    have hdrop : (img.drop blockSize).length ≤ n * blockSize := by
      rw [List.length_drop]
      omega
    obtain ⟨hdata, hptr⟩ :=
      @ih ((fp.seek pFile).write (img.take blockSize)) (pFile + blockSize) _ hdrop
    rw [writeBlocks]
    refine ⟨hdata.trans ?_, hptr.trans (by omega)⟩
    simp only [OutFile.write, OutFile.seek]
    rcases le_or_gt blockSize img.length with hlong | hshort
    · have htake : (img.take blockSize).length = blockSize := by
        rw [List.length_take]
        omega
      calc patch (patch fp.data pFile (img.take blockSize)) (pFile + blockSize) (img.drop blockSize)
          = patch (patch fp.data pFile (img.take blockSize)) (pFile + (img.take blockSize).length)
            (img.drop blockSize) := by
            rw [htake]
        _ = patch fp.data pFile img := by rw [patch_append, List.take_append_drop]
    · rw [List.drop_eq_nil_of_le (by omega), patch_nil, List.take_of_length_le (by omega)]

/-- The file stays at the end of the image, not at the end of its last block. -/
lemma writeBlocks_pos (h : img.length ≤ (n + 1) * blockSize) (hlast : n * blockSize < img.length) :
    (writeBlocks fp pFile img (n + 1)).1.pos = pFile + img.length := by
  induction n generalizing fp pFile img with
  | zero =>
    simp only [writeBlocks, OutFile.write, OutFile.seek]
    rw [List.take_of_length_le (by omega)]
  | succ n ih =>
    rw [Nat.add_mul, one_mul] at h
    have hlong : (n + 1) * blockSize = n * blockSize + blockSize := by rw [Nat.add_mul, one_mul]
    have hblock : 0 < blockSize := Nat.zero_lt_succ 511
    rw [writeBlocks, ih (by rw [List.length_drop]; omega) (by rw [List.length_drop]; omega),
      List.length_drop]
    omega

lemma writeZeros_data : (writeZeros fp n).data = patch fp.data fp.pos (List.replicate n 0) := by
  induction n generalizing fp with
  | zero => simp [writeZeros]
  | succ n ih =>
    rw [writeZeros, ih]
    exact @patch_append _ _ _ [0] _

lemma le_blockCount : img.length ≤ blockCount img.length * blockSize := by
  simp only [blockCount, blockSize]
  omega

/-- The image is written with its padding.  An empty image has no block, so its padding begins where
the file stands. -/
lemma writeZeros_writeBlocks (h : img = [] → n = 0 ∨ fp.pos = pFile) :
    (writeZeros (writeBlocks fp pFile img (blockCount img.length)).1 n).data
      = patch fp.data pFile (img ++ List.replicate n 0) := by
  rw [writeZeros_data, (writeBlocks_data le_blockCount).1]
  rcases Nat.eq_zero_or_pos img.length with hnil | hpos
  · obtain rfl : img = [] := List.eq_nil_of_length_eq_zero hnil
    rcases h rfl with rfl | hfp
    · simp
    · simp [blockCount, blockSize, writeBlocks, hfp]
  · obtain ⟨m, hm⟩ : ∃ m, blockCount img.length = m + 1 := by
      refine ⟨blockCount img.length - 1, ?_⟩
      simp only [blockCount, blockSize]
      omega
    have hlast : m * blockSize < img.length := by
      simp only [blockCount, blockSize] at hm ⊢
      omega
    rw [hm, writeBlocks_pos (hm ▸ le_blockCount) hlast, patch_append]

end WriteLoops

/-! ## One image -/

lemma length_leBytes (x : BitVec 32) : (leBytes x).length = 4 := by simp [leBytes]

lemma entryHead_eq_some {name : String} {lba blocks bootp : ℤ} {byte : List UInt8} :
    entryHead name lba blocks bootp = some byte ↔
      ((-2 ^ 31 ≤ lba ∧ lba < 2 ^ 31) ∧ (-2 ^ 31 ≤ blocks ∧ blocks < 2 ^ 31) ∧ -2 ^ 31 ≤ bootp ∧
      bootp < 2 ^ 31) ∧
        structPackName "ENTRYHDR" ++ structPackName name ++ leBytes (BitVec.ofInt 32 lba) ++ leBytes
          (BitVec.ofInt 32 blocks)
          ++ leBytes (BitVec.ofInt 32 bootp) = byte := by
  simp only [entryHead, structPackInt, Option.bind_eq_bind, Option.pure_def]
  split_ifs <;> simp_all

lemma length_entryHead {name : String} {lba blocks bootp : ℤ} {byte : List UInt8}
    (h : entryHead name lba blocks bootp = some byte) : byte.length = 28 := by
  obtain ⟨-, rfl⟩ := entryHead_eq_some.1 h
  simp [structPackName, length_leBytes]

/-- What `add` has done. -/
structure Added (g : Generator) (lba : ℕ) (img byte : List UInt8) (g' : Generator) : Prop where
  entry : entryHead (s1EntryName.getD g.idx "") lba (blockCount img.length) 1 = some byte
  data : g'.fp.data =
    patch (patch g.fp.data (g.locate lba).pFile
    (img ++ List.replicate (leftBytes g.idx img.length) 0))
    (g.locate lba).pEntry byte
  idx : g'.idx = g.idx + 1
  pEntry : g'.pEntry = (g.locate lba).pEntry + 28
  pFile : g'.pFile = if g.idx = 0 then 2048 else (g.locate lba).pFile + blockCount
    img.length * blockSize
  pLoaderEnd : g'.pLoaderEnd = (g.locate lba).pLoaderEnd
  images : g'.images = g.images ++ [⟨lba, blockCount img.length, (g.locate lba).pFile, img⟩]

section Add

variable {g g' : Generator} {lba : ℕ} {img : List UInt8}

lemma locate_idx : (g.locate lba).idx = g.idx := by
  rw [Generator.locate]
  split_ifs <;> rfl

lemma locate_fp : (g.locate lba).fp = g.fp := by
  rw [Generator.locate]
  split_ifs <;> rfl

lemma locate_images : (g.locate lba).images = g.images := by
  rw [Generator.locate]
  split_ifs <;> rfl

/-- `add` fails for a loader that is too long and for an entry that does not fit into its fields. -/
lemma add_isSome : (∃ g', g.add lba img = some g') ↔ ¬ (g.idx = 0 ∧ 2048 < img.length)
    ∧ ∃ byte, entryHead (s1EntryName.getD g.idx "") lba (blockCount img.length) 1 = some byte := by
  rcases em (g.idx = 0 ∧ 2048 < img.length) with h | h
  · simp [Generator.add, locate_idx, h]
  · simp only [Generator.add, locate_idx, if_neg h]
    cases entryHead (s1EntryName.getD g.idx "") lba (blockCount img.length) 1 with
    | none => simp
    | some byte => simpa using h

/-- What `add` does. -/
lemma add_spec (hfp : img = [] → g.idx = 0 → g.fp.pos = (g.locate lba).pFile)
    (h : g.add lba img = some g') :
    ∃ byte, Added g lba img byte g' := by
  obtain ⟨hsize, byte, hbyte⟩ := add_isSome.1 ⟨g', h⟩
  simp only [Generator.add, locate_idx, locate_fp, locate_images, if_neg hsize, hbyte,
    Option.some.injEq] at h
  subst h
  refine ⟨byte, hbyte, ?_, rfl, rfl, ?_, rfl, rfl⟩
  · simp only [OutFile.write, OutFile.seek]
    rw [writeZeros_writeBlocks]
    intro hnil
    rcases Nat.eq_zero_or_pos g.idx with hidx | hidx
    · exact .inr (hfp hnil hidx)
    · simp [leftBytes, hnil, hidx.ne']
  · rw [(writeBlocks_data le_blockCount).2]

end Add

/-! ## The whole image -/

/-- The file with the loader and BL1. -/
def twoImages (imgLoader imgBl1 e₀ e₁ : List UInt8) : ℕ → UInt8 :=
  patch (patch (patch
    (patch (fun _ => 0) 0 (imgLoader ++ List.replicate (2048 - imgLoader.length) 0)) 28 e₀) 2048
    (imgBl1 ++ List.replicate (leftBytes 1 imgBl1.length) 0)) 56 e₁

/-- The end of BL1 in the file. -/
def bl1End (imgBl1 : List UInt8) : ℕ := 2048 + blockCount imgBl1.length * blockSize

/-- The generator after the loader and BL1. -/
structure TwoAdded (imgLoader imgBl1 e₀ e₁ : List UInt8) (g : Generator) : Prop where
  loader : entryHead "loader" 4 (blockCount imgLoader.length) 1 = some e₀
  bl1 : entryHead "bl1" 8 (blockCount imgBl1.length) 1 = some e₁
  data : g.fp.data = twoImages imgLoader imgBl1 e₀ e₁
  idx : g.idx = 2
  pEntry : g.pEntry = 84
  pFile : g.pFile = bl1End imgBl1
  pLoaderEnd : g.pLoaderEnd = 0
  images : g.images =
    [⟨4, blockCount imgLoader.length, 0, imgLoader⟩, ⟨8, blockCount imgBl1.length, 2048, imgBl1⟩]

section Run

variable {imgLoader imgBl1 img e₀ e₁ e₂ : List UInt8} {ns : Option (List UInt8)}
  {g g₁ g₂ : Generator}

lemma create_two (h₁ : Generator.new.add 4 imgLoader = some g₁) (h₂ : g₁.add 8 imgBl1 = some g₂) :
    ∃ e₀ e₁, TwoAdded imgLoader imgBl1 e₀ e₁ g₂ := by
  obtain ⟨e₀, a₀⟩ := add_spec (fun _ _ => rfl) h₁
  have hidx : g₁.idx = 1 := a₀.idx
  obtain ⟨e₁, a₁⟩ := add_spec (fun _ h => by omega) h₂
  have hlocate : g₁.locate 8 = g₁ := by simp [Generator.locate, hidx]
  have hfile : g₁.pFile = 2048 := a₀.pFile
  have hentry : g₁.pEntry = 56 := a₀.pEntry
  have hdata := a₁.data
  have himages := a₁.images
  rw [hlocate] at hdata himages
  refine ⟨e₀, e₁, a₀.entry, ?_, ?_, ?_, ?_, ?_, ?_, ?_⟩
  · simpa [hidx, s1EntryName] using a₁.entry
  · rw [hdata, a₀.data, hfile, hentry, hidx]
    rfl
  · rw [a₁.idx, hidx]
  · rw [a₁.pEntry, hlocate, hentry]
  · rw [a₁.pFile, hlocate, hidx, hfile]
    rfl
  · rw [a₁.pLoaderEnd, hlocate, a₀.pLoaderEnd]
    rfl
  · rw [himages, a₀.images, hfile]
    rfl

/-- Where the third image begins. -/
def nsStart (imgBl1 : List UInt8) : ℕ := max (bl1End imgBl1) 96256

lemma locate_third (h : TwoAdded imgLoader imgBl1 e₀ e₁ g₂) :
    g₂.locate 192 = { g₂ with pLoaderEnd := bl1End imgBl1, pFile := nsStart imgBl1 } := by
  have hlate : 1 < g₂.idx := by rw [h.idx]; omega
  rw [Generator.locate, if_neg (by omega), if_pos hlate, h.pFile]
  have hmax : (if bl1End imgBl1 < 192 * blockSize - 2048 then 192 * blockSize - 2048
      else bl1End imgBl1) = nsStart imgBl1 := by
    have hblock : 192 * blockSize - 2048 = 96256 := rfl
    rw [hblock, nsStart]
    split_ifs <;> omega
  rw [hmax]

lemma genLoader_eq_some : genLoader imgLoader imgBl1 ns = some g ↔
    ∃ g₁ g₂ g₃, Generator.new.add 4 imgLoader = some g₁
    ∧ g₁.add 8 imgBl1 = some g₂ ∧ ns.elim (some g₂) (g₂.add 192) = some g₃ ∧
      g₃.finish = some g := by
  cases ns <;> simp [genLoader, Generator.create, Option.bind_eq_some_iff, Option.bind_assoc]

lemma finish_eq_some : g₁.finish = some g ↔
    (-2 ^ 31 ≤ g₁.fp.int 20 + g₁.pLoaderEnd ∧ g₁.fp.int 20 + g₁.pLoaderEnd < 2 ^ 31) ∧
      g = { g₁ with fp :=
  (g₁.fp.seek 24).write (leBytes (BitVec.ofInt 32 (g₁.fp.int 20 + g₁.pLoaderEnd))) } := by
  simp only [Generator.finish, structPackInt]
  split_ifs with h
  · rw [and_iff_right h]
    simp [eq_comm]
  · exact ⟨(fun hnone => nomatch hnone), fun hok => absurd hok.1 h⟩

/-- The number written at 24 is read back. -/
lemma int_leBytes {fp : OutFile} {mem : ℕ → UInt8} {pos : ℕ} {x : BitVec 32}
    (h : fp.data = patch mem pos (leBytes x)) :
    fp.int pos = x.toInt := by
  obtain ⟨hbytes, hword⟩ := leWord_leBytes x
  have hread : ∀ i (hi : i < (leBytes x).length), fp.data (pos + i) = (leBytes x)[i] :=
    fun i hi => h ▸ patch_add hi
  have h0 := hread 0 (by simp [leBytes])
  have h1 := hread 1 (by simp [leBytes])
  have h2 := hread 2 (by simp [leBytes])
  have h3 := hread 3 (by simp [leBytes])
  simp only [hbytes, Nat.add_zero, List.getElem_cons_zero, List.getElem_cons_succ] at h0 h1 h2 h3
  rw [OutFile.int, h0, h1, h2, h3, hword]

/-- The number at 24 is the one at 20 plus the end that was noted. -/
lemma int_finish (h : g₁.finish = some g) :
    g₁.fp.int 20 = g.fp.int 20 ∧ g.fp.int 24 = g.fp.int 20 + g₁.pLoaderEnd := by
  obtain ⟨⟨hlow, hhigh⟩, rfl⟩ := finish_eq_some.1 h
  have hstart : ((g₁.fp.seek 24).write
      (leBytes (BitVec.ofInt 32 (g₁.fp.int 20 + g₁.pLoaderEnd)))).int 20 = g₁.fp.int 20 := by
    simp only [OutFile.int, OutFile.write, OutFile.seek]
    rw [patch_of_notMem (by omega), patch_of_notMem (by omega), patch_of_notMem (by omega),
      patch_of_notMem (by omega)]
  have hend : ((g₁.fp.seek 24).write (leBytes (BitVec.ofInt 32 (g₁.fp.int 20 + g₁.pLoaderEnd)))).int
      24
      = (BitVec.ofInt 32 (g₁.fp.int 20 + g₁.pLoaderEnd)).toInt := int_leBytes rfl
  refine ⟨hstart.symm, ?_⟩
  rw [hstart, hend, BitVec.toInt_ofInt_eq_self (by omega) hlow hhigh]

/-- The words of the head are those of the loader. -/
lemma int_loaderStart (h : ∀ i < 24, g.fp.data i = imgLoader.getD i 0) :
    g.fp.int 20 = loaderStart imgLoader := by
  simp only [OutFile.int, loaderStart, h 20 (by omega), h (20 + 1) (by omega),
    h (20 + 2) (by omega), h (20 + 3) (by omega)]

/-- The padded image fills its blocks. -/
lemma length_padded (imgBl1 : List UInt8) :
    (imgBl1 ++ List.replicate (leftBytes 1 imgBl1.length) 0).length =
    blockCount imgBl1.length * blockSize := by
  rw [List.length_append, List.length_replicate, leftBytes, if_neg one_ne_zero]
  split_ifs with h
  · simp only [blockCount, blockSize] at h ⊢
    omega
  · simp only [blockCount, blockSize] at h ⊢
    omega

/-- The images, their blocks, and where they are. -/
def threePlaced (imgLoader imgBl1 img : List UInt8) : List PlacedImage :=
  [⟨4, blockCount imgLoader.length, 0, imgLoader⟩, ⟨8, blockCount imgBl1.length, 2048, imgBl1⟩,
    ⟨192, blockCount img.length, nsStart imgBl1, img⟩]

/-- The generator after the third image. -/
structure ThreeAdded (imgLoader imgBl1 img e₀ e₁ e₂ : List UInt8) (g : Generator) : Prop where
  nsBl1u : entryHead "ns_bl1u" 192 (blockCount img.length) 1 = some e₂
  data : g.fp.data = patch (patch (twoImages imgLoader imgBl1 e₀ e₁) (nsStart imgBl1)
    (img ++ List.replicate (leftBytes 2 img.length) 0)) 84 e₂
  pLoaderEnd : g.pLoaderEnd = bl1End imgBl1
  images : g.images = threePlaced imgLoader imgBl1 img

lemma add_third (htwo : TwoAdded imgLoader imgBl1 e₀ e₁ g₂) (h : g₂.add 192 img = some g) :
    ∃ e₂, ThreeAdded imgLoader imgBl1 img e₀ e₁ e₂ g := by
  have hlocate := locate_third htwo
  obtain ⟨e₂, a₂⟩ := add_spec (fun _ hidx => nomatch htwo.idx.symm.trans hidx) h
  have hentry := a₂.entry
  have hdata := a₂.data
  have himages := a₂.images
  rw [htwo.idx] at hentry
  rw [hlocate, htwo.data, htwo.idx, htwo.pEntry] at hdata
  rw [hlocate, htwo.images] at himages
  exact ⟨e₂, hentry, hdata, by rw [a₂.pLoaderEnd, hlocate], himages⟩

/-- The end of BL1 is noted only with a third image, and that image is in the block of its entry
only if BL1 ends before. -/
lemma ok_of_genLoader (h : genLoader imgLoader imgBl1 ns = some g) (hok : LoaderOk imgLoader g) :
    ∃ img, ns = some img ∧ (imgBl1.length ≤ 94208 ∨ img = []) ∧ blockCount img.length < 2 ^ 31
      ∧ loaderStart imgLoader + bl1End imgBl1 < 2 ^ 31 := by
  obtain ⟨g₁, g₂, g₃, h₁, h₂, h₃, hfinish⟩ := genLoader_eq_some.1 h
  obtain ⟨e₀, e₁, htwo⟩ := create_two h₁ h₂
  obtain ⟨hstart, hend⟩ := int_finish hfinish
  have hrange := (finish_eq_some.1 hfinish).1
  have himages : g.images = g₃.images := by rw [(finish_eq_some.1 hfinish).2]
  rw [int_loaderStart hok.head] at hstart hend
  rw [hstart] at hrange
  cases ns with
  | none =>
    obtain rfl : g₂ = g₃ := Option.some.inj h₃
    have hnoted : g.fp.int 24 = loaderStart imgLoader + bl1End imgBl1 := by
      rw [hok.loaderEnd ⟨8, blockCount imgBl1.length, 2048, imgBl1⟩
        (by rw [himages, htwo.images]; rfl), bl1End]
      push_cast
      rfl
    have hpos : 2048 ≤ bl1End imgBl1 := Nat.le_add_right _ _
    rw [hend, htwo.pLoaderEnd] at hnoted
    omega
  | some img =>
    replace h₃ : g₂.add 192 img = some g₃ := h₃
    obtain ⟨e₂, hthree⟩ := add_third htwo h₃
    have hblocks := (entryHead_eq_some.1 hthree.nsBl1u).1.2.1
    have hthird : ⟨192, blockCount img.length, nsStart imgBl1, img⟩ ∈ g.images := by
      rw [himages, hthree.images]
      simp [threePlaced]
    refine ⟨img, rfl, ?_, by omega, ?_⟩
    · rcases em (img = []) with hnil | hne
      · exact .inr hnil
      · have hplaced := hok.placed _ hthird hne
        simp only [nsStart, bl1End, blockCount, blockSize] at hplaced
        omega
    · rw [hthree.pLoaderEnd] at hrange
      exact hrange.2

/-- The file with the three images and the end of BL1. -/
def threeImages (imgLoader imgBl1 img e₀ e₁ e₂ : List UInt8) (loaderEnd : BitVec 32) : ℕ → UInt8 :=
  patch (patch (patch (twoImages imgLoader imgBl1 e₀ e₁) (nsStart imgBl1)
    (img ++ List.replicate (leftBytes 2 img.length) 0))
    84 e₂) 24 (leBytes loaderEnd)

section ThreeImages

variable {i : ℕ} {w : BitVec 32}

/-- Zeros behind a list do not change what is read of it. -/
lemma getD_append_zeros {n : ℕ} : (img ++ List.replicate n 0).getD i 0 = img.getD i 0 := by
  simp only [List.getD_eq_getElem?_getD, List.getElem?_append, List.getElem?_replicate]
  split_ifs with himg hzero
  · rfl
  · rw [List.getElem?_eq_none (by omega)]
    rfl
  · rw [List.getElem?_eq_none (by omega)]

/-- Outside of the entries the loader is not written again. -/
lemma twoImages_loader (he₀ : e₀.length = 28) (he₁ : e₁.length = 28)
    (hi : i < 28 ∨ 84 ≤ i ∧ i < 2048) :
    twoImages imgLoader imgBl1 e₀ e₁ i = imgLoader.getD i 0 := by
  rw [twoImages, patch_of_notMem (by omega), patch_of_notMem (by omega),
    patch_of_notMem (by omega)]
  simp only [patch, Nat.zero_le, if_true, Nat.sub_zero]
  exact getD_append_zeros

lemma nsStart_ge (imgBl1 : List UInt8) : bl1End imgBl1 ≤ nsStart imgBl1 ∧ 96256 ≤ nsStart imgBl1 :=
  ⟨le_max_left _ _, le_max_right _ _⟩

lemma threeImages_loader (he₀ : e₀.length = 28) (he₁ : e₁.length = 28) (he₂ : e₂.length = 28)
    (hi : i < 24 ∨ 112 ≤ i ∧ i < 2048) :
    threeImages imgLoader imgBl1 img e₀ e₁ e₂ w i = imgLoader.getD i 0 := by
  have hns := (nsStart_ge imgBl1).2
  have hend := length_leBytes w
  rw [threeImages, patch_of_notMem (by omega), patch_of_notMem (by omega),
    patch_of_notMem (by omega), twoImages_loader he₀ he₁ (by omega)]

/-- The third image is behind BL1 and behind the head, so it covers nothing of them. -/
lemma threeImages_slice {pos n : ℕ} (he₂ : e₂.length = 28) (hfree : pos + n ≤ 24 ∨ 28 ≤ pos)
    (hentry : pos + n ≤ 84 ∨ 112 ≤ pos) (hns : pos + n ≤ nsStart imgBl1) :
    slice (threeImages imgLoader imgBl1 img e₀ e₁ e₂ w) pos n = slice
      (twoImages imgLoader imgBl1 e₀ e₁) pos n := by
  rw [threeImages, slice_patch (by rw [length_leBytes]; omega), slice_patch (by omega),
    slice_patch (.inl hns)]

/-- The three entries, BL1 and the third image are in the file as they were written. -/
lemma threeImages_parts (he₀ : e₀.length = 28) (he₁ : e₁.length = 28) (he₂ : e₂.length = 28) :
    slice (threeImages imgLoader imgBl1 img e₀ e₁ e₂ w) 28 28 = e₀
      ∧ slice (threeImages imgLoader imgBl1 img e₀ e₁ e₂ w) 56 28 = e₁
      ∧ slice (threeImages imgLoader imgBl1 img e₀ e₁ e₂ w) 84 28 = e₂
      ∧ slice (threeImages imgLoader imgBl1 img e₀ e₁ e₂ w) 2048 imgBl1.length = imgBl1
      ∧ slice (threeImages imgLoader imgBl1 img e₀ e₁ e₂ w) (nsStart imgBl1) img.length = img := by
  obtain ⟨hbl1, hns⟩ := nsStart_ge imgBl1
  have hpad := length_padded imgBl1
  have hsize : imgBl1.length ≤ blockCount imgBl1.length * blockSize := le_blockCount
  rw [bl1End] at hbl1
  refine ⟨?_, ?_, ?_, ?_, ?_⟩
  · rw [threeImages_slice he₂ (by omega) (by omega) (by omega), twoImages, slice_patch (by omega),
      slice_patch (by omega)]
    exact slice_patch_eq he₀
  · rw [threeImages_slice he₂ (by omega) (by omega) (by omega), twoImages]
    exact slice_patch_eq he₁
  · rw [threeImages, slice_patch (by rw [length_leBytes]; omega)]
    exact slice_patch_eq he₂
  · rw [threeImages_slice he₂ (by omega) (by omega) (by omega), twoImages, slice_patch (by omega)]
    exact slice_patch_self
  · rw [threeImages, slice_patch (by rw [length_leBytes]; omega), slice_patch (by omega)]
    exact slice_patch_self

end ThreeImages

/-- A file with the three images is as promised when BL1 ends before the block of the third. -/
lemma loaderOk_of {w : BitVec 32} (hloader : imgLoader.length ≤ 2048)
    (hplace : imgBl1.length ≤ 94208 ∨ img = [])
    (htwo : TwoAdded imgLoader imgBl1 e₀ e₁ g₂)
    (hthree : ThreeAdded imgLoader imgBl1 img e₀ e₁ e₂ g₁)
    (hdata : g.fp.data = threeImages imgLoader imgBl1 img e₀ e₁ e₂ w)
    (himages : g.images = g₁.images)
    (hend : g.fp.int 24 = g.fp.int 20 + bl1End imgBl1) : LoaderOk imgLoader g := by
  have hblock : ∀ k, k * blockSize = k * 512 := fun _ => rfl
  have hbl1 : blockCount imgBl1.length = (imgBl1.length + 511) / 512 := rfl
  have hns : nsStart imgBl1 = max (2048 + blockCount imgBl1.length * 512) 96256 := rfl
  have he₀ := length_entryHead htwo.loader
  have he₁ := length_entryHead htwo.bl1
  have he₂ := length_entryHead hthree.nsBl1u
  have hloaderBytes : ∀ i, i < 24 ∨ 112 ≤ i ∧ i < 2048 → g.fp.data i = imgLoader.getD i 0 :=
    fun i hi => by rw [hdata, threeImages_loader he₀ he₁ he₂ hi]
  have hhead : ∀ i < 24, g.fp.data i = imgLoader.getD i 0 := fun i hi => hloaderBytes i (.inl hi)
  obtain ⟨hs₀, hs₁, hs₂, hsBl1, hsNs⟩ :=
    @threeImages_parts imgLoader imgBl1 img e₀ e₁ e₂ w he₀ he₁ he₂
  rw [← hdata] at hs₀ hs₁ hs₂ hsBl1 hsNs
  rw [hthree.images] at himages
  refine ⟨?_, ?_, ?_, ?_, ?_, hhead, fun i hlow hhigh => hloaderBytes i (.inr ⟨hlow, hhigh⟩), ?_⟩
  · rw [himages]
    simp only [threePlaced, List.forall_mem_cons]
    refine ⟨fun _ => rfl, fun _ => rfl, fun hne => ?_, by simp⟩
    have hlen := hplace.resolve_right hne
    have hlba : 192 * blockSize - 2048 = 96256 := rfl
    omega
  · rw [himages]
    simp only [threePlaced, List.forall_mem_cons]
    exact ⟨le_blockCount, le_blockCount, le_blockCount, by simp⟩
  · rw [himages]
    simp only [threePlaced, List.pairwise_cons, List.forall_mem_cons, PlacedImage.Covers, hblock]
    have hempty : img = [] → blockCount img.length = 0 := fun hnil => by rw [hnil]; rfl
    have hshort : blockCount imgBl1.length ≤ 184 ∨ blockCount img.length = 0 :=
      hplace.imp (fun hlen => by omega) hempty
    have hloaderBlocks : blockCount imgLoader.length ≤ 4 := by
      simp only [blockCount, blockSize]
      omega
    refine ⟨⟨fun i => by omega, fun i => by omega, by simp⟩,
      ⟨fun i => by omega, by simp⟩, by simp, .nil⟩
  · intro k hk
    rw [himages] at hk
    simp only [himages]
    match k, hk with
    | 0, _ => exact htwo.loader.trans (congrArg some hs₀.symm)
    | 1, _ => exact htwo.bl1.trans (congrArg some hs₁.symm)
    | 2, _ => exact hthree.nsBl1u.trans (congrArg some hs₂.symm)
  · rw [himages]
    simp only [threePlaced, List.tail_cons, List.forall_mem_cons]
    exact ⟨hsBl1, hsNs, by simp⟩
  · rw [himages]
    intro p hp
    obtain rfl : _ = p := Option.some.inj hp
    rw [hend, int_loaderStart hhead, bl1End]
    push_cast
    rfl

/-- The loader and BL1 are added when their entries fit. -/
lemma exists_two (hloader : imgLoader.length ≤ 2048) (hblocks : blockCount imgBl1.length < 2 ^ 31) :
    ∃ g₁ g₂ e₀ e₁, Generator.new.add 4 imgLoader = some g₁ ∧ g₁.add 8 imgBl1 = some g₂
      ∧ TwoAdded imgLoader imgBl1 e₀ e₁ g₂ := by
  have hloaderBlocks : blockCount imgLoader.length ≤ 4 := by
    simp only [blockCount, blockSize]
    omega
  obtain ⟨g₁, h₁⟩ : ∃ g₁, Generator.new.add 4 imgLoader = some g₁ :=
    add_isSome.2 ⟨by omega, _, entryHead_eq_some.2 ⟨by omega, rfl⟩⟩
  obtain ⟨_, a₀⟩ := add_spec (fun _ _ => rfl) h₁
  have hidx : g₁.idx = 1 := a₀.idx
  obtain ⟨g₂, h₂⟩ : ∃ g₂, g₁.add 8 imgBl1 = some g₂ :=
    add_isSome.2 ⟨by omega, _, entryHead_eq_some.2 ⟨by omega, rfl⟩⟩
  obtain ⟨e₀, e₁, htwo⟩ := create_two h₁ h₂
  exact ⟨g₁, g₂, e₀, e₁, h₁, h₂, htwo⟩

/-- Without a third image the script writes the start as the end. -/
lemma genLoader_none (hloader : imgLoader.length ≤ 2048)
    (hblocks : blockCount imgBl1.length < 2 ^ 31) :
    ∃ g, genLoader imgLoader imgBl1 none = some g ∧ g.fp.int 24 = g.fp.int 20 := by
  obtain ⟨g₁, g₂, e₀, e₁, h₁, h₂, htwo⟩ := exists_two hloader hblocks
  have hrange : -2 ^ 31 ≤ g₂.fp.int 20 + g₂.pLoaderEnd ∧ g₂.fp.int 20 + g₂.pLoaderEnd < 2 ^ 31 := by
    rw [htwo.pLoaderEnd, Nat.cast_zero, add_zero]
    exact ⟨BitVec.le_toInt _, BitVec.toInt_lt⟩
  obtain ⟨g, hfinish⟩ : ∃ g, g₂.finish = some g := ⟨_, finish_eq_some.2 ⟨hrange, rfl⟩⟩
  refine ⟨g, genLoader_eq_some.2 ⟨g₁, g₂, g₂, h₁, h₂, rfl, hfinish⟩, ?_⟩
  rw [(int_finish hfinish).2, htwo.pLoaderEnd, Nat.cast_zero, add_zero]

/-- With a third image, numbers that fit in their fields, and BL1 in front of the third image, all
is as promised. -/
lemma genLoader_of (hloader : imgLoader.length ≤ 2048) (hplace : imgBl1.length ≤ 94208 ∨ img = [])
    (hblocks : blockCount img.length < 2 ^ 31)
    (hrange : loaderStart imgLoader + bl1End imgBl1 < 2 ^ 31) :
    ∃ g, genLoader imgLoader imgBl1 (some img) = some g ∧ LoaderOk imgLoader g := by
  have hlow : -2 ^ 31 ≤ loaderStart imgLoader := BitVec.le_toInt _
  have hend : bl1End imgBl1 = 2048 + blockCount imgBl1.length * 512 := rfl
  obtain ⟨g₁, g₂, e₀, e₁, h₁, h₂, htwo⟩ := @exists_two imgLoader imgBl1 hloader (by omega)
  have hlate := htwo.idx
  obtain ⟨g₃, h₃⟩ : ∃ g₃, g₂.add 192 img = some g₃ :=
    add_isSome.2 ⟨by omega, _, entryHead_eq_some.2 ⟨by omega, rfl⟩⟩
  obtain ⟨e₂, hthree⟩ := add_third htwo h₃
  have hstart : g₃.fp.int 20 = loaderStart imgLoader := by
    refine int_loaderStart fun i hi => ?_
    have hns := (nsStart_ge imgBl1).2
    rw [hthree.data, patch_of_notMem (.inl (by omega)), patch_of_notMem (.inl (by omega)),
      twoImages_loader (length_entryHead htwo.loader) (length_entryHead htwo.bl1) (by omega)]
  have hrange₃ : -2 ^ 31 ≤ g₃.fp.int 20 + g₃.pLoaderEnd ∧
      g₃.fp.int 20 + g₃.pLoaderEnd < 2 ^ 31 := by
    rw [hstart, hthree.pLoaderEnd]
    omega
  obtain ⟨g, hfinish⟩ : ∃ g, g₃.finish = some g := ⟨_, finish_eq_some.2 ⟨hrange₃, rfl⟩⟩
  refine ⟨g, genLoader_eq_some.2 ⟨g₁, g₂, g₃, h₁, h₂, h₃, hfinish⟩, ?_⟩
  have hsum := (int_finish hfinish).2
  rw [hthree.pLoaderEnd] at hsum
  have hg := (finish_eq_some.1 hfinish).2
  refine loaderOk_of (w := BitVec.ofInt 32 (g₃.fp.int 20 + g₃.pLoaderEnd)) hloader hplace htwo
    hthree ?_ (by rw [hg]) hsum
  · rw [hg]
    simp only [OutFile.write, OutFile.seek, hthree.data]
    rfl

end Run

/-- The script writes the image as promised exactly with an NS BL1U, behind a BL1 of at most 94208
bytes if it is not empty, as long as the number of its blocks and the end of BL1 fit into their
fields. -/
theorem genLoader_ok_iff (imgLoader imgBl1 : List UInt8) (imgNsBl1u : Option (List UInt8))
    (hloader : imgLoader.length ≤ 2048) :
    (∃ g, genLoader imgLoader imgBl1 imgNsBl1u = some g ∧ LoaderOk imgLoader g)
      ↔ ∃ img, imgNsBl1u = some img ∧ (imgBl1.length ≤ 94208 ∨ img = []) ∧
        blockCount img.length < 2 ^ 31
        ∧ loaderStart imgLoader + bl1End imgBl1 < 2 ^ 31 := by
  constructor
  · rintro ⟨g, h, hok⟩
    exact ok_of_genLoader h hok
  · rintro ⟨img, rfl, hplace, hblocks, hrange⟩
    exact genLoader_of hloader hplace hblocks hrange

/-- Three small images. -/
theorem genLoader_ok_small : ([1, 2, 3] : List UInt8).length ≤ 2048
    ∧ ∃ g, genLoader [1, 2, 3] [4, 5] (some [6]) = some g ∧ LoaderOk [1, 2, 3] g :=
  ⟨by decide, (genLoader_ok_iff [1, 2, 3] [4, 5] (some [6]) (by decide)).2
    ⟨[6], rfl, .inl (by decide), by decide, by decide⟩⟩

/-- Without an NS BL1U the end of the loader is its start; behind a BL1 of 185 blocks the NS BL1U is
not in the block of its entry. -/
theorem genLoader_fails :
    (∃ g, genLoader [] [] none = some g ∧ g.fp.int 24 = g.fp.int 20 ∧ ¬ LoaderOk [] g)
    ∧ ∀ g, genLoader [] (List.replicate 94209 0) (some [1]) = some g → ¬ LoaderOk [] g := by
  constructor
  · obtain ⟨g, h, hend⟩ := @genLoader_none [] [] (Nat.zero_le _) (by decide)
    refine ⟨g, h, hend, fun hok => ?_⟩
    obtain ⟨img, hnone, -⟩ := ok_of_genLoader h hok
    cases hnone
  · intro g h hok
    obtain ⟨img, himg, hplace, -⟩ := ok_of_genLoader h hok
    obtain rfl : [1] = img := Option.some.inj himg
    rw [List.length_replicate] at hplace
    exact hplace.elim (by omega) (by simp)

end Hikey
