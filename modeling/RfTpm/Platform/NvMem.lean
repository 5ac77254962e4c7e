import RfTpm.Lib.Cbc
import RfTpm.Lib.Runs
import RfTpm.Nv.State

/-!
# The NV file

`NVMem.c` keeps the NV image in RAM (`s_NV`) and in a file, encrypted.  `_plat__NvCommit` writes
the whole image, `_plat__NVEnable` reads it back or starts a new file, and `_plat__NVDisable`
closes the file, with the option to empty it.

The file layer (`intercept.c` over FatFs) stores and returns bytes as asked whenever it reports
success.  What it reports, call by call, and what a failed call leaves behind is up to the `Layer`.

Three things decide what survives.  A commit without an open file reports success.  A write does
not shorten a file, so a file that was too long stays too long, and a file of the wrong size is
replaced by the next `_plat__NVEnable`.  And `_plat__NVDisable` asks for the mode `"w"`, which
`NvFileOpen` does not know: the file that should have been emptied keeps its contents.
-/

namespace RfTpm.Platform

open Cbc List Runs

/-! ## The file layer -/

/-- The outcomes of the calls of the file layer, by the number of the call: whether it reports
success, how many bytes there is room for, and what a failed call leaves of the file and of the
buffer it was to fill. -/
structure Layer where
  ok : ℕ → Bool
  room : ℕ → ℕ
  spoil : ℕ → Bytes → Bytes
  garble : ℕ → Bytes → Bytes
  length_garble : ∀ n b, (garble n b).length = b.length

/-- A layer that reports no failure and has room for the image. -/
structure Layer.Sound (layer : Layer) : Prop where
  ok : ∀ n, layer.ok n = true
  room : ∀ n, NV_MEMORY_SIZE ≤ layer.room n

/-- The state of `NVMem.c`, with the file on the card and the file object.  `written` counts the
bytes that went into the file. -/
structure NvMem where
  sNV : Bytes
  sNvEnc : Bytes
  file : Option Bytes
  /-- the position of the file object, if it is open -/
  fil : Option ℕ
  /-- `s_NvFile` is not `NULL` -/
  sNvFile : Bool
  sNeedsManufacture : Bool
  sNvIsAvailable : Bool
  sNvUnrecoverable : Bool
  sNvRecoverable : Bool
  calls : ℕ
  written : ℕ
  /-- an `assert` has stopped the program -/
  aborted : Bool

/-- The contents `bytes` with `data` written at `pos`. -/
def overwrite (bytes : Bytes) (pos : ℕ) (data : Bytes) : Bytes :=
  bytes.take pos ++ data ++ bytes.drop (pos + data.length)

/-- The modes with which `NvFileOpen` is called. -/
inductive Mode
  /-- `"r+b"` -/
  | rPlusB
  /-- `"w+b"` -/
  | wPlusB
  /-- `"w"` -/
  | w
  deriving DecidableEq

variable (layer : Layer)

/-- `fopen` of an existing file. -/
def fopenExisting (m : NvMem) : NvMem :=
  if layer.ok m.calls && m.file.isSome then
    { m with sNvFile := true, fil := some 0, calls := m.calls + 1 }
  else { m with sNvFile := false, fil := none, calls := m.calls + 1 }

/-- `fopen` with `FA_CREATE_ALWAYS`: the file is created, or emptied. -/
def fopenCreate (m : NvMem) : NvMem :=
  if layer.ok m.calls then
    { m with sNvFile := true, fil := some 0, file := some [], calls := m.calls + 1 }
  else
    { m with
      sNvFile := false, fil := none, file := m.file.map (layer.spoil m.calls)
      calls := m.calls + 1 }

/-- `frewind`.  It moves the file pointer of an open file object and touches no data. -/
def frewind (m : NvMem) : NvMem :=
  { m with fil := m.fil.map fun _ => 0 }

/-- `fwrite` of a buffer of `NV_MEMORY_SIZE` bytes; `none` stands for the value `-1`. -/
def fwrite (data : Bytes) (m : NvMem) : Option ℕ × NvMem :=
  match m.fil, m.file with
  | some pos, some bytes =>
    if layer.ok m.calls then
      let stored := data.take (layer.room m.calls)
      (some stored.length,
        { m with
          file := some (overwrite bytes pos stored), fil := some (pos + stored.length)
          calls := m.calls + 1, written := m.written + stored.length })
    else
      (none, { m with file := some (layer.spoil m.calls bytes), calls := m.calls + 1 })
  | _, _ => (none, { m with calls := m.calls + 1 })

/-- `fread` into `s_NV_ENC`. -/
def fread (size : ℕ) (m : NvMem) : Option ℕ × NvMem :=
  match m.fil, m.file with
  | some pos, some bytes =>
    if layer.ok m.calls then
      let data := (bytes.drop pos).take size
      (some data.length,
        { m with
          sNvEnc := data ++ m.sNvEnc.drop data.length, fil := some (pos + data.length)
          calls := m.calls + 1 })
    else
      (none, { m with sNvEnc := layer.garble m.calls m.sNvEnc, calls := m.calls + 1 })
  | _, _ => (none, { m with calls := m.calls + 1 })

/-- `fflush`: `intercept_fflush` always returns zero. -/
def fflush (m : NvMem) : ℤ × NvMem := (0, m)

/-- `fclose`.  Closing a file object a second time is an error without an effect. -/
def fclose (m : NvMem) : NvMem :=
  { m with fil := none }

/-- `fsize` -/
def fsize (m : NvMem) : ℕ := (m.file.getD []).length

/-! ## Encryption -/

/-- `AES_BLOCK_SIZE` -/
def AES_BLOCK_SIZE : ℕ := 16

/-- The part of `nv_iv` that is used: the first characters of its initialiser. -/
def nvIv : Bytes :=
  [0x36, 0x32, 0x33, 0x65, 0x37, 0x61, 0x61, 0x39, 0x61, 0x32, 0x61, 0x61, 0x39, 0x32, 0x61, 0x38]

/-- AES under the key of the image. -/
structure Aes extends BlockCipher where
  size_eq : size = AES_BLOCK_SIZE

variable (aes : Aes)

/-- `aes_cbc_encrypt_decrypt`; the vector is copied, so that every call starts from it. -/
def aesCbcEncryptDecrypt (input iv : Bytes) (len : ℕ) (enc : Bool) : Bytes :=
  let ivCopy := iv.take AES_BLOCK_SIZE
  if enc then encrypt aes.toBlockCipher ivCopy (len / AES_BLOCK_SIZE) input
  else decrypt aes.toBlockCipher ivCopy (len / AES_BLOCK_SIZE) input

lemma aesCbc_encrypt (input iv : Bytes) (len : ℕ) :
    aesCbcEncryptDecrypt aes input iv len true =
      encrypt aes.toBlockCipher (iv.take AES_BLOCK_SIZE) (len / AES_BLOCK_SIZE) input := rfl

lemma aesCbc_decrypt (input iv : Bytes) (len : ℕ) :
    aesCbcEncryptDecrypt aes input iv len false =
      decrypt aes.toBlockCipher (iv.take AES_BLOCK_SIZE) (len / AES_BLOCK_SIZE) input := rfl

/-! ## `NVMem.c` -/

/-- `NvFileOpen`.  A mode that is not known leaves `s_NvFile` as it is. -/
def nvFileOpen (mode : Mode) (m : NvMem) : ℤ × NvMem :=
  let m := match mode with
    | .rPlusB => fopenExisting layer m
    | .wPlusB => fopenCreate layer m
    | .w => m
  (if m.sNvFile then 0 else -1, m)

/-- `NvFileCommit` behind its write: unless all of the image went out and was flushed, `assert`
stops the program. -/
def nvFileFlush (write : Option ℕ × NvMem) : ℤ × NvMem :=
  if write.1 = some NV_MEMORY_SIZE ∧ (fflush write.2).1 = 0 then (1, (fflush write.2).2)
  else (0, { write.2 with aborted := true })

/-- `NvFileCommit` -/
def nvFileCommit (m : NvMem) : ℤ × NvMem :=
  if m.sNvFile = false then (1, m)
  else
    let m := frewind m
    let m := { m with sNvEnc := aesCbcEncryptDecrypt aes m.sNV nvIv NV_MEMORY_SIZE true }
    nvFileFlush (fwrite layer (m.sNvEnc.take NV_MEMORY_SIZE) m)

/-- `NvFileSize` -/
def nvFileSize (m : NvMem) : ℕ × NvMem :=
  (fsize m, frewind m)

/-- `_plat__NvMemoryClear(0, NV_MEMORY_SIZE)` -/
def nvMemoryClearAll (m : NvMem) : NvMem :=
  { m with sNV := replicate NV_MEMORY_SIZE 0xff }

/-- The image is read from a file of the right size. -/
def nvReadImage (m : NvMem) : NvMem :=
  let (count, m) := fread layer NV_MEMORY_SIZE m
  { m with
    sNeedsManufacture := decide (count ≠ some NV_MEMORY_SIZE)
    sNV := aesCbcEncryptDecrypt aes m.sNvEnc nvIv NV_MEMORY_SIZE false }

/-- A new image is written to the open file. -/
def nvInitialize (m : NvMem) : NvMem :=
  { (nvFileCommit layer aes m).2 with sNeedsManufacture := true }

/-- The part of `_plat__NVEnable` that finds the image. -/
def nvLoad (m : NvMem) : NvMem :=
  let (opened, m) := nvFileOpen layer .rPlusB m
  if opened ≥ 0 then
    let (fileSize, m) := nvFileSize m
    if NV_MEMORY_SIZE = fileSize then nvReadImage layer aes m else nvInitialize layer aes m
  else
    let (created, m) := nvFileOpen layer .wPlusB m
    if created ≥ 0 then nvInitialize layer aes m else m

/-- `_plat__NVEnable` -/
def nvEnable (m : NvMem) : ℤ × NvMem :=
  let m := { m with sNvUnrecoverable := false, sNvRecoverable := false }
  if m.sNvFile then (0, m)
  else
    let m := nvLoad layer aes (nvMemoryClearAll m)
    let m := { m with aborted := m.aborted || !m.sNvFile }
    if m.sNvUnrecoverable then (-1, m)
    else (if m.sNvRecoverable then 1 else 0, { m with sNvIsAvailable := true })

/-- `_plat__NVDisable` -/
def nvDisable (delete : Bool) (m : NvMem) : NvMem :=
  let m :=
    if m.sNvFile then
      let m := fclose m
      if delete then
        let (opened, m) := nvFileOpen layer .w m
        if opened ≥ 0 then fclose (fflush m).2 else m
      else m
    else m
  { m with sNvFile := false, sNvIsAvailable := false }

/-- `_plat__NvCommit` -/
def nvCommit (m : NvMem) : ℤ × NvMem :=
  let (ok, m) := nvFileCommit layer aes m
  (if ok ≠ 0 then 0 else 1, m)

/-- `_plat__NVNeedsManufacture` -/
def nvNeedsManufacture (m : NvMem) : Bool := m.sNeedsManufacture

/-- What a crash leaves: the file, and the static variables as the program starts with them. -/
def crash (m : NvMem) : NvMem :=
  { m with
    sNV := replicate NV_MEMORY_SIZE 0, sNvEnc := replicate NV_MEMORY_SIZE 0
    fil := none, sNvFile := false, sNeedsManufacture := false, sNvIsAvailable := false
    sNvUnrecoverable := false, sNvRecoverable := false, aborted := false }

/-- The NV part of `ftpm_init`, for the platform that keeps the image in a file: whether
`TPM_Manufacture` was called, and the state it ends in. -/
def ftpmInit (tpmManufacture : NvMem → ℤ × NvMem) (m : NvMem) : Bool × NvMem :=
  let m := (nvEnable layer aes m).2
  if nvNeedsManufacture m then
    let (result, m) := tpmManufacture m
    let m := if result ≠ 0 then nvDisable layer true m else m
    (true, nvDisable layer false m)
  else (false, nvDisable layer false m)

/-! ## Consistent states -/

/-- What holds between calls: the buffers have their size, and a file that `s_NvFile` points to
is open. -/
structure Consistent (m : NvMem) : Prop where
  image : m.sNV.length = NV_MEMORY_SIZE
  buffer : m.sNvEnc.length = NV_MEMORY_SIZE
  opened : m.sNvFile = true → m.fil.isSome ∧ m.file.isSome

lemma length_nvIv : (nvIv.take AES_BLOCK_SIZE).length = aes.size :=
  aes.size_eq.symm

lemma size_blocks : NV_MEMORY_SIZE = NV_MEMORY_SIZE / AES_BLOCK_SIZE * aes.size := by
  rw [aes.size_eq]
  rfl

/-- The encrypted image, as it stands in the file. -/
def ciphertext (image : Bytes) : Bytes :=
  aesCbcEncryptDecrypt aes image nvIv NV_MEMORY_SIZE true

variable {image data bytes : Bytes} {m : NvMem}

lemma length_ciphertext (h : image.length = NV_MEMORY_SIZE) :
    (ciphertext aes image).length = NV_MEMORY_SIZE := by
  have hblocks := size_blocks aes
  rw [ciphertext, aesCbc_encrypt]
  exact (length_encrypt (length_nvIv aes) (h.trans hblocks)).trans hblocks.symm

lemma decrypt_ciphertext (h : image.length = NV_MEMORY_SIZE) :
    aesCbcEncryptDecrypt aes (ciphertext aes image) nvIv NV_MEMORY_SIZE false = image := by
  rw [ciphertext, aesCbc_encrypt, aesCbc_decrypt]
  exact decrypt_encrypt (length_nvIv aes) (h.trans (size_blocks aes))

/-! ## What a commit stores -/

lemma fwrite_all {pos : ℕ} (hpos : m.fil = some pos) (hbytes : m.file = some bytes)
    (h : (fwrite layer data m).1 = some data.length) :
    (fwrite layer data m).2.file = some (overwrite bytes pos data) ∧
      (fwrite layer data m).2.written = m.written + data.length := by
  unfold fwrite at h ⊢
  rw [hpos, hbytes] at h ⊢
  dsimp only at h ⊢
  split_ifs at h ⊢ with hok
  -- as many bytes were stored as there are, so all of them were
  have hstored : data.take (layer.room m.calls) = data := by
    have hlength : (data.take (layer.room m.calls)).length = data.length := Option.some.inj h
    apply take_of_length_le
    rw [length_take] at hlength
    omega
  dsimp only
  rw [hstored]
  exact ⟨rfl, rfl⟩

lemma fwrite_sound {layer : Layer} (hlayer : layer.Sound) {pos : ℕ} (hpos : m.fil = some pos)
    (hbytes : m.file = some bytes) (hlength : data.length = NV_MEMORY_SIZE) :
    (fwrite layer data m).1 = some data.length := by
  have hroom := hlayer.room m.calls
  unfold fwrite
  rw [hpos, hbytes]
  dsimp only
  rw [if_pos (hlayer.ok m.calls), take_of_length_le (by omega)]

lemma fwrite_frame (data : Bytes) (m : NvMem) :
    (fwrite layer data m).2.sNV = m.sNV ∧ (fwrite layer data m).2.sNvEnc = m.sNvEnc ∧
      (fwrite layer data m).2.sNvFile = m.sNvFile ∧
      (fwrite layer data m).2.fil.isSome = m.fil.isSome ∧
      (fwrite layer data m).2.file.isSome = m.file.isSome := by
  unfold fwrite
  split
  · split_ifs <;> simp_all
  · simp

/-- The state in which a commit to an open file starts to write. -/
def encrypted (m : NvMem) : NvMem :=
  { frewind m with sNvEnc := ciphertext aes m.sNV }

lemma nvFileCommit_eq (hm : Consistent m) (hopen : m.sNvFile = true) :
    nvFileCommit layer aes m =
      nvFileFlush (fwrite layer (ciphertext aes m.sNV) (encrypted aes m)) := by
  have htake : (encrypted aes m).sNvEnc.take NV_MEMORY_SIZE = ciphertext aes m.sNV :=
    take_of_length_le (length_ciphertext aes hm.image).le
  unfold nvFileCommit
  rw [if_neg (by rw [hopen]; exact nofun)]
  change nvFileFlush (fwrite layer ((encrypted aes m).sNvEnc.take NV_MEMORY_SIZE) _) = _
  rw [htake]
  rfl

lemma nvFileFlush_eq (write : Option ℕ × NvMem) :
    nvFileFlush write =
      if write.1 = some NV_MEMORY_SIZE then (1, write.2)
      else (0, { write.2 with aborted := true }) := by
  simp [nvFileFlush, fflush]

lemma Consistent.rewound (hm : Consistent m) (hopen : m.sNvFile = true) :
    ∃ bytes, m.file = some bytes ∧ (encrypted aes m).fil = some 0 := by
  obtain ⟨hfil, hfile⟩ := hm.opened hopen
  obtain ⟨pos, hpos⟩ := Option.isSome_iff_exists.mp hfil
  obtain ⟨bytes, hbytes⟩ := Option.isSome_iff_exists.mp hfile
  refine ⟨bytes, hbytes, ?_⟩
  rw [encrypted, frewind, hpos]
  rfl

lemma nvFileCommit_opened (hm : Consistent m) (hopen : m.sNvFile = true)
    (h : (nvFileCommit layer aes m).1 ≠ 0) :
    ∃ bytes, m.file = some bytes ∧
      (nvFileCommit layer aes m).2.file =
        some (ciphertext aes m.sNV ++ bytes.drop NV_MEMORY_SIZE) ∧
      (nvFileCommit layer aes m).2.written = m.written + NV_MEMORY_SIZE ∧
      (nvFileCommit layer aes m).2.sNvEnc = ciphertext aes m.sNV := by
  obtain ⟨bytes, hbytes, hstart⟩ := hm.rewound aes hopen
  have hlength := length_ciphertext aes hm.image
  rw [nvFileCommit_eq layer aes hm hopen, nvFileFlush_eq] at h ⊢
  have hcount : (fwrite layer (ciphertext aes m.sNV) (encrypted aes m)).1 =
      some NV_MEMORY_SIZE := by
    by_contra hpartial
    exact h (by rw [if_neg hpartial])
  rw [if_pos hcount]
  obtain ⟨hstored, hwritten⟩ := fwrite_all layer hstart (show _ = some bytes from hbytes)
    (hcount.trans (congrArg some hlength.symm))
  refine ⟨bytes, hbytes, hstored.trans ?_, ?_, (fwrite_frame layer _ _).2.1⟩
  · rw [overwrite, take_zero, nil_append, Nat.zero_add, hlength]
  · rw [hwritten, hlength]
    rfl

lemma nvFileCommit_closed (h : m.sNvFile = false) : nvFileCommit layer aes m = (1, m) := if_pos h

lemma nvFileCommit_sound {layer : Layer} (hlayer : layer.Sound) (hm : Consistent m)
    (hopen : m.sNvFile = true) : (nvFileCommit layer aes m).1 = 1 := by
  obtain ⟨bytes, hbytes, hstart⟩ := hm.rewound aes hopen
  have hlength := length_ciphertext aes hm.image
  have hcount := fwrite_sound hlayer hstart (show _ = some bytes from hbytes) hlength
  rw [nvFileCommit_eq layer aes hm hopen, nvFileFlush_eq,
    if_pos (hcount.trans (congrArg some hlength))]

/-- `_plat__NVDisable` leaves no open file and does not change its contents, with `delete` or
without: the mode it asks for is not one that `NvFileOpen` opens a file with. -/
lemma nvDisable_frame (delete : Bool) (m : NvMem) :
    (nvDisable layer delete m).sNvFile = false ∧ (nvDisable layer delete m).file = m.file ∧
      (nvDisable layer delete m).sNvEnc = m.sNvEnc ∧ (nvDisable layer delete m).sNV = m.sNV := by
  unfold nvDisable
  cases hopen : m.sNvFile with
  | false => simp
  | true => cases delete <;> simp [fclose, nvFileOpen, fflush, hopen]

/-! ## Runs -/

/-- The calls of `NVMem.c`, with the layer they find, and what else happens to the image and to
the program. -/
inductive NvCall
  | enable (layer : Layer)
  | disable (layer : Layer) (delete : Bool)
  | commit (layer : Layer)
  | write (image : { image : Bytes // image.length = NV_MEMORY_SIZE })
  | crash

/-- The state after a call. -/
def NvCall.run (m : NvMem) : NvCall → NvMem
  | .enable layer => (nvEnable layer aes m).2
  | .disable layer delete => nvDisable layer delete m
  | .commit layer => (nvCommit layer aes m).2
  | .write image => { m with sNV := image.1 }
  | .crash => Platform.crash m

/-- `NVMem.c` from the start of the program on.  Once an `assert` has failed, only a crash is
left. -/
def nvMem : System NvMem NvCall where
  init m := ∃ before, m = crash before
  enabled m call := m.aborted = true → call = .crash
  step := NvCall.run aes

namespace Consistent

lemma of_closed (himage : m.sNV.length = NV_MEMORY_SIZE)
    (hbuffer : m.sNvEnc.length = NV_MEMORY_SIZE) (hclosed : m.sNvFile = false) : Consistent m :=
  ⟨himage, hbuffer, fun h => nomatch hclosed.symm.trans h⟩

lemma commit (h : Consistent m) : Consistent (nvFileCommit layer aes m).2 := by
  cases hopen : m.sNvFile with
  | false => rwa [nvFileCommit_closed layer aes hopen]
  | true =>
    obtain ⟨himage, hbuffer, -, hfil, hfile⟩ :=
      fwrite_frame layer (ciphertext aes m.sNV) (encrypted aes m)
    obtain ⟨hopened, hexists⟩ := h.opened hopen
    have hwrite : Consistent (fwrite layer (ciphertext aes m.sNV) (encrypted aes m)).2 :=
      ⟨by rw [himage]; exact h.image, by rw [hbuffer]; exact length_ciphertext aes h.image, fun _ =>
        ⟨by rw [hfil]; simpa [encrypted, frewind] using hopened, hfile.trans hexists⟩⟩
    rw [nvFileCommit_eq layer aes h hopen, nvFileFlush_eq]
    split
    · exact hwrite
    · exact ⟨hwrite.image, hwrite.buffer, hwrite.opened⟩

lemma read (h : Consistent m) : Consistent (nvReadImage layer aes m) := by
  have hread : (fread layer NV_MEMORY_SIZE m).2.sNvEnc.length = NV_MEMORY_SIZE ∧
      (fread layer NV_MEMORY_SIZE m).2.sNvFile = m.sNvFile ∧
      (fread layer NV_MEMORY_SIZE m).2.fil.isSome = m.fil.isSome ∧
      (fread layer NV_MEMORY_SIZE m).2.file.isSome = m.file.isSome := by
    have hbuffer := h.buffer
    unfold fread
    split
    · split_ifs <;> simp_all [layer.length_garble]
    · simp [hbuffer]
  have hblocks := size_blocks aes
  refine ⟨?_, hread.1, fun hopen => ?_⟩
  · show (aesCbcEncryptDecrypt aes _ nvIv NV_MEMORY_SIZE false).length = _
    rw [aesCbc_decrypt]
    exact (length_decrypt (length_nvIv aes) (hread.1.trans hblocks)).trans hblocks.symm
  · rw [show (nvReadImage layer aes m).fil = _ from rfl]
    exact ⟨hread.2.2.1.trans (h.opened (hread.2.1.symm.trans hopen)).1,
      hread.2.2.2.trans (h.opened (hread.2.1.symm.trans hopen)).2⟩

lemma fresh (h : Consistent m) : Consistent (nvInitialize layer aes m) :=
  ⟨(h.commit layer aes).image, (h.commit layer aes).buffer, (h.commit layer aes).opened⟩

lemma fopenExisting (h : Consistent m) : Consistent (Platform.fopenExisting layer m) := by
  unfold Platform.fopenExisting
  split_ifs with hok
  · exact ⟨h.image, h.buffer, fun _ => ⟨rfl, (Bool.and_eq_true _ _ ▸ hok).2⟩⟩
  · exact .of_closed h.image h.buffer rfl

lemma fopenCreate (h : Consistent m) : Consistent (Platform.fopenCreate layer m) := by
  unfold Platform.fopenCreate
  split_ifs
  · exact ⟨h.image, h.buffer, fun _ => ⟨rfl, rfl⟩⟩
  · exact .of_closed h.image h.buffer rfl

lemma load (h : Consistent m) : Consistent (nvLoad layer aes m) := by
  have hopen : Consistent (Platform.fopenExisting layer m) := h.fopenExisting layer
  have hrewind : Consistent (frewind (Platform.fopenExisting layer m)) :=
    ⟨hopen.image, hopen.buffer, fun hfile => by simpa [frewind] using hopen.opened hfile⟩
  have hcreate := hopen.fopenCreate layer
  unfold nvLoad nvFileOpen nvFileSize
  dsimp only
  split_ifs
  all_goals first
    | exact hrewind.read layer aes
    | exact hrewind.fresh layer aes
    | exact hcreate.fresh layer aes
    | exact hcreate

lemma enable (h : Consistent m) : Consistent (nvEnable layer aes m).2 := by
  have hclear : Consistent
      (nvMemoryClearAll { m with sNvUnrecoverable := false, sNvRecoverable := false }) :=
    ⟨length_replicate, h.buffer, h.opened⟩
  have hload := hclear.load layer aes
  unfold nvEnable
  dsimp only
  split_ifs
  · exact ⟨h.image, h.buffer, h.opened⟩
  all_goals exact ⟨hload.image, hload.buffer, hload.opened⟩

end Consistent

lemma consistent_of_reach (h : (nvMem aes).Reach m) : Consistent m := by
  refine h.invariant (fun m hinit => ?_) fun m call hm _ => ?_
  · obtain ⟨before, rfl⟩ := hinit
    exact .of_closed length_replicate length_replicate rfl
  · cases call with
    | enable layer => exact hm.enable layer aes
    | disable layer delete =>
      obtain ⟨hclosed, -, hbuffer, himage⟩ := nvDisable_frame layer delete m
      exact .of_closed (himage ▸ hm.image) (hbuffer ▸ hm.buffer) hclosed
    | commit layer => exact hm.commit layer aes
    | write image => exact ⟨image.2, hm.buffer, hm.opened⟩
    | crash => exact .of_closed length_replicate length_replicate rfl

/-! ## What the next start finds -/

lemma nvEnable_closed (h : m.sNvFile = false) :
    ∃ m₀, m₀.file = m.file ∧ m₀.sNvEnc = m.sNvEnc ∧
      (nvEnable layer aes m).2.sNV = (nvLoad layer aes m₀).sNV ∧
      nvNeedsManufacture (nvEnable layer aes m).2 = (nvLoad layer aes m₀).sNeedsManufacture := by
  refine ⟨nvMemoryClearAll { m with sNvUnrecoverable := false, sNvRecoverable := false },
    rfl, rfl, ?_⟩
  simp only [nvEnable, h, Bool.false_eq_true, if_false]
  split
  · exact ⟨rfl, rfl⟩
  · exact ⟨rfl, rfl⟩

lemma nvLoad_image {layer : Layer} (hlayer : layer.Sound)
    (hbuffer : m.sNvEnc.length = NV_MEMORY_SIZE) (hfile : m.file = some bytes)
    (hsize : bytes.length = NV_MEMORY_SIZE) :
    (nvLoad layer aes m).sNV = aesCbcEncryptDecrypt aes bytes nvIv NV_MEMORY_SIZE false ∧
      (nvLoad layer aes m).sNeedsManufacture = false := by
  have hread : bytes.take NV_MEMORY_SIZE = bytes := take_of_length_le hsize.le
  have hrest : m.sNvEnc.drop NV_MEMORY_SIZE = [] := drop_eq_nil_of_le hbuffer.le
  simp only [nvLoad, nvFileOpen, fopenExisting, hlayer.ok, hfile, Option.isSome_some, Bool.and_self,
    if_true, ge_iff_le, le_refl, nvFileSize, fsize, Option.getD_some, hsize, frewind,
    Option.map_some, nvReadImage, fread, drop_zero, hread, hrest, append_nil, ne_eq,
    not_true_eq_false, decide_false, and_self]

lemma nvLoad_no_image {layer : Layer} (hlayer : layer.Sound)
    (hfile : ∀ bytes, m.file = some bytes → bytes.length ≠ NV_MEMORY_SIZE) :
    (nvLoad layer aes m).sNeedsManufacture = true := by
  cases hcase : m.file with
  | none =>
    have hclosed : ¬ (-1 : ℤ) ≥ 0 := by decide
    simp only [nvLoad, nvFileOpen, fopenExisting, hcase, Option.isSome_none, Bool.and_false,
      Bool.false_eq_true, if_false, hclosed, fopenCreate, hlayer.ok, if_true, ge_iff_le, le_refl,
      nvInitialize]
  | some bytes =>
    have hsize : ¬ NV_MEMORY_SIZE = bytes.length := fun h => hfile bytes hcase h.symm
    simp only [nvLoad, nvFileOpen, fopenExisting, hlayer.ok, hcase, Option.isSome_some,
      Bool.and_self, if_true, ge_iff_le, le_refl, nvFileSize, fsize, Option.getD_some, hsize,
      if_false, nvInitialize]

/-! ## Committed images survive -/

/-- How the program ends before the next start. -/
inductive Ending
  | disable
  | crash
  deriving DecidableEq

/-- The state the next start begins with. -/
def Ending.apply : Ending → NvMem → NvMem
  | .disable, m => nvDisable layer false m
  | .crash, m => Platform.crash m

lemma ending_apply (how : Ending) (m : NvMem) (h : m.sNvEnc.length = NV_MEMORY_SIZE) :
    (how.apply layer m).sNvFile = false ∧ (how.apply layer m).file = m.file ∧
      (how.apply layer m).sNvEnc.length = NV_MEMORY_SIZE := by
  cases how with
  | crash => exact ⟨rfl, rfl, length_replicate⟩
  | disable =>
    obtain ⟨hclosed, hfile, hbuffer, -⟩ := nvDisable_frame layer false m
    exact ⟨hclosed, hfile, (congrArg length hbuffer).trans h⟩

/-- What a commit promises that returns zero: it has written the image to the file, and the next
start has the image back and needs no manufacture. -/
def Survives (m : NvMem) : Prop :=
  ∀ layer : Layer, (nvCommit layer aes m).1 = 0 →
    (nvCommit layer aes m).2.written = m.written + NV_MEMORY_SIZE ∧
    ∀ (how : Ending) (next : Layer), next.Sound →
      (nvEnable next aes (how.apply layer (nvCommit layer aes m).2)).2.sNV = m.sNV ∧
      nvNeedsManufacture (nvEnable next aes (how.apply layer (nvCommit layer aes m).2)).2 = false

lemma nvCommit_zero (h : (nvCommit layer aes m).1 = 0) : (nvFileCommit layer aes m).1 ≠ 0 := by
  intro hzero
  simp [nvCommit, hzero] at h

lemma survives_of_opened (hm : Consistent m) (hopen : m.sNvFile = true)
    (hshort : ∀ bytes, m.file = some bytes → bytes.length ≤ NV_MEMORY_SIZE) : Survives aes m := by
  intro layer hzero
  obtain ⟨bytes, hbytes, hfile, hwritten, hbuffer⟩ :=
    nvFileCommit_opened layer aes hm hopen (nvCommit_zero layer aes hzero)
  refine ⟨hwritten, ?_⟩
  intro how next hnext
  have hlength := length_ciphertext aes hm.image
  obtain ⟨hclosed, hkept, henc⟩ := ending_apply layer how (nvCommit layer aes m).2
    (show ((nvFileCommit layer aes m).2.sNvEnc).length = _ by rw [hbuffer, hlength])
  have hexact : (how.apply layer (nvCommit layer aes m).2).file = some (ciphertext aes m.sNV) := by
    rw [hkept]
    refine hfile.trans ?_
    rw [drop_eq_nil_of_le (hshort bytes hbytes), append_nil]
  obtain ⟨m₀, hfile₀, henc₀, hsNV, hneeds⟩ := nvEnable_closed next aes hclosed
  obtain ⟨himage, hdone⟩ := nvLoad_image aes hnext (henc₀ ▸ henc) (hfile₀.trans hexact) hlength
  rw [hsNV, hneeds, himage, decrypt_ciphertext aes hm.image]
  exact ⟨rfl, hdone⟩

lemma not_survives_of_closed (hclosed : m.sNvFile = false) (layer : Layer) :
    ¬ Survives aes m := by
  intro hsurvives
  have hcommit : nvCommit layer aes m = (0, m) := by
    simp [nvCommit, nvFileCommit_closed layer aes hclosed]
  have hwritten := (hsurvives layer (by rw [hcommit])).1
  rw [hcommit] at hwritten
  exact absurd hwritten (by simp [NV_MEMORY_SIZE])

/-- A layer that reports no failure. -/
def Layer.perfect : Layer where
  ok _ := true
  room _ := NV_MEMORY_SIZE
  spoil _ := id
  garble _ := id
  length_garble _ _ := rfl

lemma Layer.sound_perfect : Layer.perfect.Sound := ⟨fun _ => rfl, fun _ => le_rfl⟩

lemma not_survives_of_long (hm : Consistent m) (hopen : m.sNvFile = true)
    (hbytes : m.file = some bytes) (hlong : NV_MEMORY_SIZE < bytes.length) : ¬ Survives aes m := by
  intro hsurvives
  have hok := nvFileCommit_sound aes Layer.sound_perfect hm hopen
  have hzero : (nvCommit .perfect aes m).1 = 0 := by simp [nvCommit, hok]
  obtain ⟨bytes', hbytes', hfile, -, hbuffer⟩ :=
    nvFileCommit_opened .perfect aes hm hopen (nvCommit_zero .perfect aes hzero)
  obtain rfl : bytes' = bytes := Option.some.inj (hbytes'.symm.trans hbytes)
  have hlength := length_ciphertext aes hm.image
  obtain ⟨hclosed, hkept, -⟩ := ending_apply .perfect .crash (nvCommit .perfect aes m).2
    (show ((nvFileCommit .perfect aes m).2.sNvEnc).length = _ by rw [hbuffer, hlength])
  obtain ⟨m₀, hfile₀, -, -, hneeds⟩ := nvEnable_closed .perfect aes hclosed
  have hagain : (nvLoad .perfect aes m₀).sNeedsManufacture = true := by
    refine nvLoad_no_image aes Layer.sound_perfect ?_
    intro found hfound
    have hstored : found = ciphertext aes m.sNV ++ bytes'.drop NV_MEMORY_SIZE :=
      Option.some.inj (hfound.symm.trans ((hfile₀.trans hkept).trans hfile))
    rw [hstored, length_append, length_drop, hlength]
    omega
  have hdone := ((hsurvives .perfect hzero).2 .crash .perfect Layer.sound_perfect).2
  rw [hneeds, hagain] at hdone
  cases hdone

/-- **Committed NV survives a restart** exactly if the commit found the file open and not longer
than the image. -/
theorem nv_commit_survives_iff (m : NvMem) (hm : Consistent m) :
    Survives aes m ↔ m.sNvFile = true ∧
      ∀ bytes, m.file = some bytes → bytes.length ≤ NV_MEMORY_SIZE := by
  constructor
  · intro hsurvives
    cases hopen : m.sNvFile with
    | false => exact absurd hsurvives (not_survives_of_closed aes hopen .perfect)
    | true =>
      refine ⟨rfl, ?_⟩
      intro bytes hbytes
      by_contra hlong
      exact not_survives_of_long aes hm hopen hbytes (by omega) hsurvives
  · rintro ⟨hopen, hshort⟩
    exact survives_of_opened aes hm hopen hshort

/-- The cipher that changes nothing. -/
def plainAes : Aes where
  size := AES_BLOCK_SIZE
  encryptBlock := id
  decryptBlock := id
  length_encryptBlock _ h := h
  length_decryptBlock _ h := h
  decryptBlock_encryptBlock _ _ := rfl
  size_eq := rfl

/-- An image of zeros, with the given file, open or not. -/
def zeroImage (file : Option Bytes) (isOpen : Bool) : NvMem where
  sNV := replicate NV_MEMORY_SIZE 0
  sNvEnc := replicate NV_MEMORY_SIZE 0
  file := file
  fil := if isOpen then some 0 else none
  sNvFile := isOpen
  sNeedsManufacture := false
  sNvIsAvailable := isOpen
  sNvUnrecoverable := false
  sNvRecoverable := false
  calls := 0
  written := 0
  aborted := false

/-- A new file takes the image. -/
theorem nv_commit_survives_newFile : Survives plainAes (zeroImage (some []) true) := by
  refine (nv_commit_survives_iff plainAes (zeroImage (some []) true) ?_).mpr ⟨rfl, ?_⟩
  · exact ⟨length_replicate, length_replicate, fun _ => ⟨rfl, rfl⟩⟩
  · rintro bytes ⟨⟩
    exact Nat.zero_le _

/-- Without an open file the commit returns zero, and nothing is written. -/
theorem nv_commit_without_file :
    (nvCommit .perfect plainAes (zeroImage none false)).1 = 0 ∧
      (nvCommit .perfect plainAes (zeroImage none false)).2 = zeroImage none false ∧
      ¬ Survives plainAes (zeroImage none false) := by
  have hcommit : nvCommit .perfect plainAes (zeroImage none false) = (0, zeroImage none false) := by
    simp [nvCommit, nvFileCommit_closed .perfect plainAes (show (zeroImage none false).sNvFile = _
      from rfl)]
  rw [hcommit]
  exact ⟨rfl, rfl, not_survives_of_closed plainAes rfl .perfect⟩

/-! ## Deleted images -/

/-- After `_plat__NVDisable` the next start, in the same run of the program or after a crash,
finds the file as it was. -/
lemma needsManufacture_disabled {next : Layer} (hnext : next.Sound) (m : NvMem)
    (hbuffer : m.sNvEnc.length = NV_MEMORY_SIZE) (delete reboot : Bool) :
    nvNeedsManufacture (nvEnable next aes
      (if reboot then crash (nvDisable layer delete m) else nvDisable layer delete m)).2 = true ↔
      ∀ bytes, m.file = some bytes → bytes.length ≠ NV_MEMORY_SIZE := by
  obtain ⟨hclosed, hfile, henc, -⟩ := nvDisable_frame layer delete m
  generalize hstart : (if reboot then crash (nvDisable layer delete m)
    else nvDisable layer delete m) = start
  have hshape : start.sNvFile = false ∧ start.file = m.file ∧
      start.sNvEnc.length = NV_MEMORY_SIZE := by
    subst hstart
    cases reboot with
    | true => exact ⟨rfl, hfile, length_replicate⟩
    | false => exact ⟨hclosed, hfile, (congrArg length henc).trans hbuffer⟩
  obtain ⟨m₀, hfile₀, henc₀, -, hneeds⟩ := nvEnable_closed next aes hshape.1
  rw [hneeds]
  constructor
  · intro hagain bytes hbytes hsize
    have hdone := (nvLoad_image aes hnext (by rw [henc₀]; exact hshape.2.2)
      (hfile₀.trans (hshape.2.1.trans hbytes)) hsize).2
    exact nomatch hagain.symm.trans hdone
  · intro hwrong
    refine nvLoad_no_image aes hnext ?_
    intro bytes hbytes
    exact hwrong bytes (hshape.2.1.symm.trans (hfile₀.symm.trans hbytes))

lemma ftpmInit_manufactures (tpmManufacture : NvMem → ℤ × NvMem) (m : NvMem) :
    (ftpmInit layer aes tpmManufacture m).1 = nvNeedsManufacture (nvEnable layer aes m).2 := by
  unfold ftpmInit
  dsimp only
  cases hneeds : nvNeedsManufacture (nvEnable layer aes m).2 with
  | true => rfl
  | false => rfl

/-- What the deletion is for: the next start needs manufacture, and `ftpm_init` repeats it. -/
def Repeats (m : NvMem) : Prop :=
  ∀ (layer next : Layer), next.Sound → ∀ (reboot : Bool) (tpmManufacture : NvMem → ℤ × NvMem),
    let start := if reboot then crash (nvDisable layer true m) else nvDisable layer true m
    nvNeedsManufacture (nvEnable next aes start).2 = true ∧
      (ftpmInit next aes tpmManufacture start).1 = true

/-- **A failed manufacture is repeated** exactly if the file did not have the size of an image
anyway. -/
theorem failed_manufacture_repeated_iff (m : NvMem) (hm : Consistent m) :
    Repeats aes m ↔ ∀ bytes, m.file = some bytes → bytes.length ≠ NV_MEMORY_SIZE := by
  constructor
  · intro hrepeats
    have hagain := (hrepeats .perfect .perfect Layer.sound_perfect false fun m => (0, m)).1
    exact (needsManufacture_disabled .perfect aes Layer.sound_perfect m hm.buffer true false).mp
      hagain
  · intro hwrong layer next hnext reboot tpmManufacture
    have hagain := (needsManufacture_disabled layer aes hnext m hm.buffer true reboot).mpr hwrong
    exact ⟨hagain, (ftpmInit_manufactures next aes tpmManufacture _).trans hagain⟩

/-- A file that was never written in full is manufactured again. -/
theorem failed_manufacture_repeated_emptyFile : Repeats plainAes (zeroImage (some []) true) := by
  refine (failed_manufacture_repeated_iff plainAes (zeroImage (some []) true) ?_).mpr ?_
  · exact ⟨length_replicate, length_replicate, fun _ => ⟨rfl, rfl⟩⟩
  · rintro bytes ⟨⟩
    exact Nat.zero_ne_add_one 32767

/-- An image that reached the file before the manufacture failed is taken for a finished one. -/
theorem failed_manufacture_ignored :
    ¬ Repeats plainAes (zeroImage (some (replicate NV_MEMORY_SIZE 0)) true) := by
  intro hrepeats
  have hagain := (hrepeats .perfect .perfect Layer.sound_perfect false fun m => (0, m)).1
  exact (needsManufacture_disabled .perfect plainAes Layer.sound_perfect
    (zeroImage (some (replicate NV_MEMORY_SIZE 0)) true) length_replicate true
    false).mp hagain _ rfl length_replicate

end RfTpm.Platform
