import Mathlib

/-!
# The SD card driver

`disk_read` and `disk_write` of `platform/vivado-risc-v/fatfs/diskio.c` split a request into
runs of at most `MAX_BLOCK_CNT` blocks and hand each run to the controller.

Whether a command gets through is up to the `Controller`, which also says what a failed transfer
leaves behind.  Sector numbers and byte addresses are 32 bits wide, and a `Card` carries the fact
that its own addresses fit.

`disk_read` counts down to zero, while `disk_write` counts its runs in a variable that it
compares with the blocks still to go.  What the second loop transfers is `blocksWritten`, and
the driver is faithful exactly for the requests where that is the whole request.
-/

namespace RfTpm.Platform

/-! ## Bytes moved between two memories -/

/-- The memory `dst` with `n` bytes of `src`, from `origin` on, at `start`. -/
def overlay (dst src : ℕ → UInt8) (start origin n : ℕ) : ℕ → UInt8 := fun p =>
  if start ≤ p ∧ p < start + n then src (origin + (p - start)) else dst p

@[simp]
lemma overlay_zero (dst src : ℕ → UInt8) (start origin : ℕ) :
    overlay dst src start origin 0 = dst := by
  funext p
  simp only [overlay, ite_eq_right_iff]
  intro h
  omega

lemma overlay_overlay (dst src : ℕ → UInt8) (start origin n m : ℕ) :
    overlay (overlay dst src start origin n) src (start + n) (origin + n) m =
      overlay dst src start origin (n + m) := by
  funext p
  simp only [overlay]
  by_cases hlow : p < start + n
  · rw [if_neg (by omega)]
    by_cases hstart : start ≤ p
    · rw [if_pos ⟨hstart, hlow⟩, if_pos ⟨hstart, by omega⟩]
    · rw [if_neg (by omega), if_neg (by omega)]
  · by_cases hhigh : p < start + n + m
    · rw [if_pos ⟨by omega, hhigh⟩, if_pos ⟨by omega, by omega⟩]
      congr 1
      omega
    · rw [if_neg (by omega), if_neg (by omega), if_neg (by omega)]

variable {start origin n i p count sector arg blocks buf buff : ℕ}

lemma overlay_inside (dst src : ℕ → UInt8) (h : i < n) :
    overlay dst src start origin n (start + i) = src (origin + i) := by
  simp only [overlay]
  rw [if_pos ⟨by omega, by omega⟩, Nat.add_sub_cancel_left]

lemma overlay_outside (dst src : ℕ → UInt8) (h : p < start ∨ start + n ≤ p) :
    overlay dst src start origin n p = dst p :=
  if_neg (by omega)

/-! ## The card and its controller -/

/-- `DRESULT` -/
inductive DResult
  | RES_OK
  | RES_ERROR
  | RES_NOTRDY
  | RES_PARERR
  deriving DecidableEq

/-- The commands the transfers use. -/
inductive Cmd
  /-- `STOP_TRANSMISSION` -/
  | CMD12
  /-- `READ_SINGLE_BLOCK` -/
  | CMD17
  /-- `READ_MULTIPLE_BLOCK` -/
  | CMD18
  /-- write of a single block -/
  | CMD24
  /-- write of several blocks -/
  | CMD25
  deriving DecidableEq

/-- A card as the driver found it: `card_type & CT_BLOCK`, `drv_status & STA_NOINIT` and its
size.  An argument of a command has 32 bits, so a card that counts bytes has at most `2 ^ 32`
of them, and one that counts blocks at most `2 ^ 32` blocks. -/
structure Card where
  block : Bool
  noInit : Bool
  sectors : ℕ
  addressable : sectors * (if block then 1 else 512) ≤ 2 ^ 32

/-- Where on the card the argument of a transfer command points to. -/
def Card.address (card : Card) (arg : ℕ) : ℕ :=
  if card.block then arg * 512 else arg

/-- What the environment decides: whether the `n`-th command ends with an error, and what a
transfer that does leaves in the memory it writes to. -/
structure Controller where
  fails : ℕ → Bool
  spoil : ℕ → (ℕ → UInt8) → ℕ → UInt8

/-- The host memory, the bytes of the card, and the number of commands issued so far. -/
structure Machine where
  mem : ℕ → UInt8
  sd : ℕ → UInt8
  issued : ℕ

/-- `send_cmd` -/
def sendCmd (c : Controller) (_cmd : Cmd) (m : Machine) : Bool × Machine :=
  (!c.fails m.issued, { m with issued := m.issued + 1 })

/-- `send_data_cmd_r`: a buffer that is not aligned is refused before the command is issued. -/
def sendDataCmdR (c : Controller) (card : Card) (_cmd : Cmd) (arg buf blocks : ℕ)
    (m : Machine) : Bool × Machine :=
  if buf % 4 ≠ 0 then (false, m)
  else if c.fails m.issued then
    (false, { m with mem := c.spoil m.issued m.mem, issued := m.issued + 1 })
  else
    (true, { m with
      mem := overlay m.mem m.sd buf (card.address arg) (blocks * 512)
      issued := m.issued + 1 })

/-- `send_data_cmd_w` -/
def sendDataCmdW (c : Controller) (card : Card) (_cmd : Cmd) (arg buf blocks : ℕ)
    (m : Machine) : Bool × Machine :=
  if buf % 4 ≠ 0 then (false, m)
  else if c.fails m.issued then
    (false, { m with sd := c.spoil m.issued m.sd, issued := m.issued + 1 })
  else
    (true, { m with
      sd := overlay m.sd m.mem (card.address arg) buf (blocks * 512)
      issued := m.issued + 1 })

/-! ## The transfer loops -/

/-- `MAX_BLOCK_CNT` -/
def MAX_BLOCK_CNT : ℕ := 0x1000

/-- The length of the next run when `count` blocks are left. -/
def bcnt (count : ℕ) : ℕ :=
  if count > MAX_BLOCK_CNT then MAX_BLOCK_CNT else count

lemma bcnt_pos (h : 0 < count) : 0 < bcnt count := by
  unfold bcnt MAX_BLOCK_CNT
  split <;> omega

lemma bcnt_le (count : ℕ) : bcnt count ≤ count := by
  unfold bcnt
  split <;> omega

lemma sub_bcnt_lt (h : i < count) : count - bcnt count < count :=
  Nat.sub_lt (Nat.zero_lt_of_lt h) (bcnt_pos (Nat.zero_lt_of_lt h))

/-- The stop command behind a run of more than one block. -/
def stopTransmission (c : Controller) (blocks : ℕ) (m : Machine) : Bool × Machine :=
  if blocks > 1 then sendCmd c .CMD12 m else (true, m)

/-- `sector += (card_type & CT_BLOCK) ? bcnt : bytes`, in 32 bits. -/
def Card.advance (card : Card) (sector blocks : ℕ) : ℕ :=
  (sector + if card.block then blocks else blocks * 512) % 2 ^ 32

/-- The loop of `disk_read`. -/
def diskReadLoop (c : Controller) (card : Card) (sector buff count : ℕ) (m : Machine) :
    DResult × Machine :=
  if _h : 0 < count then
    let command := if bcnt count = 1 then Cmd.CMD17 else Cmd.CMD18
    match sendDataCmdR c card command sector buff (bcnt count) m with
    | (false, m) => (.RES_ERROR, m)
    | (true, m) =>
      match stopTransmission c (bcnt count) m with
      | (false, m) => (.RES_ERROR, m)
      | (true, m) =>
        diskReadLoop c card (card.advance sector (bcnt count)) (buff + bcnt count * 512)
          (count - bcnt count) m
  else (.RES_OK, m)
termination_by count
decreasing_by exact sub_bcnt_lt (by assumption)

/-- The loop of `disk_write`.  Its condition compares the number of runs `i` with the number
of blocks that are left. -/
def diskWriteLoop (c : Controller) (card : Card) (i sector buff count : ℕ) (m : Machine) :
    DResult × Machine :=
  if _h : i < count then
    let command := if bcnt count = 1 then Cmd.CMD24 else Cmd.CMD25
    match sendDataCmdW c card command sector buff (bcnt count) m with
    | (false, m) => (.RES_ERROR, m)
    | (true, m) =>
      match stopTransmission c (bcnt count) m with
      | (false, m) => (.RES_ERROR, m)
      | (true, m) =>
        diskWriteLoop c card (i + 1) (card.advance sector (bcnt count))
          (buff + bcnt count * 512) (count - bcnt count) m
  else (.RES_OK, m)
termination_by count
decreasing_by exact sub_bcnt_lt (by assumption)

/-- The first argument of the loops: `sector *= 512` on a card that counts bytes. -/
def Card.convert (card : Card) (sector : ℕ) : ℕ :=
  if card.block then sector else sector * 512 % 2 ^ 32

/-- `disk_read` -/
def diskRead (c : Controller) (card : Card) (buff sector count : ℕ) (m : Machine) :
    DResult × Machine :=
  if count = 0 then (.RES_PARERR, m)
  else if card.noInit then (.RES_NOTRDY, m)
  else diskReadLoop c card (card.convert sector) buff count m

/-- `disk_write` -/
def diskWrite (c : Controller) (card : Card) (buff sector count : ℕ) (m : Machine) :
    DResult × Machine :=
  if count = 0 then (.RES_PARERR, m)
  else if card.noInit then (.RES_NOTRDY, m)
  else diskWriteLoop c card 0 (card.convert sector) buff count m

/-! ## Addresses

While a request stays on the card, the 32-bit sector variable points to the byte the next run
starts at. -/

/-- The argument `arg` points to the byte `p` of the card. -/
def Card.PointsTo (card : Card) (arg p : ℕ) : Prop :=
  card.address arg = p

lemma convert_pointsTo (card : Card) (h : sector < card.sectors) :
    card.PointsTo (card.convert sector) (sector * 512) := by
  have haddr := card.addressable
  unfold Card.PointsTo Card.address Card.convert
  cases hblock : card.block with
  | true => rfl
  | false =>
    simp only [hblock, Bool.false_eq_true, if_false] at haddr ⊢
    have hlt : sector * 512 < 2 ^ 32 := by omega
    exact Nat.mod_eq_of_lt hlt

lemma advance_pointsTo (card : Card) (h : card.PointsTo arg p)
    (hrange : p + blocks * 512 < card.sectors * 512) :
    card.PointsTo (card.advance arg blocks) (p + blocks * 512) := by
  have haddr := card.addressable
  unfold Card.PointsTo Card.address Card.advance at *
  cases hblock : card.block with
  | true =>
    simp only [hblock, if_true] at haddr h ⊢
    subst h
    have hlt : arg + blocks < 2 ^ 32 := by omega
    rw [Nat.mod_eq_of_lt hlt, Nat.add_mul]
  | false =>
    simp only [hblock, Bool.false_eq_true, if_false] at haddr h
    subst h
    have hlt : arg + blocks * 512 < 2 ^ 32 := by omega
    simpa only [hblock, Bool.false_eq_true, if_false] using Nat.mod_eq_of_lt hlt

/-! ## What the loops transfer -/

variable {c : Controller} {card : Card} {m m' : Machine}

lemma sendDataCmdR_ok {cmd : Cmd} (h : sendDataCmdR c card cmd arg buf blocks m = (true, m')) :
    m'.sd = m.sd ∧ m'.mem = overlay m.mem m.sd buf (card.address arg) (blocks * 512) := by
  unfold sendDataCmdR at h
  split_ifs at h <;> simp only [Prod.mk.injEq, reduceCtorEq, false_and, true_and] at h
  subst h
  exact ⟨rfl, rfl⟩

lemma sendDataCmdW_ok {cmd : Cmd} (h : sendDataCmdW c card cmd arg buf blocks m = (true, m')) :
    m'.mem = m.mem ∧ m'.sd = overlay m.sd m.mem (card.address arg) buf (blocks * 512) := by
  unfold sendDataCmdW at h
  split_ifs at h <;> simp only [Prod.mk.injEq, reduceCtorEq, false_and, true_and] at h
  subst h
  exact ⟨rfl, rfl⟩

lemma stopTransmission_frame (c : Controller) (blocks : ℕ) (m : Machine) :
    (stopTransmission c blocks m).2.mem = m.mem ∧ (stopTransmission c blocks m).2.sd = m.sd := by
  unfold stopTransmission
  split <;> exact ⟨rfl, rfl⟩

lemma run_ok {sent : Bool × Machine} {next : Machine → DResult × Machine}
    (h : (match sent with
      | (false, m) => (.RES_ERROR, m)
      | (true, m) =>
        match stopTransmission c blocks m with
        | (false, m) => (.RES_ERROR, m)
        | (true, m) => next m) = (.RES_OK, m')) :
    ∃ m₁ m₂, sent = (true, m₁) ∧ m₂.mem = m₁.mem ∧ m₂.sd = m₁.sd ∧ next m₂ = (.RES_OK, m') := by
  obtain ⟨_ | _, m₁⟩ := sent
  · simp at h
  have hframe := stopTransmission_frame c blocks m₁
  dsimp only at h
  generalize stopTransmission c blocks m₁ = stopped at h hframe
  obtain ⟨_ | _, m₂⟩ := stopped
  · simp at h
  · exact ⟨m₁, m₂, rfl, hframe.1, hframe.2, h⟩

lemma diskReadLoop_ok (h : diskReadLoop c card sector buff count m = (.RES_OK, m'))
    (hp : 0 < count → card.PointsTo sector p) (hrange : p + count * 512 ≤ card.sectors * 512) :
    m'.sd = m.sd ∧ m'.mem = overlay m.mem m.sd buff p (count * 512) := by
  induction count using Nat.strong_induction_on generalizing sector buff p m with
  | _ count ih =>
    rw [diskReadLoop] at h
    split at h
    case isFalse hzero =>
      obtain rfl : count = 0 := by omega
      obtain rfl : m = m' := congrArg Prod.snd h
      simp
    case isTrue hpos =>
      have hle := bcnt_le count
      have hrun := bcnt_pos hpos
      obtain ⟨m₁, m₂, hsend, hmem₂, hsd₂, h⟩ := run_ok h
      obtain ⟨hsd, hmem⟩ := sendDataCmdR_ok hsend
      obtain ⟨hsd', hmem'⟩ := ih (count - bcnt count) (by omega) h
        (fun hleft => advance_pointsTo card (hp hpos) (by omega)) (by omega)
      have haddr : card.address sector = p := hp hpos
      rw [hmem₂, hsd₂, hsd, hmem, haddr, overlay_overlay] at hmem'
      refine ⟨by rw [hsd', hsd₂, hsd], ?_⟩
      rw [hmem', ← Nat.add_mul, Nat.add_sub_cancel' hle]

/-- The number of blocks that the loop of `disk_write` transfers. -/
def blocksWritten (i count : ℕ) : ℕ :=
  if _h : i < count then
    bcnt count + blocksWritten (i + 1) (count - bcnt count)
  else 0
termination_by count
decreasing_by exact sub_bcnt_lt (by assumption)

lemma blocksWritten_of_lt (h : i < count) :
    blocksWritten i count = bcnt count + blocksWritten (i + 1) (count - bcnt count) := by
  rw [blocksWritten, dif_pos h]

lemma blocksWritten_of_le (h : count ≤ i) : blocksWritten i count = 0 := by
  rw [blocksWritten, dif_neg (by omega)]

lemma blocksWritten_le (i count : ℕ) : blocksWritten i count ≤ count := by
  induction count using Nat.strong_induction_on generalizing i with
  | _ count ih =>
    rcases Nat.lt_or_ge i count with hlt | hge
    · have hle := bcnt_le count
      have hrest := ih (count - bcnt count) (sub_bcnt_lt hlt) (i + 1)
      rw [blocksWritten_of_lt hlt]
      omega
    · rw [blocksWritten_of_le hge]
      omega

/-- The loop of `disk_write` gets through the request exactly if the number of the last run,
counted from the runs already made, is below the length of that run. -/
lemma blocksWritten_eq_iff (i : ℕ) (h : 0 < count) :
    blocksWritten i count = count ↔
      i + (count - 1) / MAX_BLOCK_CNT ≤ (count - 1) % MAX_BLOCK_CNT := by
  induction count using Nat.strong_induction_on generalizing i with
  | _ count ih =>
    unfold MAX_BLOCK_CNT at *
    rcases Nat.lt_or_ge i count with hlt | hge
    · rw [blocksWritten_of_lt hlt]
      by_cases hlong : count > 4096
      · -- a full run and more to go: the quotient drops by one, the remainder stays
        have hrun : bcnt count = 4096 := if_pos hlong
        have hrest := ih (count - 4096) (by omega) (i + 1) (by omega)
        rw [hrun]
        constructor
        · intro hall
          have hfits := hrest.mp (by omega)
          omega
        · intro hfits
          have hall := hrest.mpr (by omega)
          omega
      · have hrun : bcnt count = count := if_neg hlong
        rw [hrun, Nat.sub_self, blocksWritten_of_le (Nat.zero_le _)]
        omega
    · rw [blocksWritten_of_le hge]
      omega

lemma diskWriteLoop_ok (h : diskWriteLoop c card i sector buff count m = (.RES_OK, m'))
    (hp : 0 < count → card.PointsTo sector p) (hrange : p + count * 512 ≤ card.sectors * 512) :
    m'.mem = m.mem ∧ m'.sd = overlay m.sd m.mem p buff (blocksWritten i count * 512) := by
  induction count using Nat.strong_induction_on generalizing i sector buff p m with
  | _ count ih =>
    rw [diskWriteLoop] at h
    split at h
    case isFalse hdone =>
      obtain rfl : m = m' := congrArg Prod.snd h
      rw [blocksWritten_of_le (by omega)]
      simp
    case isTrue hlt =>
      rw [blocksWritten_of_lt hlt]
      have hpos : 0 < count := Nat.zero_lt_of_lt hlt
      have hle := bcnt_le count
      have hrun := bcnt_pos hpos
      obtain ⟨m₁, m₂, hsend, hmem₂, hsd₂, h⟩ := run_ok h
      obtain ⟨hmem, hsd⟩ := sendDataCmdW_ok hsend
      obtain ⟨hmem', hsd'⟩ := ih (count - bcnt count) (by omega) h
        (fun hleft => advance_pointsTo card (hp hpos) (by omega)) (by omega)
      have haddr : card.address sector = p := hp hpos
      rw [hmem₂, hsd₂, hmem, hsd, haddr, overlay_overlay] at hsd'
      refine ⟨by rw [hmem', hmem₂, hmem], ?_⟩
      rw [hsd', ← Nat.add_mul]

/-- A controller that reports no error. -/
def Controller.perfect : Controller where
  fails _ := false
  spoil _ := id

lemma diskWriteLoop_perfect (card : Card) (i sector buff count : ℕ) (m : Machine)
    (halign : buff % 4 = 0) :
    (diskWriteLoop .perfect card i sector buff count m).1 = .RES_OK := by
  induction count using Nat.strong_induction_on generalizing i sector buff m with
  | _ count ih =>
    rw [diskWriteLoop]
    split
    case isFalse => rfl
    case isTrue hlt =>
      have hrun := bcnt_pos (Nat.zero_lt_of_lt hlt)
      have hnext := fun m' => ih (count - bcnt count) (by omega) (i + 1)
        (card.advance sector (bcnt count)) (buff + bcnt count * 512) m' (by omega)
      simp only [sendDataCmdW, halign, ne_eq, not_true_eq_false, if_false, Controller.perfect,
        Bool.false_eq_true, stopTransmission, sendCmd]
      split_ifs
      · exact hnext _
      · exact hnext _

/-! ## The driver is faithful -/

/-- Byte `j` of the sector that starts at the byte `p`, `k` sectors on. -/
def sectorByte (memory : ℕ → UInt8) (p k j : ℕ) : UInt8 :=
  memory (p + k * 512 + j)

/-- What a write of the request `sector`, `count` promises whenever it reports `RES_OK`: sector
`k` of the buffer is on the card at `sector + k`, no other sector of the card has changed, and
a read of the same range that succeeds gives the same bytes back. -/
structure Faithful (card : Card) (sector count : ℕ) : Prop where
  stored : ∀ (c : Controller) (buff : ℕ) (m m' : Machine),
    diskWrite c card buff sector count m = (.RES_OK, m') →
      ∀ k < count, ∀ j < 512, sectorByte m'.sd 0 (sector + k) j = sectorByte m.mem buff k j
  unchanged : ∀ (c : Controller) (buff : ℕ) (m m' : Machine),
    diskWrite c card buff sector count m = (.RES_OK, m') →
      ∀ k, k < sector ∨ sector + count ≤ k → ∀ j < 512,
        sectorByte m'.sd 0 k j = sectorByte m.sd 0 k j
  readBack : ∀ (c c' : Controller) (buff buff' : ℕ) (m m' m'' : Machine),
    diskWrite c card buff sector count m = (.RES_OK, m') →
    diskRead c' card buff' sector count m' = (.RES_OK, m'') →
      ∀ k < count, ∀ j < 512, sectorByte m''.mem buff' k j = sectorByte m.mem buff k j

lemma diskWrite_ok (h : diskWrite c card buff sector count m = (.RES_OK, m'))
    (hrange : sector + count ≤ card.sectors) :
    m'.mem = m.mem ∧
      m'.sd = overlay m.sd m.mem (sector * 512) buff (blocksWritten 0 count * 512) := by
  unfold diskWrite at h
  split_ifs at h with hzero hready
  · simp at h
  · simp at h
  exact diskWriteLoop_ok h (fun _ => convert_pointsTo card (by omega)) (by omega)

lemma diskRead_ok (h : diskRead c card buff sector count m = (.RES_OK, m'))
    (hrange : sector + count ≤ card.sectors) :
    m'.sd = m.sd ∧ m'.mem = overlay m.mem m.sd buff (sector * 512) (count * 512) := by
  unfold diskRead at h
  split_ifs at h with hzero hready
  · simp at h
  · simp at h
  exact diskReadLoop_ok h (fun _ => convert_pointsTo card (by omega)) (by omega)

lemma faithful_of_blocksWritten (hrange : sector + count ≤ card.sectors)
    (hall : blocksWritten 0 count = count) : Faithful card sector count := by
  have hinside : ∀ {k j : ℕ}, k < count → j < 512 → k * 512 + j < count * 512 := by
    intro k j hk hj
    omega
  refine ⟨?_, ?_, ?_⟩
  · intro c buff m m' h k hk j hj
    obtain ⟨-, hsd⟩ := diskWrite_ok h hrange
    have haddr : 0 + (sector + k) * 512 + j = sector * 512 + (k * 512 + j) := by ring
    rw [sectorByte, hsd, hall, haddr, overlay_inside _ _ (hinside hk hj), sectorByte, add_assoc]
  · intro c buff m m' h k hk j hj
    obtain ⟨-, hsd⟩ := diskWrite_ok h hrange
    rw [sectorByte, hsd, hall, overlay_outside _ _ (by omega), sectorByte]
  · intro c c' buff buff' m m' m'' h hread k hk j hj
    obtain ⟨-, hsd⟩ := diskWrite_ok h hrange
    obtain ⟨-, hmem⟩ := diskRead_ok hread hrange
    rw [sectorByte, hmem, add_assoc, overlay_inside _ _ (hinside hk hj), hsd, hall,
      overlay_inside _ _ (hinside hk hj), sectorByte, add_assoc]

/-- A request whose last block the loop does not reach is not: with a card full of zeros and a
buffer full of ones the write reports success and leaves a zero in the last sector. -/
lemma not_faithful_of_blocksWritten (hready : !card.noInit) (hpos : 0 < count)
    (hrange : sector + count ≤ card.sectors) (hshort : blocksWritten 0 count ≠ count) :
    ¬ Faithful card sector count := by
  intro hfaithful
  let m : Machine := ⟨fun _ => 1, fun _ => 0, 0⟩
  have hok : (diskWrite .perfect card 0 sector count m).1 = .RES_OK := by
    unfold diskWrite
    rw [if_neg (by omega), if_neg (by simpa using hready)]
    exact diskWriteLoop_perfect card 0 _ 0 count m rfl
  have hrun : diskWrite .perfect card 0 sector count m =
      (.RES_OK, (diskWrite .perfect card 0 sector count m).2) := Prod.ext hok rfl
  have hlast := hfaithful.stored _ _ _ _ hrun (count - 1) (by omega) 0 (by omega)
  obtain ⟨-, hsd⟩ := diskWrite_ok hrun hrange
  have hle := blocksWritten_le 0 count
  rw [sectorByte, hsd, overlay_outside _ _ (by omega)] at hlast
  exact absurd hlast (show ¬ (0 : UInt8) = 1 by decide)

lemma faithful_of_noInit (h : card.noInit = true) : Faithful card sector count := by
  have hnever : ∀ c buff m m', diskWrite c card buff sector count m ≠ (.RES_OK, m') := by
    intro c buff m m' hok
    unfold diskWrite at hok
    rw [if_pos h] at hok
    split_ifs at hok with hzero
    · simp at hok
    · simp at hok
  refine ⟨?_, ?_, ?_⟩
  · intro c buff m m' hok
    exact absurd hok (hnever c buff m m')
  · intro c buff m m' hok
    exact absurd hok (hnever c buff m m')
  · intro c c' buff buff' m m' m'' hok
    exact absurd hok (hnever c buff m m')

/-- **Faithful writes.**  For a range that lies on the card, `disk_write` keeps its promise
exactly if the number of full runs before the last one is below the length of the last run (or
the card is not ready, and no write succeeds). -/
theorem disk_write_faithful_iff (card : Card) (sector count : ℕ) (hpos : 1 ≤ count)
    (hrange : sector + count ≤ card.sectors) :
    Faithful card sector count ↔
      card.noInit = true ∨ (count - 1) / MAX_BLOCK_CNT ≤ (count - 1) % MAX_BLOCK_CNT := by
  have hreach := blocksWritten_eq_iff 0 hpos
  rw [Nat.zero_add] at hreach
  rw [← hreach]
  constructor
  · intro hfaithful
    by_contra hshort
    obtain ⟨hready, hshort⟩ := not_or.mp hshort
    exact not_faithful_of_blocksWritten (by simpa using hready) hpos hrange hshort hfaithful
  · rintro (hnot | hall)
    · exact faithful_of_noInit hnot
    · exact faithful_of_blocksWritten hrange hall

/-- A card that counts blocks, large enough for two runs. -/
def largeCard : Card where
  block := true
  noInit := false
  sectors := 0x10000
  addressable := by decide

/-- A request of two full runs is carried out. -/
theorem disk_write_faithful_twoRuns : Faithful largeCard 0 0x2000 :=
  (disk_write_faithful_iff largeCard 0 0x2000 (by decide) (by decide)).mpr (.inr (by decide))

/-- A request of one block more than a run: the write reports success after the first run. -/
theorem disk_write_drops_last_sector : ¬ Faithful largeCard 0 0x1001 := by
  refine not_faithful_of_blocksWritten rfl (by decide) (by decide) ?_
  rw [Ne, blocksWritten_eq_iff 0 (by decide)]
  decide

end RfTpm.Platform
