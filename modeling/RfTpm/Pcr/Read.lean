import RfTpm.Pcr.State

/-!
# `PCRRead()`

A read returns at most eight digests and clears the bits of the selection that it did not get to.
The cut can fall into the middle of a bank: the loop that clears the rest of the bank runs to the
last PCR, since a selection has a bit for each of them.  The test behind it, meant to clear the
later banks, therefore never holds, and it is the turns for those banks that clear them.
-/

namespace RfTpm.Pcr

open List

/-! ## The bit map -/

namespace Selection

variable {selection : Selection} {p q : ℕ}

/-- A byte of the bit map. -/
def byte (selection : Selection) (k : ℕ) : UInt8 := selection.pcrSelect.toList.getD k 0

def ofBytes (hash : Bank) (f : ℕ → UInt8) : Selection := ⟨hash, Vector.ofFn fun k => f k⟩

lemma byte_ofBytes (hash : Bank) (f : ℕ → UInt8) {k : ℕ} (hk : k < PCR_SELECT_MAX) :
    (ofBytes hash f).byte k = f k := by
  simp [byte, ofBytes, List.getD, hk]

lemma testBit_eq (selection : Selection) (pcr : ℕ) :
    selection.testBit pcr = (selection.byte (pcr / 8)).toBitVec.getLsbD (pcr % 8) := by
  unfold testBit byte
  generalize selection.pcrSelect.toList.getD (pcr / 8) 0 = b
  have hj : pcr % 8 < 8 := Nat.mod_lt _ (by decide)
  generalize pcr % 8 = j at hj ⊢
  have hmask : (1 <<< UInt8.ofNat j : UInt8).toBitVec = BitVec.twoPow 8 j := by
    interval_cases j <;> rfl
  have hone : BitVec.twoPow 8 j ≠ 0#8 := by
    interval_cases j <;> decide
  rw [Bool.eq_iff_iff, bne_iff_ne, ne_eq, ← UInt8.toBitVec_inj, UInt8.toBitVec_and, hmask,
    BitVec.and_twoPow]
  split <;> simp_all

/-- `FilterPcr()`. -/
def filterPcr (allocation : Allocation) (selection : Selection) : Selection :=
  ofBytes selection.hash fun k =>
    match allocation.find? selection.hash with
    | none => 0
    | some allocated => selection.byte k &&& allocated.byte k

lemma testBit_filterPcr (allocation : Allocation) (hp : p < IMPLEMENTATION_PCR) :
    (filterPcr allocation selection).testBit p =
      (selection.testBit p && pcrIsAllocated allocation p selection.hash) := by
  have hbyte : p / 8 < PCR_SELECT_MAX := by
    simp only [IMPLEMENTATION_PCR, PCR_SELECT_MAX] at hp ⊢
    omega
  rw [testBit_eq, filterPcr, byte_ofBytes _ _ hbyte]
  cases hfind : allocation.find? selection.hash <;>
    simp [pcrIsAllocated, hfind, hp, testBit_eq]

/-- `select->pcrSelect[pcr / 8] &= ~(1 << (pcr % 8))` -/
def clearBit (selection : Selection) (pcr : ℕ) : Selection :=
  ofBytes selection.hash fun k =>
    if k = pcr / 8 then selection.byte k &&& ~~~(1 <<< UInt8.ofNat (pcr % 8))
    else selection.byte k

lemma testBit_clearBit (hq : q < IMPLEMENTATION_PCR) :
    (selection.clearBit p).testBit q = (selection.testBit q && decide (q ≠ p)) := by
  have hbyte : q / 8 < PCR_SELECT_MAX := by
    simp only [IMPLEMENTATION_PCR, PCR_SELECT_MAX] at hq ⊢
    omega
  rw [testBit_eq, clearBit, byte_ofBytes _ _ hbyte]
  split
  · simp only [testBit_eq, UInt8.toBitVec_and, UInt8.toBitVec_not, BitVec.getLsbD_and]
    simp
    grind
  · rename_i hne
    have : q ≠ p := fun h => hne (by rw [h])
    simp [testBit_eq, this]

end Selection

/-! ## The loops -/

/-- The loop that clears the bits from the `n`-th last PCR on, and the PCR it stops at. -/
def clearRest : ℕ → Selection → Selection × ℕ
  | 0, select => (select, IMPLEMENTATION_PCR)
  | n + 1, select =>
    let pcr := IMPLEMENTATION_PCR - (n + 1)
    if pcr / 8 < PCR_SELECT_MAX then clearRest n (select.clearBit pcr) else (select, pcr)

/-- What the turn for a bank leaves. -/
structure BankRead where
  select : Selection
  digests : List Bytes
  pcr : ℕ

/-- The loop over the last `n` PCR of a bank. -/
def readBank (pcrs : PcrValues) : ℕ → Selection → List Bytes → BankRead
  | 0, select, digests => ⟨select, digests, IMPLEMENTATION_PCR⟩
  | n + 1, select, digests =>
    let pcr := IMPLEMENTATION_PCR - (n + 1)
    if select.testBit pcr then
      if digests.length > 7 then
        let (select, pcr) := clearRest (n + 1) select
        ⟨select, digests, pcr⟩
      else readBank pcrs n select (digests ++ [pcrs select.hash pcr])
    else readBank pcrs n select digests

/-- The loop over the selections. -/
def readSelections (s : Tpm) : List Selection → List Bytes →
    List Selection × List Bytes
  | [], digests => ([], digests)
  | select :: rest, digests =>
    let bank := readBank s.pcrs IMPLEMENTATION_PCR (select.filterPcr s.gp.pcrAllocated) digests
    if bank.digests.length > 7 ∧ bank.pcr < IMPLEMENTATION_PCR then
      ((select :: rest).map fun select => .ofBytes select.hash fun _ => 0, bank.digests)
    else
      let (rest, digests) := readSelections s rest bank.digests
      (bank.select :: rest, digests)

/-- What `PCRRead()` returns. -/
structure PcrReadOut where
  selection : List Selection
  digests : List Bytes
  pcrCounter : UInt32

/-- `PCRRead()`. -/
def pcrRead (selection : List Selection) (s : Tpm) : PcrReadOut :=
  let (selection, digests) := readSelections s selection []
  ⟨selection, digests, s.pcrCounter⟩

/-! ## What is returned -/

lemma clearRest_spec {n : ℕ} (hn : n ≤ IMPLEMENTATION_PCR) (select : Selection) :
    (clearRest n select).2 = IMPLEMENTATION_PCR ∧ (clearRest n select).1.hash = select.hash ∧
      ∀ q < IMPLEMENTATION_PCR, (clearRest n select).1.testBit q =
        (select.testBit q && decide (q < IMPLEMENTATION_PCR - n)) := by
  induction n generalizing select with
  | zero =>
    refine ⟨rfl, rfl, fun q hq => ?_⟩
    simp [clearRest, hq]
  | succ n ih =>
    have hbyte : (IMPLEMENTATION_PCR - (n + 1)) / 8 < PCR_SELECT_MAX := by
      simp only [IMPLEMENTATION_PCR, PCR_SELECT_MAX]
      omega
    obtain ⟨hpcr, hhash, hbits⟩ := ih (by omega) (select.clearBit (IMPLEMENTATION_PCR - (n + 1)))
    simp only [clearRest, if_pos hbyte]
    refine ⟨hpcr, hhash, fun q hq => ?_⟩
    rw [hbits q hq, Selection.testBit_clearBit hq, Bool.and_assoc, ← Bool.decide_and]
    congr 2
    exact propext (by omega)

/-- A bank adds the digests of its first selected PCR, as many as there is room for, and keeps
their bits. -/
lemma readBank_spec (pcrs : PcrValues) {n : ℕ} (hn : n ≤ IMPLEMENTATION_PCR)
    (select : Selection) (digests : List Bytes) :
    let read := ((List.range' (IMPLEMENTATION_PCR - n) n).filter select.testBit).take
      (8 - digests.length)
    let bank := readBank pcrs n select digests
    bank.pcr = IMPLEMENTATION_PCR ∧ bank.select.hash = select.hash ∧
      bank.digests = digests ++ read.map (pcrs select.hash) ∧
      ∀ q < IMPLEMENTATION_PCR, bank.select.testBit q = true ↔
        select.testBit q = true ∧ (q < IMPLEMENTATION_PCR - n ∨ q ∈ read) := by
  induction n generalizing digests with
  | zero => simp +contextual [readBank]
  | succ n ih =>
    have hrange : List.range' (IMPLEMENTATION_PCR - (n + 1)) (n + 1) =
        (IMPLEMENTATION_PCR - (n + 1)) :: List.range' (IMPLEMENTATION_PCR - n) n := by
      rw [List.range'_succ]
      congr 2
      omega
    have hstep : ∀ q, q < IMPLEMENTATION_PCR - n ↔
        q < IMPLEMENTATION_PCR - (n + 1) ∨ q = IMPLEMENTATION_PCR - (n + 1) := by omega
    simp only [readBank]
    rw [hrange]
    split
    · rename_i hselected
      rw [filter_cons_of_pos hselected]
      split
      · rename_i hfull
        obtain ⟨hpcr, hhash, hbits⟩ := clearRest_spec hn select
        have hzero : 8 - digests.length = 0 := by omega
        refine ⟨hpcr, hhash, by simp [hzero], fun q hq => ?_⟩
        rw [hbits q hq, hzero]
        simp
      · rename_i hroom
        obtain ⟨hpcr, hhash, hdigests, hbits⟩ :=
          ih (by omega) (digests ++ [pcrs select.hash (IMPLEMENTATION_PCR - (n + 1))])
        have hsucc : 8 - digests.length = 8 - (digests.length + 1) + 1 := by omega
        simp only [length_append, length_singleton] at hdigests hbits
        rw [hsucc, take_succ_cons]
        refine ⟨hpcr, hhash, by rw [hdigests]; simp, fun q hq => ?_⟩
        rw [hbits q hq, hstep, mem_cons]
        tauto
    · rename_i hselected
      rw [filter_cons_of_neg hselected]
      obtain ⟨hpcr, hhash, hdigests, hbits⟩ := ih (by omega) digests
      refine ⟨hpcr, hhash, hdigests, fun q hq => ?_⟩
      rw [hbits q hq, hstep]
      refine and_congr_right fun hq => ?_
      have hne : q ≠ IMPLEMENTATION_PCR - (n + 1) := fun h => hselected (h ▸ hq)
      tauto

/-- The selected PCR of a bank that are allocated. -/
def selectedPcrs (allocation : Allocation) (select : Selection) : List ℕ :=
  (List.range IMPLEMENTATION_PCR).filter fun pcr =>
    select.testBit pcr && pcrIsAllocated allocation pcr select.hash

/-- The allocated PCR that a list of selections selects, in its order: the number of the
structure, counted from `k`, the bank and the PCR. -/
def selectedPairs (allocation : Allocation) : ℕ → List Selection → List (ℕ × Bank × ℕ)
  | _, [] => []
  | k, select :: rest =>
    (selectedPcrs allocation select).map (fun pcr => (k, select.hash, pcr)) ++
      selectedPairs allocation (k + 1) rest

lemma le_of_mem_selectedPairs {allocation : Allocation} {k : ℕ} {selection : List Selection}
    {pair : ℕ × Bank × ℕ} (h : pair ∈ selectedPairs allocation k selection) : k ≤ pair.1 := by
  induction selection generalizing k with
  | nil => cases h
  | cons select rest ih =>
    rw [selectedPairs, mem_append, mem_map] at h
    obtain ⟨pcr, -, rfl⟩ | h := h
    · exact le_rfl
    · exact (Nat.le_succ k).trans (ih h)

lemma readBank_filterPcr (s : Tpm) (select : Selection) (digests : List Bytes) :
    let read := (selectedPcrs s.gp.pcrAllocated select).take (8 - digests.length)
    let bank := readBank s.pcrs IMPLEMENTATION_PCR (select.filterPcr s.gp.pcrAllocated) digests
    bank.pcr = IMPLEMENTATION_PCR ∧ bank.select.hash = select.hash ∧
      bank.digests = digests ++ read.map (s.pcrs select.hash) ∧
      ∀ q < IMPLEMENTATION_PCR, bank.select.testBit q = true ↔ q ∈ read := by
  have hfilter : (List.range' (IMPLEMENTATION_PCR - IMPLEMENTATION_PCR) IMPLEMENTATION_PCR).filter
      (select.filterPcr s.gp.pcrAllocated).testBit = selectedPcrs s.gp.pcrAllocated select := by
    rw [Nat.sub_self, ← range_eq_range']
    exact filter_congr fun q hq => Selection.testBit_filterPcr _ (mem_range.mp hq)
  obtain ⟨hpcr, hhash, hdigests, hbits⟩ :=
    readBank_spec s.pcrs le_rfl (select.filterPcr s.gp.pcrAllocated) digests
  rw [hfilter] at hdigests hbits
  refine ⟨hpcr, hhash, hdigests, fun q hq => (hbits q hq).trans ?_⟩
  rw [Nat.sub_self, Selection.testBit_filterPcr _ hq]
  refine ⟨fun h => h.2.resolve_left (Nat.not_lt_zero q), fun h => ⟨?_, .inr h⟩⟩
  exact (mem_filter.mp (mem_of_mem_take h)).2

lemma readSelections_spec (s : Tpm) (k : ℕ) (selection : List Selection)
    (digests : List Bytes) :
    let returned := (selectedPairs s.gp.pcrAllocated k selection).take (8 - digests.length)
    let out := readSelections s selection digests
    out.2 = digests ++ returned.map (fun pair => s.pcrs pair.2.1 pair.2.2) ∧
      out.1.map Selection.hash = selection.map Selection.hash ∧
      ∀ i select, out.1[i]? = some select → ∀ pcr < IMPLEMENTATION_PCR,
        (select.testBit pcr = true ↔ (k + i, select.hash, pcr) ∈ returned) := by
  induction selection generalizing k digests with
  | nil => simp [readSelections, selectedPairs]
  | cons select rest ih =>
    obtain ⟨hpcr, hhash, hdigests, hbits⟩ := readBank_filterPcr s select digests
    -- the whole bank was gone through, so the later banks have their turns
    simp only [readSelections, hpcr, lt_irrefl, and_false, if_false]
    obtain ⟨hrest, hhashes, hrestBits⟩ := ih (k + 1)
      (readBank s.pcrs IMPLEMENTATION_PCR (select.filterPcr s.gp.pcrAllocated) digests).digests
    have hroom : 8 - (readBank s.pcrs IMPLEMENTATION_PCR (select.filterPcr s.gp.pcrAllocated)
        digests).digests.length =
          8 - digests.length - (selectedPcrs s.gp.pcrAllocated select).length := by
      rw [hdigests, length_append, length_map, length_take]
      omega
    rw [hroom] at hrest hrestBits
    rw [selectedPairs, take_append, length_map, ← map_take]
    refine ⟨?_, by simp [hhash, hhashes], fun i out hout pcr hp => ?_⟩
    · rw [hrest, hdigests]
      simp [Function.comp_def]
    · rw [mem_append, mem_map]
      cases i with
      | zero =>
        obtain rfl := Option.some.inj hout
        rw [hbits pcr hp, hhash]
        constructor
        · exact fun h => .inl ⟨pcr, h, rfl⟩
        · rintro (⟨pcr', h, heq⟩ | h)
          · obtain rfl : pcr' = pcr := by simpa using heq
            exact h
          · exact absurd (le_of_mem_selectedPairs (mem_of_mem_take h)) (by simp)
      | succ i =>
        rw [hrestBits i out hout pcr hp, Nat.add_assoc, Nat.add_comm 1 i]
        constructor
        · exact .inr
        · rintro (⟨pcr', -, heq⟩ | h)
          · simp at heq
          · exact h

/-- The digests returned are those of the first eight selected and allocated PCR, and the bits
that remain set are theirs, in the structures of the request. -/
theorem pcrRead_reports (s : Tpm) (selection : List Selection) :
    let returned := (selectedPairs s.gp.pcrAllocated 0 selection).take 8
    let out := pcrRead selection s
    out.digests = returned.map (fun pair => s.pcrs pair.2.1 pair.2.2) ∧
      out.selection.map Selection.hash = selection.map Selection.hash ∧
      ∀ i select, out.selection[i]? = some select → ∀ pcr < IMPLEMENTATION_PCR,
        (select.testBit pcr = true ↔ (i, select.hash, pcr) ∈ returned) := by
  have h := readSelections_spec s 0 selection []
  simp only [length_nil, Nat.sub_zero, nil_append, Nat.zero_add] at h
  exact h

end RfTpm.Pcr
