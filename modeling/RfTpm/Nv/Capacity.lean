import RfTpm.Nv.History

/-!
# Space and reservations

`NvTestSpace()` keeps room for a minimum number of persistent objects and of counters.
Whether that room is still there after any history of additions and deletions is a matter
of one inequality: the bytes in use, and those of the entities missing to the minima,
leave room for the terminator (`ReserveHolds`).

An addition that passes `NvTestSpace()` keeps the inequality, with one exception: a counter
at a handle outside the ordinary range is not counted, but is added as if it were.  A
deletion keeps it if the entry removed is at least as large as the room its kind is then
given.  An orderly counter is eight bytes smaller than the counter that has to fit in its
place, so its deletion can break the reservation; `tightPlan` is a history that does.
-/

namespace RfTpm

open TpmaNv Runs List

variable {s : Nv} {ts ts' pre post : List Slot} {t : Slot} {maxCount : UInt64}

/-! ## The reservation -/

/-- The room kept for the entities missing to the required numbers, and the terminator. -/
def reserve (es : List NvEntry) : ℕ :=
  NV_LIST_TERMINATOR_SIZE + (MIN_EVICT_OBJECTS - persistentNum es) * NV_EVICT_OBJECT_SIZE +
    (MIN_COUNTER_INDICES - counterNum es) * NV_INDEX_COUNTER_SIZE

/-- The reserved room is free. -/
def ReserveHolds (ts : List Slot) : Prop :=
  listEnd (entries ts) + reserve (entries ts) ≤ NV_MEMORY_SIZE

lemma reserveHolds_iff :
    ReserveHolds ts ↔ listEnd (entries ts) + (12 + (7 - persistentNum (entries ts)) * 2192 +
      (8 - counterNum (entries ts)) * 160) ≤ NV_MEMORY_SIZE := Iff.rfl

lemma reservedBytes_eq (es : List NvEntry) (isIndex isCounter : Bool) :
    reservedBytes es isIndex isCounter =
      16 + (if isIndex then (7 - persistentNum es) * 2192 else 0) +
        (if isIndex && isCounter then 0 else (8 - counterNum es) * 160) := rfl

lemma nums_split (pre post : List Slot) (t : Slot) :
    persistentNum (entries (pre ++ t :: post)) =
        persistentNum (entries (pre ++ post)) + (if t.entry.isPersistent then 1 else 0) ∧
      counterNum (entries (pre ++ t :: post)) =
        counterNum (entries (pre ++ post)) + (if t.entry.isCounter then 1 else 0) ∧
      listEnd (entries (pre ++ t :: post)) =
        listEnd (entries (pre ++ post)) + t.entry.entrySize := by
  simp only [entries_append, entries_cons, persistentNum, counterNum, countP_append, countP_cons,
    listEnd, nvSize_append, nvSize_cons]
  refine ⟨by omega, by omega, by omega⟩

/-- A counted counter takes no more room than is kept for one, and less only if it is
orderly. -/
lemma entrySize_counter {x : IndexEntry} (h : isNvCounterIndex x.info.attributes = true) :
    (NvEntry.index x).entrySize =
      if x.info.orderly then NV_INDEX_COUNTER_SIZE - 8 else NV_INDEX_COUNTER_SIZE := by
  rw [NvEntry.entrySize_index, NvIndex.storedSize, x.counter_size h]
  split <;> rfl

/-- A slot is as large as the room that is kept for an entity of its kind. -/
def Slot.Roomy (t : Slot) : Prop :=
  (if t.entry.isPersistent then NV_EVICT_OBJECT_SIZE else 0) +
    (if t.entry.isCounter then NV_INDEX_COUNTER_SIZE else 0) ≤ t.entry.entrySize

lemma Slot.roomy_of_not_orderly (h : t.entry.isCounter = true → t.live = none) : t.Roomy := by
  cases t with
  | evict e => simp [Roomy, NvEntry.isPersistent, NvEntry.isCounter, NvEntry.entrySize_evict]
  | plain p =>
    have hsize := entrySize_counter (x := p.toIndexEntry)
    simp only [p.not_orderly, Bool.false_eq_true, if_false] at hsize
    cases hc : (NvEntry.index p.toIndexEntry).isCounter with
    | false => simp [Roomy, NvEntry.isPersistent, hc]
    | true =>
      have hcounter : isNvCounterIndex p.info.attributes = true := by
        simp only [NvEntry.isCounter, Bool.and_eq_true] at hc
        exact hc.2
      simp [Roomy, NvEntry.isPersistent, hc, hsize hcounter]
  | orderly o =>
    cases hc : (NvEntry.index o.toIndexEntry).isCounter with
    | false => simp [Roomy, NvEntry.isPersistent, hc]
    | true => simp at h; simp [h] at hc

lemma ReserveHolds.delete (h : ReserveHolds (pre ++ t :: post)) (ht : t.Roomy) :
    ReserveHolds (pre ++ post) := by
  obtain ⟨h1, h2, h3⟩ := nums_split pre post t
  rw [reserveHolds_iff] at h ⊢
  simp only [Slot.Roomy, NV_EVICT_OBJECT_SIZE, OBJECT_SIZE, NV_INDEX_COUNTER_SIZE,
    NV_INDEX_SIZE] at ht
  split at ht <;> split at ht <;> simp_all <;> omega

/-- Deleting an orderly counter keeps the reservation if there are counters to spare, or
eight bytes. -/
lemma ReserveHolds.delete_spare (h : ReserveHolds (pre ++ t :: post))
    (hsize : t.entry.isPersistent = false)
    (hspare : MIN_COUNTER_INDICES < counterNum (entries (pre ++ t :: post)) ∨
      NvFits (pre ++ t :: post) 4 true false) : ReserveHolds (pre ++ post) := by
  obtain ⟨h1, h2, h3⟩ := nums_split pre post t
  have hle := t.entry.le_entrySize
  simp only [reserveHolds_iff, NvFits, reservedBytes_eq, MIN_COUNTER_INDICES, hsize, if_true,
    Bool.and_false, Bool.false_eq_true, if_false] at h h1 hspare ⊢
  split at h2 <;> omega

lemma ReserveHolds.addEvict (h : ReserveHolds ts) {e : EvictEntry}
    (hfits : NvFits ts (OBJECT_SIZE + 4) false false) : ReserveHolds (ts ++ [Slot.evict e]) := by
  obtain ⟨h1, h2, h3⟩ := nums_split ts [] (.evict e)
  simp only [append_nil, Slot.entry_evict, NvEntry.isPersistent, NvEntry.isCounter,
    NvEntry.entrySize_evict, Bool.false_eq_true, if_true, if_false] at h1 h2 h3
  simp only [reserveHolds_iff, NvFits, reservedBytes_eq, NV_EVICT_OBJECT_SIZE, OBJECT_SIZE,
    Bool.and_false, Bool.false_eq_true, if_false] at h h3 hfits ⊢
  omega

lemma ReserveHolds.addIndex (hindex : t.entry.isPersistent = false) {size : ℕ}
    (hsize : t.entry.entrySize = 4 + size) (hfits : NvFits ts size true false) :
    ReserveHolds (ts ++ [t]) := by
  obtain ⟨h1, h2, h3⟩ := nums_split ts [] t
  simp only [append_nil, hindex, hsize, Bool.false_eq_true, if_false] at h1 h2 h3
  simp only [reserveHolds_iff, NvFits, reservedBytes_eq, if_true, Bool.and_false,
    Bool.false_eq_true, if_false] at hfits ⊢
  split at h2 <;> omega

lemma ReserveHolds.addCounter (h : ReserveHolds ts) (hindex : t.entry.isPersistent = false)
    (hcounter : t.entry.isCounter = true) {size : ℕ} (hsize : t.entry.entrySize = 4 + size)
    (hle : t.entry.entrySize ≤ NV_INDEX_COUNTER_SIZE) (hfits : NvFits ts size true true) :
    ReserveHolds (ts ++ [t]) := by
  obtain ⟨h1, h2, h3⟩ := nums_split ts [] t
  simp only [append_nil, hindex, hcounter, hsize, Bool.false_eq_true, if_true, if_false]
    at h1 h2 h3
  simp only [reserveHolds_iff, NvFits, reservedBytes_eq, NV_INDEX_COUNTER_SIZE, NV_INDEX_SIZE,
    if_true, Bool.and_true] at h hle hfits ⊢
  omega

/-! ## Runs -/

/-- The condition under which a call keeps the reservation.  A counter that
`NvCapGetCounterNumber()` does not count has to fit beside the reserved counters; an
orderly counter is deleted only if there are more counters than required or eight bytes
to spare, which are four beyond the size word `NvTestSpace()` adds. -/
def AllocStep.KeepsReserve (s : Nv) (step : AllocStep) : Prop :=
  match step.op with
  | .defineIndex publicArea _ =>
    isNvCounterIndex publicArea.attributes = true →
      handleGetType publicArea.nvIndex ≠ TPM_HT_NV_INDEX →
      (nvTestSpace (defineEntrySize publicArea) true false s).1 = true
  | .deleteIndex handle => ∀ nvIndex locator,
      (nvGetIndexInfo handle (beginCommand step.nvStatus s)).1 = some (nvIndex, locator) →
        isNvCounterIndex nvIndex.attributes = true → nvIndex.orderly = true →
        handleGetType handle = TPM_HT_NV_INDEX →
        MIN_COUNTER_INDICES < (nvCapGetCounterNumber s).1 ∨ (nvTestSpace 4 true false s).1 = true
  | _ => True

variable {publicArea : TpmsNvPublic} {authValue : Tpm2b} {handle : TpmHandle}

lemma ReserveHolds.define (h : ReserveHolds ts) (ht : IsDefined publicArea authValue t)
    (hmax : publicArea.dataSize.toNat ≤ MAX_NV_INDEX_SIZE)
    (hfits : NvFits ts (defineEntrySize publicArea) true
      (isNvCounterIndex publicArea.attributes))
    (hcond : isNvCounterIndex publicArea.attributes = true →
      handleGetType publicArea.nvIndex ≠ TPM_HT_NV_INDEX →
      NvFits ts (defineEntrySize publicArea) true false) : ReserveHolds (ts ++ [t]) := by
  obtain ⟨x, hx, hinfo⟩ : ∃ x : IndexEntry,
      t.entry = .index x ∧ x.info = ⟨publicArea, authValue⟩ := by
    cases t with
    | evict e => exact ht.elim
    | plain p => exact ⟨p.toIndexEntry, rfl, ht⟩
    | orderly o => exact ⟨o.toIndexEntry, rfl, ht.1⟩
  have hindex : t.entry.isPersistent = false := by rw [hx, NvEntry.isPersistent]
  have hsize : t.entry.entrySize = 4 + defineEntrySize publicArea := by
    rw [hx, NvEntry.entrySize_index, hinfo, defineEntrySize_eq authValue hmax, Nat.add_assoc]
  have hattr : x.info.attributes = publicArea.attributes := by rw [hinfo]; rfl
  have hhandle : x.info.handle = publicArea.nvIndex := by rw [hinfo]; rfl
  cases hc : isNvCounterIndex publicArea.attributes with
  | false =>
    rw [hc] at hfits
    exact addIndex hindex hsize hfits
  | true =>
    by_cases htype : handleGetType publicArea.nvIndex = TPM_HT_NV_INDEX
    · rw [hc] at hfits
      refine h.addCounter hindex ?_ hsize ?_ hfits
      · simp [hx, NvEntry.isCounter, hhandle, hattr, htype, hc]
      · rw [hx, entrySize_counter (by rw [hattr, hc])]
        split
        · exact Nat.sub_le ..
        · exact le_rfl
    · exact addIndex hindex hsize (hcond hc htype)

lemma ReserveHolds.step {step : AllocStep} {rc : TpmRc} (h : ReserveHolds ts)
    (hinv : AllocInv s ts) (hok : step.op.CallerOk s)
    (hnoflush : ∀ hierarchy, step.op ≠ .flushHierarchy hierarchy) (hcond : step.KeepsReserve s)
    (hstep : TableStep step.op rc ts ts') : ReserveHolds ts' := by
  obtain ⟨nvStatus, op⟩ := step
  cases hstep with
  | refused => exact h
  | absentIndex => exact h
  | absentEvict => exact h
  | added htype fits => exact h.addEvict fits
  | flushed => exact absurd rfl (hnoflush _)
  | deletedEvict =>
    refine h.delete (Slot.roomy_of_not_orderly fun hc => ?_)
    simp [NvEntry.isCounter] at hc
  | @defined publicArea authValue _ t ht fits ramFits =>
    refine h.define ht hok.2.2.1 fits fun hc htype => ?_
    have htest := hcond hc htype
    rw [nvTestSpace_rep hinv.rep] at htest
    exact of_decide_eq_true htest
  | @deletedIndex pre post t x hx =>
    by_cases hcounter : t.entry.isCounter = true → t.live = none
    · exact h.delete (Slot.roomy_of_not_orderly hcounter)
    -- what is left is an orderly counter
    rw [Classical.not_imp] at hcounter
    obtain ⟨hcounter, hlive⟩ := hcounter
    obtain ⟨o, rfl⟩ : ∃ o, t = .orderly o := by
      cases t with
      | evict e => exact absurd rfl hlive
      | plain p => exact absurd rfl hlive
      | orderly o => exact ⟨o, rfl⟩
    obtain rfl : o.info = x := by simpa [Slot.info?] using hx
    simp only [Slot.entry_orderly, NvEntry.isCounter, Bool.and_eq_true, beq_iff_eq] at hcounter
    have hrep := hinv.rep.beginCommand nvStatus
    have hne : (beginCommand nvStatus s).cachedNvIndex.handle ≠ o.info.handle := by
      rw [beginCommand_cached]
      intro heq
      have hindex := o.isIndex
      rw [← heq] at hindex
      cases hindex
    have hget := nvGetIndexInfo_found hrep hx hne
    have hstatic := Slot.static_attributes hx
    have hspare := hcond _ _ (congrArg Prod.fst hget)
      ((isNvCounterIndex_congr hstatic).trans hcounter.2)
      ((isSet_congr hstatic (by decide)).trans o.orderly) hcounter.1
    rw [nvCapGetCounterNumber_eq hinv.rep.dyn, nvTestSpace_rep hinv.rep] at hspare
    exact h.delete_spare rfl (hspare.imp id of_decide_eq_true)

/-- The reservation guarantee: while fewer than the required persistent objects exist
another one fits, and while fewer than the required counters exist another one that is not
orderly fits. -/
def Reserves (s : Nv) : Prop :=
  ((nvCapGetPersistentNumber s).1 < MIN_EVICT_OBJECTS →
      (nvTestSpace (OBJECT_SIZE + 4) false false s).1 = true) ∧
    ((nvCapGetCounterNumber s).1 < MIN_COUNTER_INDICES →
      (nvTestSpace (NV_INDEX_SIZE + 8) true true s).1 = true)

lemma ReserveHolds.reserves (h : ReserveHolds ts) (hrep : Rep s ts maxCount) : Reserves s := by
  rw [Reserves, nvCapGetPersistentNumber_eq hrep.dyn, nvCapGetCounterNumber_eq hrep.dyn,
    nvTestSpace_rep hrep, nvTestSpace_rep hrep, decide_eq_true_eq, decide_eq_true_eq]
  simp only [reserveHolds_iff, NvFits, reservedBytes_eq, OBJECT_SIZE, NV_INDEX_SIZE,
    MIN_EVICT_OBJECTS, MIN_COUNTER_INDICES, if_true, Bool.and_false, Bool.and_true,
    Bool.false_eq_true, if_false] at h ⊢
  omega

/-- In every run whose calls meet the condition, the reservation guarantee holds in every
state reached. -/
theorem reservation_guarantee
    (h : (entitySystem.restrict fun s step => step.KeepsReserve s).Reach s) :
    Reserves s := by
  have hinv : ∃ ts, AllocInv s ts ∧ ReserveHolds ts := by
    refine h.invariant (I := fun s => ∃ ts, AllocInv s ts ∧ ReserveHolds ts) ?_ ?_
    · rintro _ ⟨s₀, -, rfl⟩
      obtain ⟨hrep, hmax, -⟩ := nvManufacture_rep s₀
      -- the empty area has room for everything that is reserved
      exact ⟨[], ⟨by rwa [hmax], by simp⟩, by unfold ReserveHolds; decide⟩
    · rintro s step ⟨ts, hinv, hres⟩ ⟨⟨hok, hnoflush⟩, hcond⟩
      obtain ⟨ts', hstep, hinv', -⟩ := alloc_step hinv step hok
      exact ⟨ts', hinv', hres.step hinv hok hnoflush hcond hstep⟩
  obtain ⟨ts, hinv, hres⟩ := hinv
  exact hres.reserves hinv.rep

/-- What makes sure of the condition, on a list of items. -/
def Plan.keepsReserve (us : List Item) : Plan → Bool
  | define handle attributes dataSize =>
    !isNvCounterIndex attributes || handleGetType handle == TPM_HT_NV_INDEX ||
      itemsFit us (defineEntrySize (blankPublic handle attributes dataSize)) true false
  | evict _ => true
  | delete _ => itemsFit us 4 true false

lemma Plan.keepsReserve_sound {p : Plan} (h : AllocInv s ts)
    (hp : p.keepsReserve (ts.map Slot.item) = true) :
    (⟨TPM_RC_SUCCESS, p.op⟩ : AllocStep).KeepsReserve s := by
  cases p with
  | evict handle => exact trivial
  | define handle attributes dataSize =>
    intro hcounter htype
    simp only [keepsReserve, Bool.or_eq_true, Bool.not_eq_true', beq_iff_eq, ← nvFits_items] at hp
    rw [nvTestSpace_rep h.rep, decide_eq_true_eq]
    exact hp.resolve_left fun hor => hor.elim (fun hno => nomatch hno.symm.trans hcounter) htype
  | delete handle =>
    intro _ _ _ _ _ _
    rw [nvTestSpace_rep h.rep, decide_eq_true_eq, nvFits_items]
    exact .inr hp

theorem reservation_guarantee_sample :
    ∃ s, (entitySystem.restrict fun s step => step.KeepsReserve s).Reach s ∧
      (nvCapGetPersistentNumber s).1 = 2 ∧ (nvCapGetCounterNumber s).1 = 1 ∧ Reserves s := by
  obtain ⟨us, hrun, hobjects, hcounters⟩ : ∃ us,
      runPlans (fun us p => p.keepsReserve us) samplePlan [] = some us ∧
        us.countP Item.object = 2 ∧ us.countP Item.counter = 1 := by
    refine ⟨(runPlans (fun us p => p.keepsReserve us) samplePlan []).getD [], ?_, ?_, ?_⟩ <;>
      decide +kernel
  obtain ⟨s, hreach, ts, hinv, rfl⟩ :=
    runPlans_sound (fun _ _ _ => Plan.keepsReserve_sound) holds_manufactured hrun
  refine ⟨s, hreach, ?_, ?_, reservation_guarantee hreach⟩
  · rw [nvCapGetPersistentNumber_eq hinv.rep.dyn, (nums_items ts).1, hobjects]
  · rw [nvCapGetCounterNumber_eq hinv.rep.dyn, (nums_items ts).2, hcounters]

/-! ## A full dynamic area -/

/-- The required objects and counters, one of the counters orderly, and ordinary indices
that take up the rest of NV to the last byte before the terminator. -/
def fillPlan : List Plan :=
  (range MIN_EVICT_OBJECTS).map (fun i => Plan.evict (0x81000000 + UInt32.ofNat i)) ++
    (range (MIN_COUNTER_INDICES - 1)).map
      (fun i => Plan.define (0x01000000 + UInt32.ofNat i) COUNTER_ATTRIBUTES 8) ++
    [Plan.define 0x01000100 (COUNTER_ATTRIBUTES.set ORDERLY) 8] ++
    (range 4).map (fun i => Plan.define (0x01000200 + UInt32.ofNat i) 0 MAX_NV_INDEX_SIZE) ++
    [Plan.define 0x01000300 0 1008, Plan.define 0x01000301 0 1008]

/-- The same, and then the orderly counter is deleted. -/
def tightPlan : List Plan := fillPlan ++ [Plan.delete 0x01000100]

/-- The guarantee fails: eight bytes are missing for a counter in place of the orderly one. -/
theorem reservation_broken : ∃ s, entitySystem.Reach s ∧ ¬ Reserves s := by
  obtain ⟨us, hrun, hcount, hfits⟩ : ∃ us, runPlans (fun _ _ => true) tightPlan [] = some us ∧
      us.countP Item.counter < MIN_COUNTER_INDICES ∧
      itemsFit us (NV_INDEX_SIZE + 8) true true = false := by
    refine ⟨(runPlans (fun _ _ => true) tightPlan []).getD [], ?_, ?_, ?_⟩ <;> decide +kernel
  obtain ⟨s, ts, hreach, hinv, rfl⟩ := exists_of_plans hrun
  refine ⟨s, hreach, fun hres => ?_⟩
  have hnum : (nvCapGetCounterNumber s).1 < MIN_COUNTER_INDICES := by
    rw [nvCapGetCounterNumber_eq hinv.rep.dyn, (nums_items ts).2]
    exact hcount
  have htest := hres.2 hnum
  rw [nvTestSpace_rep hinv.rep, decide_eq_true_eq, nvFits_items, hfits] at htest
  exact Bool.false_ne_true htest

/-! ## What is advertised -/

/-- `NV_RAM_INDEX_COUNTER_SIZE`. -/
def NV_RAM_INDEX_COUNTER_SIZE : ℕ := NV_RAM_HEADER_SIZE + 8

/-- The space for entities of one kind beside those of the other that are missing.  The
terminator is taken off with these, and only with these. -/
def availSpace (num required size availNvSpace : ℕ) : ℕ :=
  if num < required then
    let reserved := NV_LIST_TERMINATOR_SIZE + (required - num) * size
    if reserved > availNvSpace then 0 else availNvSpace - reserved
  else availNvSpace

/-- `NvCapGetPersistentAvail()`. -/
def nvCapGetPersistentAvail : NvM ℕ := do
  let num ← nvCapGetCounterNumber
  let avail ← nvGetFreeBytes
  pure (availSpace num MIN_COUNTER_INDICES NV_INDEX_COUNTER_SIZE avail / NV_EVICT_OBJECT_SIZE)

/-- `NvCapGetCounterAvail()`. -/
def nvCapGetCounterAvail : NvM ℕ := do
  let num ← nvCapGetPersistentNumber
  let avail ← nvGetFreeBytes
  let inNv := availSpace num MIN_EVICT_OBJECTS NV_EVICT_OBJECT_SIZE avail / NV_INDEX_COUNTER_SIZE
  let ramEnd ← nvRamGetEnd
  let inRam := (RAM_INDEX_SPACE - ramEnd) / NV_RAM_INDEX_COUNTER_SIZE
  pure (if inNv > inRam then inRam else inNv)

/-- What is advertised can be had: another object, or another counter that is not orderly, passes
`NvTestSpace()`, and each addition takes at most one off its number. -/
structure Honest (s : Nv) : Prop where
  object : 1 ≤ (nvCapGetPersistentAvail s).1 →
    (nvTestSpace (OBJECT_SIZE + 4) false false s).1 = true
  counter : 1 ≤ (nvCapGetCounterAvail s).1 → (nvTestSpace (NV_INDEX_SIZE + 8) true true s).1 = true
  added : ∀ step : AllocStep, step.op.CallerOk s → (step.exec s).1 = TPM_RC_SUCCESS →
    ∀ handle object, step.op = .addEvictObject handle object →
      (nvCapGetPersistentAvail s).1 ≤ (nvCapGetPersistentAvail (step.exec s).2).1 + 1
  defined : ∀ step : AllocStep, step.op.CallerOk s → (step.exec s).1 = TPM_RC_SUCCESS →
    ∀ publicArea authValue, step.op = .defineIndex publicArea authValue →
      isNvCounterIndex publicArea.attributes = true →
      publicArea.attributes.isSet ORDERLY = false →
      (nvCapGetCounterAvail s).1 ≤ (nvCapGetCounterAvail (step.exec s).2).1 + 1

/-- The free bytes hold an entity of the size, with the terminator behind it, or not even
without. -/
def HoldsWhole (size : ℕ) (s : Nv) : Prop :=
  (nvGetFreeBytes s).1 < size ∨ size + NV_LIST_TERMINATOR_SIZE ≤ (nvGetFreeBytes s).1

lemma nvCapGetPersistentAvail_rep (h : Rep s ts maxCount) :
    (nvCapGetPersistentAvail s).1 =
      availSpace (counterNum (entries ts)) MIN_COUNTER_INDICES NV_INDEX_COUNTER_SIZE
        (NV_MEMORY_SIZE - listEnd (entries ts)) / NV_EVICT_OBJECT_SIZE := by
  simp [nvCapGetPersistentAvail, nvCapGetCounterNumber_eq h.dyn, nvGetFreeBytes_eq h.dyn,
    h.evictEnd]

lemma nvCapGetCounterAvail_rep (h : Rep s ts maxCount) :
    (nvCapGetCounterAvail s).1 =
      min ((RAM_INDEX_SPACE - ramSize (liveRam ts)) / NV_RAM_INDEX_COUNTER_SIZE)
        (availSpace (persistentNum (entries ts)) MIN_EVICT_OBJECTS NV_EVICT_OBJECT_SIZE
          (NV_MEMORY_SIZE - listEnd (entries ts)) / NV_INDEX_COUNTER_SIZE) := by
  simp only [nvCapGetCounterAvail, NvM.bind_apply, NvM.pure_apply,
    nvCapGetPersistentNumber_eq h.dyn, nvGetFreeBytes_eq h.dyn, nvRamGetEnd_eq h.ram, h.evictEnd]
  split <;> omega

lemma availSpace_div_le {num required other size free free' : ℕ} (hsize : 0 < size)
    (hfree : free ≤ free' + size) :
    availSpace num required other free / size ≤ availSpace num required other free' / size + 1 := by
  rw [← Nat.add_div_right _ hsize]
  refine Nat.div_le_div_right ?_
  unfold availSpace
  dsimp only
  split_ifs <;> omega

lemma persistentAvail_added (h : AllocInv s ts) {step : AllocStep} (hok : step.op.CallerOk s)
    (hrc : (step.exec s).1 = TPM_RC_SUCCESS) {handle : TpmHandle} {object : Object}
    (hop : step.op = .addEvictObject handle object) :
    (nvCapGetPersistentAvail s).1 ≤ (nvCapGetPersistentAvail (step.exec s).2).1 + 1 := by
  obtain ⟨ts', hstep, hinv, -⟩ := alloc_step h step hok
  rw [hrc, hop] at hstep
  cases hstep with
  | refused hne => exact absurd rfl hne
  | added htype fits =>
    obtain ⟨-, h2, h3⟩ := nums_split ts [] (evictSlot handle object htype)
    rw [append_nil] at h2 h3
    rw [nvCapGetPersistentAvail_rep h.rep, nvCapGetPersistentAvail_rep hinv.rep, h2, h3]
    refine availSpace_div_le (by decide) ?_
    rw [evictSlot, Slot.entry_evict, NvEntry.entrySize_evict]
    omega

lemma counterAvail_defined (h : AllocInv s ts) {step : AllocStep} (hok : step.op.CallerOk s)
    (hrc : (step.exec s).1 = TPM_RC_SUCCESS) {publicArea : TpmsNvPublic} {authValue : Tpm2b}
    (hop : step.op = .defineIndex publicArea authValue)
    (hcounter : isNvCounterIndex publicArea.attributes = true)
    (horderly : publicArea.attributes.isSet ORDERLY = false) :
    (nvCapGetCounterAvail s).1 ≤ (nvCapGetCounterAvail (step.exec s).2).1 + 1 := by
  obtain ⟨ts', hstep, hinv, -⟩ := alloc_step h step hok
  rw [hrc, hop] at hstep
  rw [hop] at hok
  cases hstep with
  | refused hne => exact absurd rfl hne
  | @defined _ _ _ t ht fits ramFits =>
    have hitem := ht.item hok.2.2.1
    have hsize : t.entry.entrySize = NV_INDEX_COUNTER_SIZE := by
      rw [show t.entry.entrySize = _ from congrArg Item.size hitem]
      simp [indexItem, defineEntrySize, horderly, hok.2.2.2.1 hcounter, NV_INDEX_COUNTER_SIZE,
        NV_INDEX_SIZE]
    have hram : ramSize (liveRam (ts ++ [t])) = ramSize (liveRam ts) := by
      simp [ramSize_items, hitem, indexItem, horderly]
    obtain ⟨h1, -, h3⟩ := nums_split ts [] t
    rw [append_nil, show t.entry.isPersistent = _ from congrArg Item.object hitem] at h1
    rw [append_nil, hsize] at h3
    rw [nvCapGetCounterAvail_rep h.rep, nvCapGetCounterAvail_rep hinv.rep, hram, h1, h3]
    rw [← Nat.add_min_add_right]
    exact min_le_min (Nat.le_succ _) (availSpace_div_le (by decide) (by omega))

/-- One that is advertised fits with the terminator behind it, unless the terminator was forgotten
and is what is missing. -/
lemma advertised_iff {num required other size free : ℕ} (hsize : 0 < size) :
    (1 ≤ availSpace num required other free / size →
        size + NV_LIST_TERMINATOR_SIZE + (required - num) * other ≤ free) ↔
      (required ≤ num → free < size ∨ size + NV_LIST_TERMINATOR_SIZE ≤ free) := by
  rw [Nat.le_div_iff_mul_le hsize, Nat.one_mul]
  unfold availSpace
  dsimp only
  by_cases hmissing : num < required
  · rw [if_pos hmissing]
    refine iff_of_true ?_ (fun hall => absurd hmissing (Nat.not_lt.mpr hall))
    split_ifs <;> omega
  · rw [if_neg hmissing, Nat.sub_eq_zero_of_le (Nat.not_lt.mp hmissing)]
    omega

/-- The numbers are honest in a reachable state exactly if the free bytes are not in the gap that
the terminator makes once all the entities of the other kind are there. -/
theorem honest_iff (h : allocSystem.Reach s) :
    Honest s ↔
      (MIN_COUNTER_INDICES ≤ (nvCapGetCounterNumber s).1 → HoldsWhole NV_EVICT_OBJECT_SIZE s) ∧
      ((nvRamTestSpaceIndex 8 s).1 = true → MIN_EVICT_OBJECTS ≤ (nvCapGetPersistentNumber s).1 →
        HoldsWhole NV_INDEX_COUNTER_SIZE s) := by
  obtain ⟨ts, hinv⟩ := alloc_inv h
  have hrep := hinv.rep
  have hfields : Honest s ↔ (1 ≤ (nvCapGetPersistentAvail s).1 → _) ∧
      (1 ≤ (nvCapGetCounterAvail s).1 → _) :=
    ⟨fun hs => ⟨hs.object, hs.counter⟩, fun hs => ⟨hs.1, hs.2,
      fun _ hok hrc _ _ => persistentAvail_added hinv hok hrc,
      fun _ hok hrc _ _ => counterAvail_defined hinv hok hrc⟩⟩
  have hobject : NvFits ts (OBJECT_SIZE + 4) false false ↔
      NV_EVICT_OBJECT_SIZE + NV_LIST_TERMINATOR_SIZE +
        (MIN_COUNTER_INDICES - counterNum (entries ts)) * NV_INDEX_COUNTER_SIZE ≤
          NV_MEMORY_SIZE - listEnd (entries ts) := by
    simp only [NvFits, reservedBytes, NV_EVICT_OBJECT_SIZE, Bool.and_false, Bool.false_eq_true,
      if_false]
    omega
  have hcounter : NvFits ts (NV_INDEX_SIZE + 8) true true ↔
      NV_INDEX_COUNTER_SIZE + NV_LIST_TERMINATOR_SIZE +
        (MIN_EVICT_OBJECTS - persistentNum (entries ts)) * NV_EVICT_OBJECT_SIZE ≤
          NV_MEMORY_SIZE - listEnd (entries ts) := by
    simp only [NvFits, reservedBytes, NV_INDEX_COUNTER_SIZE, Bool.and_true, if_true]
    omega
  have hram : 1 ≤ (RAM_INDEX_SPACE - ramSize (liveRam ts)) / NV_RAM_INDEX_COUNTER_SIZE ↔
      ramSize (liveRam ts) + NV_RAM_HEADER_SIZE + 8 ≤ RAM_INDEX_SPACE := by
    rw [Nat.le_div_iff_mul_le (by decide), NV_RAM_INDEX_COUNTER_SIZE]
    omega
  rw [hfields, nvCapGetPersistentAvail_rep hrep, nvCapGetCounterAvail_rep hrep,
    nvTestSpace_rep hrep, nvTestSpace_rep hrep, decide_eq_true_eq, decide_eq_true_eq, hobject,
    hcounter, advertised_iff (by decide), Nat.le_min, and_imp, hram, advertised_iff (by decide),
    HoldsWhole, HoldsWhole, nvGetFreeBytes_eq hrep.dyn, hrep.evictEnd,
    nvCapGetCounterNumber_eq hrep.dyn, nvCapGetPersistentNumber_eq hrep.dyn,
    nvRamTestSpaceIndex_eq hrep.ram, decide_eq_true_eq]

/-- The required objects and counters. -/
def requiredPlan : List Plan :=
  (range MIN_EVICT_OBJECTS).map (fun i => Plan.evict (0x81000000 + UInt32.ofNat i)) ++
    (range MIN_COUNTER_INDICES).map
      (fun i => Plan.define (0x01000000 + UInt32.ofNat i) COUNTER_ATTRIBUTES 8)

theorem honest_required : ∃ s, allocSystem.Reach s ∧
    (nvCapGetPersistentNumber s).1 = MIN_EVICT_OBJECTS ∧
    (nvCapGetCounterNumber s).1 = MIN_COUNTER_INDICES ∧ 1 ≤ (nvCapGetPersistentAvail s).1 ∧
    Honest s := by
  obtain ⟨us, hrun, hobjects, hcounters, hfree⟩ : ∃ us,
      runPlans (fun _ _ => true) requiredPlan [] = some us ∧
        us.countP Item.object = MIN_EVICT_OBJECTS ∧ us.countP Item.counter = MIN_COUNTER_INDICES ∧
        NV_EVICT_OBJECT_SIZE + NV_LIST_TERMINATOR_SIZE ≤ freeBytes us := by
    refine ⟨(runPlans (fun _ _ => true) requiredPlan []).getD [], ?_, ?_, ?_, ?_⟩ <;>
      decide +kernel
  obtain ⟨s, ts, hreach, hinv, rfl⟩ := exists_of_plans hrun
  rw [← freeBytes_items] at hfree
  have hbytes : (nvGetFreeBytes s).1 = NV_MEMORY_SIZE - listEnd (entries ts) := by
    rw [nvGetFreeBytes_eq hinv.rep.dyn, hinv.rep.evictEnd]
  have hobject : HoldsWhole NV_EVICT_OBJECT_SIZE s := .inr (by rwa [hbytes])
  have hcounter : HoldsWhole NV_INDEX_COUNTER_SIZE s :=
    .inr (by rw [hbytes]; exact le_trans (by decide) hfree)
  refine ⟨s, hreach.of_restrict, ?_, ?_, ?_,
    (honest_iff hreach.of_restrict).mpr ⟨fun _ => hobject, fun _ _ => hcounter⟩⟩
  · rw [nvCapGetPersistentNumber_eq hinv.rep.dyn, (nums_items ts).1, hobjects]
  · rw [nvCapGetCounterNumber_eq hinv.rep.dyn, (nums_items ts).2, hcounters]
  · rw [nvCapGetPersistentAvail_rep hinv.rep, (nums_items ts).2, hcounters,
      Nat.le_div_iff_mul_le (by decide)]
    exact le_trans (by decide) hfree

/-- The required objects and counters, and ordinary indices that leave room for one more object but
not for the terminator. -/
def gapPlan : List Plan :=
  requiredPlan ++
    (range 3).map (fun i => Plan.define (0x01000200 + UInt32.ofNat i) 0 MAX_NV_INDEX_SIZE) ++
    [Plan.define 0x01000300 0 1000, Plan.define 0x01000301 0 1021]

/-- An object is advertised that cannot be added. -/
theorem advertised_refused : ∃ s, allocSystem.Reach s ∧ 1 ≤ (nvCapGetPersistentAvail s).1 ∧
    (nvTestSpace (OBJECT_SIZE + 4) false false s).1 = false := by
  obtain ⟨us, hrun, hcount, hfree, hfits⟩ : ∃ us, runPlans (fun _ _ => true) gapPlan [] = some us ∧
      us.countP Item.counter = MIN_COUNTER_INDICES ∧ freeBytes us = 2199 ∧
      itemsFit us (OBJECT_SIZE + 4) false false = false := by
    refine ⟨(runPlans (fun _ _ => true) gapPlan []).getD [], ?_, ?_, ?_, ?_⟩ <;> decide +kernel
  obtain ⟨s, ts, hreach, hinv, rfl⟩ := exists_of_plans hrun
  refine ⟨s, hreach.of_restrict, ?_, ?_⟩
  · rw [nvCapGetPersistentAvail_rep hinv.rep, freeBytes_items, hfree, (nums_items ts).2, hcount]
    decide
  · rw [nvTestSpace_rep hinv.rep, decide_eq_false_iff_not, nvFits_items, hfits]
    exact Bool.false_ne_true

end RfTpm
