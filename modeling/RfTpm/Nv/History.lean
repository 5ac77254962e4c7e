import RfTpm.Nv.Alloc

/-!
# Histories by size

To exhibit a history it is enough to follow sizes and handles. `Item` is what a slot
contributes to the space checks, `Plan.apply` makes a call on a list of items, and
`Plan.sound` turns it into a step of the system. A history whose steps have to meet a condition
passes a `guard` on the lists of items.
-/

namespace RfTpm

open TpmaNv Runs List

variable {s : Nv} {ts pre post : List Slot} {t : Slot} {maxCount : UInt64}
  {publicArea : TpmsNvPublic} {authValue : Tpm2b} {handle : TpmHandle}

/-! ## Runs -/

/-- The system of definitions, additions and deletions: every call but a flush. -/
def entitySystem : System Nv AllocStep :=
  allocSystem.restrict fun _ step => ∀ hierarchy, step.op ≠ .flushHierarchy hierarchy

lemma entity_inv (h : entitySystem.Reach s) :
    ∃ ts, AllocInv s ts ∧ s.inFailureMode = false := by
  refine h.invariant (I := fun s => ∃ ts, AllocInv s ts ∧ s.inFailureMode = false) ?_ ?_
  · rintro _ ⟨s₀, hf, rfl⟩
    obtain ⟨hrep, hmax, hfail⟩ := nvManufacture_rep s₀
    exact ⟨[], ⟨by rwa [hmax], by simp⟩, hfail.trans hf⟩
  · rintro s step ⟨ts, hinv, hf⟩ ⟨hok, hnoflush⟩
    obtain ⟨ts', -, hinv', hfail⟩ := alloc_step hinv step hok
    exact ⟨ts', hinv', (hfail hnoflush).trans hf⟩

/-! ## Items -/

/-- What the space checks see of a slot. -/
structure Item where
  handle : TpmHandle
  size : ℕ
  object : Bool
  counter : Bool
  ram : ℕ
  deriving DecidableEq

/-- The item of a slot. -/
def Slot.item (t : Slot) : Item where
  handle := t.handle
  size := t.entry.entrySize
  object := t.entry.isPersistent
  counter := t.entry.isCounter
  ram := (t.live.map RamEntry.entrySize).getD 0

/-- The free bytes of the dynamic area. -/
def freeBytes (us : List Item) : ℕ :=
  NV_MEMORY_SIZE - (NV_USER_DYNAMIC + (us.map Item.size).sum)

/-- `reservedBytes` of a list of items. -/
def itemsReserved (us : List Item) (isIndex isCounter : Bool) : ℕ :=
  4 + NV_LIST_TERMINATOR_SIZE +
    (if isIndex then (MIN_EVICT_OBJECTS - us.countP Item.object) * NV_EVICT_OBJECT_SIZE else 0) +
    (if isIndex && isCounter then 0
      else (MIN_COUNTER_INDICES - us.countP Item.counter) * NV_INDEX_COUNTER_SIZE)

/-- `NvTestSpace()` on a list of items. -/
def itemsFit (us : List Item) (size : ℕ) (isIndex isCounter : Bool) : Bool :=
  itemsReserved us isIndex isCounter < freeBytes us &&
    size + itemsReserved us isIndex isCounter ≤ freeBytes us

lemma nvSize_items (ts : List Slot) :
    nvSize (entries ts) = ((ts.map Slot.item).map Item.size).sum := by
  induction ts with
  | nil => rfl
  | cons t ts ih => simp [ih, Slot.item]

lemma ramSize_items (ts : List Slot) :
    ramSize (liveRam ts) = ((ts.map Slot.item).map Item.ram).sum := by
  induction ts with
  | nil => rfl
  | cons t ts ih => cases t <;> simp [ih, Slot.item]

lemma nums_items (ts : List Slot) :
    persistentNum (entries ts) = (ts.map Slot.item).countP Item.object ∧
      counterNum (entries ts) = (ts.map Slot.item).countP Item.counter := by
  simp only [persistentNum, counterNum, entries, countP_map]
  exact ⟨rfl, rfl⟩

lemma handles_items (ts : List Slot) : slotHandles ts = (ts.map Slot.item).map Item.handle := by
  simp [slotHandles, Slot.item]

lemma freeBytes_items (ts : List Slot) :
    NV_MEMORY_SIZE - listEnd (entries ts) = freeBytes (ts.map Slot.item) := by
  rw [listEnd, nvSize_items, freeBytes]

lemma nvFits_items (ts : List Slot) (size : ℕ) (isIndex isCounter : Bool) :
    NvFits ts size isIndex isCounter ↔
      itemsFit (ts.map Slot.item) size isIndex isCounter = true := by
  have hreserved : reservedBytes (entries ts) isIndex isCounter =
      itemsReserved (ts.map Slot.item) isIndex isCounter := by
    rw [reservedBytes, itemsReserved, (nums_items ts).1, (nums_items ts).2]
  rw [NvFits, hreserved, freeBytes_items, itemsFit, Bool.and_eq_true, decide_eq_true_eq,
    decide_eq_true_eq]

/-- A call, with everything but sizes and handles left blank. -/
inductive Plan where
  | define (handle : TpmHandle) (attributes : TpmaNv) (dataSize : ℕ)
  | evict (handle : TpmHandle)
  | delete (handle : TpmHandle)

/-- A `TPM2B` of size zero. -/
def Tpm2b.blank : Tpm2b := ⟨0, replicate 64 0, length_replicate⟩

/-- An `OBJECT` of zeros. -/
def Object.blank : Object :=
  ⟨0, replicate 2100 0, 0, replicate 76 0, length_replicate, length_replicate⟩

/-- A public area with the given handle, attributes and size. -/
def blankPublic (handle : TpmHandle) (attributes : TpmaNv) (dataSize : ℕ) : TpmsNvPublic :=
  ⟨handle, 0, attributes, Tpm2b.blank, UInt16.ofNat dataSize⟩

/-- The call a plan stands for. -/
def Plan.op : Plan → AllocOp
  | define handle attributes dataSize =>
    .defineIndex (blankPublic handle attributes dataSize) Tpm2b.blank
  | evict handle => .addEvictObject handle Object.blank
  | delete handle => .deleteIndex handle

/-- The item of a new index. -/
def indexItem (publicArea : TpmsNvPublic) : Item where
  handle := publicArea.nvIndex
  size := 4 + defineEntrySize publicArea
  object := false
  counter := handleGetType publicArea.nvIndex == TPM_HT_NV_INDEX &&
    isNvCounterIndex publicArea.attributes
  ram := if publicArea.attributes.isSet ORDERLY then
    NV_RAM_HEADER_SIZE + publicArea.dataSize.toNat else 0

/-- The checks of a definition, on a list of items. -/
def canDefine (us : List Item) (publicArea : TpmsNvPublic) : Bool :=
  !(us.map Item.handle).contains publicArea.nvIndex && isIndexHandle publicArea.nvIndex &&
    publicArea.dataSize.toNat ≤ MAX_NV_INDEX_SIZE &&
    (!isNvCounterIndex publicArea.attributes || publicArea.dataSize.toNat == 8) &&
    !publicArea.attributes.isSet WRITTEN &&
    itemsFit us (defineEntrySize publicArea) true (isNvCounterIndex publicArea.attributes) &&
    (!publicArea.attributes.isSet ORDERLY ||
      (us.map Item.ram).sum + NV_RAM_HEADER_SIZE + publicArea.dataSize.toNat ≤ RAM_INDEX_SPACE)

/-- A call on a list of items; `none` if it is not made or not successful. -/
def Plan.apply (us : List Item) : Plan → Option (List Item)
  | define handle attributes dataSize =>
    if canDefine us (blankPublic handle attributes dataSize) then
      some (us ++ [indexItem (blankPublic handle attributes dataSize)])
    else none
  | evict handle =>
    if !(us.map Item.handle).contains handle && handleGetType handle == TPM_HT_PERSISTENT &&
        itemsFit us (OBJECT_SIZE + 4) false false then
      some (us ++ [⟨handle, NV_EVICT_OBJECT_SIZE, true, false, 0⟩])
    else none
  | delete handle =>
    if (us.map Item.handle).contains handle && isIndexHandle handle then
      some (us.filter fun u => u.handle != handle)
    else none

lemma IsDefined.item (ht : IsDefined publicArea authValue t)
    (hmax : publicArea.dataSize.toNat ≤ MAX_NV_INDEX_SIZE) : t.item = indexItem publicArea := by
  have hsize := defineEntrySize_eq authValue hmax
  cases t with
  | evict e => exact ht.elim
  | plain p =>
    have hinfo : p.info = ⟨publicArea, authValue⟩ := ht
    have ho : publicArea.attributes.isSet ORDERLY = false := by
      have hno := p.not_orderly
      rwa [hinfo] at hno
    simp [Slot.item, indexItem, Slot.handle, NvEntry.handle, NvEntry.entrySize_index, hinfo,
      NvEntry.isPersistent, NvEntry.isCounter, hsize, ho, NvIndex.handle, NvIndex.attributes,
      Nat.add_assoc]
  | orderly o =>
    obtain ⟨hinfo, hlive, -⟩ := ht
    have ho : publicArea.attributes.isSet ORDERLY = true := by
      have hyes := o.orderly
      rwa [hinfo] at hyes
    simp [Slot.item, indexItem, Slot.handle, NvEntry.handle, NvEntry.entrySize_index, hinfo,
      NvEntry.isPersistent, NvEntry.isCounter, hsize, ho, NvIndex.handle, NvIndex.attributes,
      Nat.add_assoc, hlive, RamEntry.ofPublic, RamEntry.entrySize]

/-- The state that a history by sizes stands for, in which every step meets a condition. -/
def Holds (cond : Nv → AllocStep → Prop) (s : Nv) (us : List Item) : Prop :=
  (entitySystem.restrict cond).Reach s ∧ ∃ ts, AllocInv s ts ∧ ts.map Slot.item = us

variable {us' : List Item} {cond : Nv → AllocStep → Prop}

lemma Holds.step {p : Plan} (hreach : (entitySystem.restrict cond).Reach s)
    (hinv : AllocInv s ts) (hok : p.op.CallerOk s) (hcond : cond s ⟨TPM_RC_SUCCESS, p.op⟩)
    (hexec : ((⟨TPM_RC_SUCCESS, p.op⟩ : AllocStep).exec s).1 = TPM_RC_SUCCESS)
    (hus : ∀ ts', TableStep p.op TPM_RC_SUCCESS ts ts' → ts'.map Slot.item = us') :
    ∃ s', Holds cond s' us' := by
  obtain ⟨ts', hstep, hinv', -⟩ := alloc_step hinv ⟨TPM_RC_SUCCESS, p.op⟩ hok
  rw [hexec] at hstep
  have hnoflush : ∀ hierarchy, p.op ≠ .flushHierarchy hierarchy := by
    intro hierarchy
    cases p <;> simp [Plan.op]
  have hnext := @System.Reach.step _ _ (entitySystem.restrict cond) s ⟨TPM_RC_SUCCESS, p.op⟩
    hreach ⟨⟨hok, hnoflush⟩, hcond⟩
  exact ⟨_, hnext, ts', hinv', hus ts' hstep⟩

variable {us : List Item}

lemma Plan.sound_define {attributes : TpmaNv} {dataSize : ℕ}
    (hreach : (entitySystem.restrict cond).Reach s) (hinv : AllocInv s ts)
    (hcond : cond s ⟨TPM_RC_SUCCESS, (Plan.define handle attributes dataSize).op⟩)
    (hcan : canDefine (ts.map Slot.item) (blankPublic handle attributes dataSize) = true) :
    ∃ s', Holds cond s'
      (ts.map Slot.item ++ [indexItem (blankPublic handle attributes dataSize)]) := by
  set publicArea := blankPublic handle attributes dataSize with hpa
  simp only [canDefine, Bool.and_eq_true, Bool.not_eq_true', Bool.or_eq_true, decide_eq_true_eq,
    beq_iff_eq, contains_eq_mem, decide_eq_false_iff_not, ← handles_items,
    ← ramSize_items, ← nvFits_items] at hcan
  obtain ⟨⟨⟨⟨⟨⟨hfresh, hindex⟩, hmax⟩, hcounter⟩, hwritten⟩, hfits⟩, hram⟩ := hcan
  have hcounter' : isNvCounterIndex publicArea.attributes = true → publicArea.dataSize.toNat = 8 :=
    fun hc => hcounter.resolve_left (by simp [hc])
  have hram' : RamFits ts publicArea := fun ho => hram.resolve_left (by simp [ho])
  have hok : (Plan.define handle attributes dataSize).op.CallerOk s :=
    ⟨by rw [hinv.rep.find_none hfresh], hindex, hmax, hcounter', hwritten⟩
  obtain ⟨s', -, hrun, -, -⟩ := nvDefineIndex_success (hinv.rep.beginCommand TPM_RC_SUCCESS)
    Tpm2b.blank hindex hmax hcounter' hfresh rfl hfits hram'
  refine Holds.step hreach hinv hok hcond (congrArg Prod.fst hrun) fun ts' hstep => ?_
  cases hstep with
  | refused hrc => exact absurd rfl hrc
  | defined ht _ _ => simp [ht.item hmax, hpa]

lemma Plan.sound_evict (hreach : (entitySystem.restrict cond).Reach s) (hinv : AllocInv s ts)
    (hcond : cond s ⟨TPM_RC_SUCCESS, (Plan.evict handle).op⟩)
    (hfresh : handle ∉ (ts.map Slot.item).map Item.handle)
    (htype : handleGetType handle = TPM_HT_PERSISTENT)
    (hfits : itemsFit (ts.map Slot.item) (OBJECT_SIZE + 4) false false = true) :
    ∃ s', Holds cond s'
      (ts.map Slot.item ++ [⟨handle, NV_EVICT_OBJECT_SIZE, true, false, 0⟩]) := by
  rw [← handles_items] at hfresh
  rw [← nvFits_items] at hfits
  have hok : (Plan.evict handle).op.CallerOk s := ⟨by rw [hinv.rep.find_none hfresh], htype⟩
  obtain ⟨s', hrun, -⟩ := nvAddEvictObject_success (hinv.rep.beginCommand TPM_RC_SUCCESS)
    Object.blank htype hfresh rfl hfits
  refine Holds.step hreach hinv hok hcond (congrArg Prod.fst hrun) fun ts' hstep => ?_
  cases hstep with
  | refused hrc => exact absurd rfl hrc
  | added _ _ => simp [Slot.item, evictSlot, Slot.handle, NvEntry.handle, NvEntry.entrySize_evict,
      NvEntry.isPersistent, NvEntry.isCounter]

lemma items_remove (h : (slotHandles (pre ++ t :: post)).Nodup) :
    ((pre ++ t :: post).map Slot.item).filter (fun u => u.handle != t.handle) =
      (pre ++ post).map Slot.item := by
  rw [slotHandles_append, slotHandles_cons, nodup_middle, nodup_cons,
    ← slotHandles_append] at h
  have hkeep : ∀ u ∈ (pre ++ post).map Slot.item, (u.handle != t.handle) = true := by
    intro u hu
    obtain ⟨v, hv, rfl⟩ := mem_map.1 hu
    rw [bne_iff_ne]
    intro heq
    exact h.1 (heq ▸ mem_map_of_mem hv)
  have hdrop : (t.item.handle != t.handle) = false := by simp [Slot.item]
  rw [map_append, map_cons, filter_append, filter_cons, hdrop,
    if_neg Bool.false_ne_true, ← filter_append, ← map_append,
    filter_eq_self.2 hkeep]

lemma exec_delete (h : Rep s ts maxCount) (hmem : handle ∈ slotHandles ts)
    (hindex : isIndexHandle handle = true) :
    ((⟨TPM_RC_SUCCESS, .deleteIndex handle⟩ : AllocStep).exec s).1 = TPM_RC_SUCCESS := by
  obtain ⟨pre, t, post, rfl, rfl⟩ := exists_split_of_mem hmem
  obtain ⟨x, hx⟩ := t.exists_info hindex
  have hne : (beginCommand TPM_RC_SUCCESS s).cachedNvIndex.handle ≠ x.handle := by
    rw [beginCommand_cached, ← t.handle_of_info hx]
    intro heq
    rw [← heq] at hindex
    cases hindex
  obtain ⟨s', hrun, -⟩ := nvLookupAndDelete_success (h.beginCommand TPM_RC_SUCCESS) hx hne rfl
  rw [t.handle_of_info hx]
  exact congrArg Prod.fst hrun

lemma Plan.sound_delete (hreach : (entitySystem.restrict cond).Reach s) (hinv : AllocInv s ts)
    (hcond : cond s ⟨TPM_RC_SUCCESS, (Plan.delete handle).op⟩)
    (hmem : handle ∈ (ts.map Slot.item).map Item.handle) (hindex : isIndexHandle handle = true) :
    ∃ s', Holds cond s' ((ts.map Slot.item).filter fun u => u.handle != handle) := by
  rw [← handles_items] at hmem
  have hok : (Plan.delete handle).op.CallerOk s := hindex
  refine Holds.step hreach hinv hok hcond (exec_delete hinv.rep hmem hindex) fun ts' hstep => ?_
  have hnodup := hinv.rep.nodup
  cases hstep with
  | refused hrc => exact absurd rfl hrc
  | absentIndex habsent => exact absurd hmem habsent
  | @deletedIndex pre post t x hx =>
    rw [← t.handle_of_info hx, items_remove hnodup]

lemma Plan.sound (p : Plan) (hreach : (entitySystem.restrict cond).Reach s) (hinv : AllocInv s ts)
    (hcond : cond s ⟨TPM_RC_SUCCESS, p.op⟩) (hp : p.apply (ts.map Slot.item) = some us') :
    ∃ s', Holds cond s' us' := by
  cases p
  all_goals
    obtain ⟨hcan, hus⟩ := Option.ite_none_right_eq_some.1 hp
    obtain rfl := Option.some.inj hus
  case define => exact sound_define hreach hinv hcond hcan
  case evict =>
    simp only [Bool.and_eq_true, Bool.not_eq_true', contains_eq_mem,
      decide_eq_false_iff_not, beq_iff_eq] at hcan
    exact sound_evict hreach hinv hcond hcan.1.1 hcan.1.2 hcan.2
  case delete =>
    simp only [Bool.and_eq_true, contains_eq_mem, decide_eq_true_eq] at hcan
    exact sound_delete hreach hinv hcond hcan.1 hcan.2

/-- A history of calls that pass a guard. -/
def runPlans (guard : List Item → Plan → Bool) (plans : List Plan) (us : List Item) :
    Option (List Item) :=
  plans.foldlM (fun us p => if guard us p then p.apply us else none) us

lemma runPlans_sound {guard : List Item → Plan → Bool} {plans : List Plan} {us : List Item}
    (hguard : ∀ s ts p, AllocInv s ts → guard (ts.map Slot.item) p = true →
      cond s ⟨TPM_RC_SUCCESS, p.op⟩)
    (h : Holds cond s us) (hp : runPlans guard plans us = some us') : ∃ s', Holds cond s' us' := by
  induction plans generalizing s us with
  | nil =>
    obtain rfl : us = us' := by simpa [runPlans] using hp
    exact ⟨s, h⟩
  | cons p plans ih =>
    rw [runPlans, foldlM_cons] at hp
    obtain ⟨us₁, hfirst, hrest⟩ := Option.bind_eq_some_iff.1 hp
    obtain ⟨hpass, happly⟩ := Option.ite_none_right_eq_some.1 hfirst
    obtain ⟨hreach, ts, hinv, rfl⟩ := h
    obtain ⟨s₁, h₁⟩ := p.sound hreach hinv (hguard s ts p hinv hpass) happly
    exact ih h₁ hrest

lemma holds_manufactured : Holds cond (nvManufacture Nv.erased).2 [] := by
  obtain ⟨hrep, hmax, -⟩ := nvManufacture_rep Nv.erased
  exact ⟨.start ⟨Nv.erased, rfl, rfl⟩, [], ⟨by rwa [hmax], by simp⟩, rfl⟩

lemma exists_of_plans {plans : List Plan} {us : List Item}
    (hp : runPlans (fun _ _ => true) plans [] = some us) :
    ∃ s ts, entitySystem.Reach s ∧ AllocInv s ts ∧ ts.map Slot.item = us := by
  obtain ⟨s, hreach, ts, hinv, hus⟩ : ∃ s, Holds (fun _ _ => True) s us :=
    runPlans_sound (fun _ _ _ _ _ => trivial) holds_manufactured hp
  exact ⟨s, ts, hreach.of_restrict, hinv, hus⟩

/-- Attributes of a counter. -/
def COUNTER_ATTRIBUTES : TpmaNv := 0x10

/-- A history with objects and indices in no order of their handles, in which an orderly counter
is deleted. -/
def samplePlan : List Plan :=
  [.evict 0x81000002, .define 0x01000005 0 16,
    .define 0x01000001 (COUNTER_ATTRIBUTES.set ORDERLY) 8, .define 0x01000003 COUNTER_ATTRIBUTES 8,
    .evict 0x81000001, .define 0x01000004 0 32, .delete 0x01000001]

/-- The handles after it. -/
def sampleHandles : List TpmHandle := [0x81000002, 0x01000005, 0x01000003, 0x81000001, 0x01000004]

lemma exists_sample : ∃ s ts, entitySystem.Reach s ∧ AllocInv s ts ∧
    slotHandles ts = sampleHandles := by
  obtain ⟨us, hrun, hhandles⟩ : ∃ us, runPlans (fun _ _ => true) samplePlan [] = some us ∧
      us.map Item.handle = sampleHandles := by
    refine ⟨(runPlans (fun _ _ => true) samplePlan []).getD [], ?_, ?_⟩ <;> decide +kernel
  obtain ⟨s, ts, hreach, hinv, rfl⟩ := exists_of_plans hrun
  exact ⟨s, ts, hreach, hinv, (handles_items ts).trans hhandles⟩

end RfTpm
