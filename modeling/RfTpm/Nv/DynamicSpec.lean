import RfTpm.Nv.Image

/-!
# The list functions on represented states

For a state whose dynamic area represents a list of entries, each function of the NV list is given
by one equation: the scanning functions return a function of the list and leave the state alone, and
adding or deleting an entry gives a state whose area represents the longer or shorter list.
-/

namespace RfTpm

open Bytes Packed List

/-! ## NV memory -/

@[simp]
lemma UpdateType.lor_lor_self (u v : UpdateType) : (u.lor v).lor v = u.lor v := by
  cases u <;> cases v <;> rfl

/-- The state after writes that turned the image into `nv`. -/
def Nv.withNv (s : Nv) (nv : Mem) : Nv := { s with nv, updateNv := s.updateNv.lor .nv }

@[simp]
lemma Nv.withNv_nv (s : Nv) (nv : Mem) : (s.withNv nv).nv = nv := rfl

@[simp]
lemma Nv.withNv_withNv (s : Nv) (nv nv' : Mem) : (s.withNv nv).withNv nv' = s.withNv nv' := by
  simp [Nv.withNv]

@[simp]
lemma Nv.setNv_withNv (s : Nv) (nv nv' : Mem) : (s.withNv nv).setNv nv' = s.withNv nv' := rfl

variable {off n a : ℕ} {handle : TpmHandle}

lemma nvRead_eq {s : Nv} (h : off + n < NV_MEMORY_SIZE) :
    nvRead off n s = (s.nv.read off n, s) := by
  simp [nvRead, platNvMemoryRead, h, h.le]

lemma nvRead_of_hasAt {s : Nv} {bs : Bytes} (h : s.nv.HasAt off bs) (hn : n = bs.length)
    (hlt : off + n < NV_MEMORY_SIZE) : nvRead off n s = (bs, s) := by
  rw [nvRead_eq hlt, h.read' hn]

lemma nvWrite_eq {s : Nv} (bs : Bytes) (h : off + bs.length ≤ NV_MEMORY_SIZE) :
    nvWrite off bs s = (true, s.withNv (s.nv.write off bs)) := by
  simp [nvWrite, platNvMemoryWrite, setNvUpdate, Nv.withNv, Nv.setNv, Nv.requestUpdate, h]

/-! ## Walking the dynamic area -/

variable {s : Nv} {es pre post : List NvEntry} {e : NvEntry} {maxCount : UInt64}

/-- What `NvNext()` returns for each entry of a list that starts at an address. -/
def nvNodes (a : ℕ) (es : List NvEntry) : List (NvNode × ℕ) :=
  (nodes NvEntry.bytes a es).map fun n => (⟨n.1 + 4, n.2.handle⟩, n.1 + n.2.entrySize)

@[simp]
lemma length_nvNodes (a : ℕ) (es : List NvEntry) : (nvNodes a es).length = es.length := by
  simp [nvNodes]

lemma nvNodes_split (pre post : List NvEntry) (e : NvEntry) :
    nvNodes NV_USER_DYNAMIC (pre ++ e :: post) =
      nvNodes NV_USER_DYNAMIC pre ++
        (⟨listEnd pre + 4, e.handle⟩, listEnd pre + e.entrySize) ::
          nvNodes (listEnd pre + e.entrySize) post := by
  simp [nvNodes, nodes_append, nodes, listEnd, nvSize]

lemma map_handle_nvNodes (a : ℕ) (es : List NvEntry) :
    (nvNodes a es).map (fun n => n.1.handle) = handles es := by
  rw [nvNodes, map_map, handles]
  conv_rhs => rw [← map_snd_nodes NvEntry.bytes a es, map_map]
  rfl

lemma handle_mem_of_mem_nvNodes {n : NvNode × ℕ} (h : n ∈ nvNodes a es) :
    n.1.handle ∈ handles es := by
  rw [← map_handle_nvNodes a es]
  exact mem_map_of_mem h

lemma nvNext_entry (h : s.nv.HasAt a e.bytes) (ha : a + 8 < NV_MEMORY_SIZE) :
    nvNext a s = (some (⟨a + 4, e.handle⟩, a + e.entrySize), s) := by
  obtain ⟨rest, hrest⟩ := e.bytes_eq_header
  rw [hrest, Mem.hasAt_append] at h
  have hread : nvRead a 8 s = (e.header, s) :=
    nvRead_of_hasAt h.1 (by simp [NvEntry.header]) ha
  have hsize : leVal (e.header.take 4) = e.entrySize := by
    rw [NvEntry.header, take_left' (by simp), leVal_leBytes e.entrySize_lt]
  have hhandle : leVal (e.header.drop 4) = e.handle.toNat := by
    rw [NvEntry.header, drop_left' (by simp), leVal_leBytes e.handle.toNat_lt]
  have hne : e.entrySize ≠ 0 := by
    have := e.le_entrySize
    omega
  simp [nvNext, hread, hsize, hhandle, hne]

lemma nvNext_end (h : s.nv.HasAt a (leBytes 4 0)) (ha : a + 8 < NV_MEMORY_SIZE) :
    nvNext a s = (none, s) := by
  have hzero : leVal ((s.nv.read a 8).take 4) = 0 := by
    rw [Mem.take_read _ _ _ _ (by omega)]
    exact h.le (by simp)
  simp [nvNext, nvRead_eq ha, hzero]

lemma nvNext_chain (h : s.nv.HasAt a (flat NvEntry.bytes es ++ terminator maxCount))
    (hfits : a + nvSize es + NV_LIST_TERMINATOR_SIZE ≤ NV_MEMORY_SIZE) :
    Chain nvNext s a (nvNodes a es) (a + nvSize es) := by
  induction es generalizing a with
  | nil =>
    rw [flat_nil, nil_append, terminator, Mem.hasAt_append] at h
    rw [NV_LIST_TERMINATOR_SIZE] at hfits
    exact Chain.nil (nvNext_end h.1 (by simp at hfits; omega))
  | cons e es ih =>
    rw [flat_cons, append_assoc, Mem.hasAt_append, NvEntry.length_bytes] at h
    rw [nvSize_cons, ← Nat.add_assoc] at hfits
    have hlt : a + 8 < NV_MEMORY_SIZE := by
      have := e.le_entrySize
      omega
    have htail := ih h.2 hfits
    rw [nvSize_cons, ← Nat.add_assoc]
    rw [← NvEntry.length_bytes] at htail ⊢
    have hhead := nvNext_entry h.1 hlt
    rw [← NvEntry.length_bytes] at hhead
    simpa [nvNodes, nodes] using Chain.cons hhead htail

lemma DynRep.chain (h : DynRep s.nv es maxCount) :
    Chain nvNext s NV_USER_DYNAMIC (nvNodes NV_USER_DYNAMIC es) (listEnd es) :=
  nvNext_chain h.hasAt h.fits

lemma DynRep.fuel (h : DynRep s.nv es maxCount) (a : ℕ) :
    (nvNodes a es).length < NV_MEMORY_SIZE := by
  have := h.length_lt
  rw [length_nvNodes]
  omega

lemma nvSearch_end (h : DynRep s.nv es maxCount) :
    nvSearch (fun _ => false) s = ((none, listEnd es), s) :=
  walk_chain_none h.chain (h.fuel _) (by simp)

lemma nvGetEnd_eq (h : DynRep s.nv es maxCount) : nvGetEnd s = (listEnd es, s) := by
  simp [nvGetEnd, nvSearch_end h]

lemma nvGetFreeBytes_eq (h : DynRep s.nv es maxCount) :
    nvGetFreeBytes s = (s.evictNvEnd - listEnd es, s) := by
  simp [nvGetFreeBytes, nvGetEnd_eq h]

lemma nvFindHandle_of_not_mem (h : DynRep s.nv es maxCount) (hh : handle ∉ handles es) :
    nvFindHandle handle s = (0, s) := by
  have hw : nvSearch (fun node => node.handle == handle) s = ((none, listEnd es), s) := by
    refine walk_chain_none h.chain (h.fuel _) fun n hn => ?_
    have hmem := handle_mem_of_mem_nvNodes hn
    simp only [beq_eq_false_iff_ne, ne_eq]
    rintro rfl
    exact hh hmem
  simp [nvFindHandle, hw]

lemma nvFindHandle_of_split (h : DynRep s.nv (pre ++ e :: post) maxCount)
    (hpre : e.handle ∉ handles pre) : nvFindHandle e.handle s = (listEnd pre + 4, s) := by
  have hchain := h.chain
  have hfuel := h.fuel NV_USER_DYNAMIC
  rw [nvNodes_split] at hchain hfuel
  have hw : nvSearch (fun node => node.handle == e.handle) s =
      ((some ⟨listEnd pre + 4, e.handle⟩, listEnd pre + e.entrySize), s) := by
    refine walk_chain_some _ hchain hfuel (fun n hn => ?_) (by simp)
    have hmem := handle_mem_of_mem_nvNodes hn
    simp only [beq_eq_false_iff_ne, ne_eq]
    intro heq
    exact hpre (heq ▸ hmem)
  simp [nvFindHandle, hw]

/-! ## Counting and testing for space -/

/-- The entry is a persistent object. -/
def NvEntry.isPersistent : NvEntry → Bool
  | .evict _ => true
  | .index _ => false

/-- The entry is a counter that `NvCapGetCounterNumber()` counts: an index of the
ordinary handle type with the counter type in its stored attributes. -/
def NvEntry.isCounter : NvEntry → Bool
  | .index e => handleGetType e.info.handle == TPM_HT_NV_INDEX &&
      isNvCounterIndex e.info.attributes
  | .evict _ => false

/-- The number of persistent objects. -/
def persistentNum (es : List NvEntry) : ℕ := es.countP NvEntry.isPersistent

/-- The number of counted counters. -/
def counterNum (es : List NvEntry) : ℕ := es.countP NvEntry.isCounter

lemma handleGetType_ne_persistent (h : isIndexHandle handle = true) :
    handleGetType handle ≠ TPM_HT_PERSISTENT := by
  intro heq
  simp [isIndexHandle, heq, TPM_HT_PERSISTENT, TPM_HT_NV_INDEX, TPM_HT_EXTERNAL_NV,
    TPM_HT_PERMANENT_NV] at h

lemma NvEntry.isPersistent_eq (e : NvEntry) :
    e.isPersistent = (handleGetType e.handle == TPM_HT_PERSISTENT) := by
  cases e with
  | index e =>
    have hne := handleGetType_ne_persistent e.isIndex
    simp [isPersistent, handle, hne]
  | evict e => simp [isPersistent, handle, e.isPersistent]

/-- The nodes of the entries with a given handle type. -/
def typedNodes (type : ℕ) (es : List NvEntry) : List (ℕ × NvEntry) :=
  (nodes NvEntry.bytes NV_USER_DYNAMIC es).filter fun n => handleGetType n.2.handle == type

lemma DynRep.typedChain (h : DynRep s.nv es maxCount) (type : ℕ) :
    ∃ e', Chain (nvNextByType type) s NV_USER_DYNAMIC
      ((typedNodes type es).map fun n => (⟨n.1 + 4, n.2.handle⟩, n.1 + n.2.entrySize)) e' := by
  obtain ⟨e', hchain⟩ := h.chain.filter (fun n => handleGetType n.handle == type) (h.fuel _)
  refine ⟨e', ?_⟩
  rw [nvNodes, filter_map] at hchain
  exact hchain

lemma typedNodes_fuel (h : DynRep s.nv es maxCount) (type : ℕ) :
    (typedNodes type es).length < NV_MEMORY_SIZE := by
  refine lt_of_le_of_lt (length_filter_le ..) ?_
  have hlen := h.length_lt
  rw [length_nodes]
  omega

lemma countP_typedNodes (type : ℕ) (es : List NvEntry) (p : NvEntry → Bool) :
    (typedNodes type es).countP (fun n => p n.2) =
      es.countP fun e => p e && handleGetType e.handle == type := by
  rw [typedNodes, countP_filter]
  conv_rhs => rw [← map_snd_nodes NvEntry.bytes NV_USER_DYNAMIC es, countP_map]
  rfl

lemma nvCapGetPersistentNumber_eq (h : DynRep s.nv es maxCount) :
    nvCapGetPersistentNumber s = (persistentNum es, s) := by
  obtain ⟨e', hchain⟩ := h.typedChain TPM_HT_PERSISTENT
  have hloop := loop_chain hchain (fun _ num => (pure (num + 1, true) : NvM _))
    (fun num _ => if true then num + 1 else num) (fun _ _ _ => rfl) (typedNodes_fuel h _) 0
  rw [foldl_count (fun _ => true), Nat.zero_add,
    countP_typedNodes TPM_HT_PERSISTENT es fun _ => true] at hloop
  rw [persistentNum, show NvEntry.isPersistent = _ from funext NvEntry.isPersistent_eq]
  simp only [Bool.true_and] at hloop
  exact hloop

lemma nvReadNvIndexAttributes_eq {x : IndexEntry}
    (h : DynRep s.nv (pre ++ .index x :: post) maxCount) :
    nvReadNvIndexAttributes (listEnd pre + 4) s = (x.info.attributes, s) := by
  have hbytes := h.entry
  have hle := h.entry_end_le
  have hsize := (NvEntry.index x).le_entrySize
  rw [NvEntry.bytes, NvEntry.body, NvIndex.toBytes] at hbytes
  simp only [Mem.hasAt_append, length_leBytes, NvIndex.length_headBytes, Nat.add_assoc,
    Nat.reduceAdd] at hbytes
  have hread : nvRead (listEnd pre + 4 + 8) 4 s = (leBytes 4 x.info.attributes.toNat, s) :=
    nvRead_of_hasAt hbytes.2.1.1.1.1.2 (by simp) (by omega)
  have hval : BitVec.ofNat 32 (leVal (leBytes 4 x.info.attributes.toNat)) =
      x.info.attributes := by
    rw [leVal_leBytes x.info.attributes.isLt, BitVec.ofNat_toNat, BitVec.setWidth_eq]
  simp [nvReadNvIndexAttributes, hread, hval]

lemma nvCapGetCounterNumber_eq (h : DynRep s.nv es maxCount) :
    nvCapGetCounterNumber s = (counterNum es, s) := by
  obtain ⟨e', hchain⟩ := h.typedChain TPM_HT_NV_INDEX
  have hbody : ∀ n ∈ typedNodes TPM_HT_NV_INDEX es, ∀ num,
      countCounter ⟨n.1 + 4, n.2.handle⟩ num s =
        ((if n.2.isCounter then num + 1 else num, true), s) := by
    rintro ⟨a, e⟩ hn num
    rw [typedNodes, mem_filter, mem_nodes] at hn
    obtain ⟨⟨pre, post, rfl, rfl⟩, htype⟩ := hn
    cases e with
    | evict e =>
      have := e.isPersistent
      simp [NvEntry.handle, this, TPM_HT_PERSISTENT, TPM_HT_NV_INDEX] at htype
    | index e =>
      have hattr := nvReadNvIndexAttributes_eq h
      simp only [NvEntry.handle] at htype
      simp only [listEnd, nvSize] at hattr
      simp [countCounter, hattr, NvEntry.isCounter, htype]
  have hloop := loop_chain hchain _ _ hbody (typedNodes_fuel h _) 0
  rw [foldl_count (fun n : ℕ × NvEntry => n.2.isCounter), Nat.zero_add,
    countP_typedNodes TPM_HT_NV_INDEX es NvEntry.isCounter] at hloop
  have hcount : (fun e : NvEntry => e.isCounter && handleGetType e.handle == TPM_HT_NV_INDEX) =
      NvEntry.isCounter := by
    funext e
    cases e with
    | evict e => rfl
    | index e =>
      simp only [NvEntry.isCounter, NvEntry.handle]
      cases handleGetType e.info.handle == TPM_HT_NV_INDEX <;> simp
  rw [hcount] at hloop
  exact hloop

/-- The bytes `NvTestSpace()` sets aside: the terminator and a size word, the
missing persistent objects when adding an index, and the missing counters when
adding anything but a counter. -/
def reservedBytes (es : List NvEntry) (isIndex isCounter : Bool) : ℕ :=
  4 + NV_LIST_TERMINATOR_SIZE +
    (if isIndex then (MIN_EVICT_OBJECTS - persistentNum es) * NV_EVICT_OBJECT_SIZE else 0) +
    (if isIndex && isCounter then 0
      else (MIN_COUNTER_INDICES - counterNum es) * NV_INDEX_COUNTER_SIZE)

lemma reserveFor_eq {count : NvM ℕ} {num : ℕ} (hcount : count s = (num, s)) (needed : Bool)
    (required size reserved : ℕ) :
    reserveFor needed count required size reserved s =
      (reserved + if needed then (required - num) * size else 0, s) := by
  cases needed with
  | false => simp [reserveFor]
  | true =>
    simp only [reserveFor, if_true, NvM.bind_apply, NvM.pure_apply, hcount]
    split
    · rfl
    · rw [Nat.sub_eq_zero_of_le (by omega), Nat.zero_mul, Nat.add_zero]

lemma nvTestSpace_eq (h : DynRep s.nv es maxCount) (size : ℕ) (isIndex isCounter : Bool) :
    nvTestSpace size isIndex isCounter s =
      (decide (reservedBytes es isIndex isCounter < s.evictNvEnd - listEnd es ∧
        size + reservedBytes es isIndex isCounter ≤ s.evictNvEnd - listEnd es), s) := by
  have hreserve : (if (!isIndex || !isCounter) = true then
      (MIN_COUNTER_INDICES - counterNum es) * NV_INDEX_COUNTER_SIZE else 0) =
      if (isIndex && isCounter) = true then 0
      else (MIN_COUNTER_INDICES - counterNum es) * NV_INDEX_COUNTER_SIZE := by
    cases isIndex <;> cases isCounter <;> rfl
  simp only [nvTestSpace, NvM.bind_apply, NvM.pure_apply, nvGetFreeBytes_eq h,
    reserveFor_eq (nvCapGetPersistentNumber_eq h), reserveFor_eq (nvCapGetCounterNumber_eq h),
    hreserve]
  rw [← reservedBytes, Prod.mk.injEq, ← Bool.decide_and, ← Bool.decide_and]
  refine ⟨decide_eq_decide.2 ?_, rfl⟩
  constructor
  · rintro ⟨⟨h1, -⟩, h3⟩
    exact ⟨h1, h3⟩
  · rintro ⟨h1, h3⟩
    exact ⟨⟨h1, by omega⟩, h3⟩

/-! ## Adding and deleting an entry -/

lemma nvWriteNvListEnd_eq (hend : a + NV_LIST_TERMINATOR_SIZE ≤ s.evictNvEnd)
    (hmem : a + NV_LIST_TERMINATOR_SIZE ≤ NV_MEMORY_SIZE) :
    nvWriteNvListEnd a s =
      (a + NV_LIST_TERMINATOR_SIZE, s.withNv (s.nv.write a (terminator s.maxCounter))) := by
  have hwrite := nvWrite_eq (s := s) (terminator s.maxCounter) (by rwa [length_terminator])
  simp only [terminator] at hwrite
  simp [nvWriteNvListEnd, hend, hwrite, terminator]

/-- The bytes of the handle field `NvAdd()` writes for an entity with a handle. -/
def handleField (handle : TpmHandle) : Bytes :=
  if handle ≠ TPM_RH_UNASSIGNED then leBytes 4 handle.toNat else []

lemma nvAddHandle_eq (handle : TpmHandle) (ha : a + 4 ≤ NV_MEMORY_SIZE) :
    ∃ s₁, nvAddHandle a handle s = (a + (handleField handle).length, s₁) ∧
      s₁.nv = s.nv.write a (handleField handle) ∧ ∀ nv, s₁.withNv nv = s.withNv nv := by
  by_cases h : handle = TPM_RH_UNASSIGNED
  · refine ⟨s, ?_, ?_, fun _ => rfl⟩
    · simp [nvAddHandle, handleField, h]
    · simp [handleField, h, Mem.write_nil]
  · refine ⟨s.withNv (s.nv.write a (leBytes 4 handle.toNat)), ?_, ?_, fun _ => by simp⟩
    · have hwrite := nvWrite_eq (s := s) (leBytes 4 handle.toNat) (by simpa using ha)
      simp [nvAddHandle, handleField, h, hwrite]
    · simp [handleField, h]

/-- The image after the writes of `NvAdd()` at the end `a` of the list: handle field,
buffer, size word and terminator. -/
def addImage (nv : Mem) (a : ℕ) (field entity : Bytes) (size : ℕ) (maxCount : UInt64) : Mem :=
  (((nv.write (a + 4) field).write (a + 4 + field.length) entity).write a (leBytes 4 size)).write
    (a + size) (terminator maxCount)

lemma addImage_below {nv : Mem} {x size : ℕ} {field entity : Bytes} (h : x < a) :
    addImage nv a field entity size maxCount x = nv x := by
  rw [addImage, Mem.write_of_lt _ (by omega), Mem.write_of_lt _ h, Mem.write_of_lt _ (by omega),
    Mem.write_of_lt _ (by omega)]

/-- The added entry stands in the image: each of its parts survives the writes that
come after it. -/
lemma addImage_hasAt {nv : Mem} {field entity rest : Bytes}
    (hbody : e.body = field ++ entity ++ rest)
    (hrest : nv.HasAt (a + 4 + field.length + entity.length) rest) :
    (addImage nv a field entity e.entrySize maxCount).HasAt a e.bytes := by
  have hsize : e.entrySize = 4 + field.length + entity.length + rest.length := by
    simp only [NvEntry.entrySize, hbody, length_append]
    omega
  have hword : (leBytes 4 e.entrySize).length = 4 := length_leBytes ..
  rw [NvEntry.bytes, ← NvEntry.entrySize, hbody]
  simp only [Mem.hasAt_append, length_leBytes, length_append, ← Nat.add_assoc, addImage]
  refine ⟨?_, ⟨?_, ?_⟩, ?_⟩
  · exact (Mem.hasAt_write ..).write (Or.inl (by omega))
  · exact (((Mem.hasAt_write ..).write (Or.inl (by omega))).write (Or.inr (by omega))).write
      (Or.inl (by omega))
  · exact ((Mem.hasAt_write ..).write (Or.inr (by omega))).write (Or.inl (by omega))
  · exact (((hrest.write (Or.inr (by omega))).write (Or.inr (by omega))).write
      (Or.inr (by omega))).write (Or.inl (by omega))

/-- `NvAdd()` appends the entry whose bytes are the handle field, the buffer and
what was in NV after it. -/
lemma nvAdd_eq (hrep : DynRep s.nv es maxCount) (hstatus : s.nvStatus = TPM_RC_SUCCESS)
    (hend : s.evictNvEnd = NV_MEMORY_SIZE) (handle : TpmHandle) (entity rest : Bytes)
    (hbody : e.body = handleField handle ++ entity ++ rest)
    (hrest : s.nv.HasAt (listEnd es + 4 + (handleField handle).length + entity.length) rest)
    (hfits : listEnd es + e.entrySize + NV_LIST_TERMINATOR_SIZE ≤ NV_MEMORY_SIZE) :
    ∃ nv', nvAdd (entity.length + rest.length) handle entity s = (TPM_RC_SUCCESS, s.withNv nv') ∧
      DynRep nv' (es ++ [e]) s.maxCounter ∧ ∀ a, a < listEnd es → nv' a = s.nv a := by
  have hsize : e.entrySize =
      4 + (handleField handle).length + entity.length + rest.length := by
    simp only [NvEntry.entrySize, hbody, length_append]
    omega
  obtain ⟨s₁, hhandle, hnv₁, hwith⟩ := nvAddHandle_eq (s := s) (a := listEnd es + 4) handle
    (by have := e.le_entrySize; omega)
  have hentity : nvWrite (listEnd es + 4 + (handleField handle).length) entity s₁ =
      (true, s.withNv ((s.nv.write (listEnd es + 4) (handleField handle)).write
        (listEnd es + 4 + (handleField handle).length) entity)) := by
    rw [nvWrite_eq _ (by omega), hwith, hnv₁]
  have hword : ∀ nv, nvWrite (listEnd es) (leBytes 4 e.entrySize) (s.withNv nv) =
      (true, s.withNv (nv.write (listEnd es) (leBytes 4 e.entrySize))) := by
    intro nv
    rw [nvWrite_eq _ (by rw [length_leBytes]; omega), Nv.withNv_withNv, Nv.withNv_nv]
  have hlist : ∀ nv, nvWriteNvListEnd (listEnd es + e.entrySize) (s.withNv nv) =
      (listEnd es + e.entrySize + NV_LIST_TERMINATOR_SIZE,
        s.withNv (nv.write (listEnd es + e.entrySize) (terminator s.maxCounter))) := by
    intro nv
    rw [nvWriteNvListEnd_eq (by simpa [Nv.withNv, hend] using hfits) hfits, Nv.withNv_withNv]
    rfl
  have hoff : listEnd es + 4 + (handleField handle).length + (entity.length + rest.length) =
      listEnd es + e.entrySize := by omega
  refine ⟨addImage s.nv (listEnd es) (handleField handle) entity e.entrySize s.maxCounter,
    ?_, ?_, fun a ha => addImage_below ha⟩
  · simp only [nvAdd, NvM.bind_apply, NvM.gets_apply, NvM.pure_apply, hstatus, ne_eq,
      not_true_eq_false, if_false, nvGetEnd_eq hrep, hhandle, hentity, hoff,
      Nat.add_sub_cancel_left, hword, hlist, addImage]
  · exact hrep.append (fun a _ ha => addImage_below ha) (addImage_hasAt hbody hrest)
      (Mem.hasAt_write ..) hfits

lemma nvAdd_unavailable (hstatus : s.nvStatus ≠ TPM_RC_SUCCESS) (totalSize : ℕ)
    (handle : TpmHandle) (entity : Bytes) :
    nvAdd totalSize handle entity s = (s.nvStatus, s) := by
  simp [nvAdd, hstatus]

lemma nvDelete_unavailable (hrep : DynRep s.nv es maxCount)
    (hstatus : s.nvStatus ≠ TPM_RC_SUCCESS) (entityRef : ℕ) :
    nvDelete entityRef s = (s.nvStatus, s) := by
  simp [nvDelete, nvGetEnd_eq hrep, hstatus]

lemma nvCloseGap_eq (hrep : DynRep s.nv (pre ++ e :: post) maxCount) :
    nvCloseGap (listEnd pre + e.entrySize) (listEnd pre) (listEnd (pre ++ e :: post)) s =
      ((), s.setNv (s.nv.move (listEnd pre + e.entrySize) (listEnd pre) (nvSize post))) := by
  have hfits := hrep.fits
  have hge := e.le_entrySize
  rw [listEnd_split] at hfits ⊢
  rw [nvCloseGap, Nat.add_sub_cancel_left]
  by_cases hz : nvSize post = 0
  · -- the last entry: nothing follows it
    simp [hz, Mem.move_zero, Nv.setNv]
  · have h1 : listEnd pre + e.entrySize + nvSize post ≤ NV_MEMORY_SIZE := by omega
    have h2 : listEnd pre + nvSize post ≤ NV_MEMORY_SIZE := by omega
    have h3 : 0 < e.entrySize := by omega
    simp [Nat.pos_of_ne_zero hz, h3, platNvMemoryMove, h1, h2]

lemma nvDelete_eq (hrep : DynRep s.nv (pre ++ e :: post) maxCount)
    (hstatus : s.nvStatus = TPM_RC_SUCCESS) (hend : s.evictNvEnd = NV_MEMORY_SIZE) :
    ∃ nv', nvDelete (listEnd pre + 4) s = (TPM_RC_SUCCESS, s.withNv nv') ∧
      DynRep nv' (pre ++ post) s.maxCounter ∧ ∀ a, a < listEnd pre → nv' a = s.nv a := by
  have hfits := hrep.fits
  have hlast : listEnd (pre ++ e :: post) = listEnd (pre ++ post) + e.entrySize := by
    rw [listEnd_split, listEnd_append]
    omega
  have hpp : listEnd (pre ++ post) = listEnd pre + nvSize post := listEnd_append ..
  have hge := e.le_entrySize
  set nv₁ := s.nv.move (listEnd pre + e.entrySize) (listEnd pre) (nvSize post) with hnv₁
  have hread : nvRead (listEnd pre) 4 s = (leBytes 4 e.entrySize, s) := by
    have hbytes := hrep.entry
    rw [NvEntry.bytes, Mem.hasAt_append] at hbytes
    exact nvRead_of_hasAt hbytes.1 (by simp) (by omega)
  have hval : leVal (leBytes 4 e.entrySize) = e.entrySize := leVal_leBytes e.entrySize_lt
  have hterm : nvWriteNvListEnd (listEnd (pre ++ post)) (s.setNv nv₁) =
      (listEnd (pre ++ post) + NV_LIST_TERMINATOR_SIZE,
        s.withNv (nv₁.write (listEnd (pre ++ post)) (terminator s.maxCounter))) := by
    rw [nvWriteNvListEnd_eq (by simp only [Nv.setNv, hend]; omega) (by omega)]
    rfl
  have hclear : listEnd (pre ++ post) + NV_LIST_TERMINATOR_SIZE + e.entrySize ≤
      NV_MEMORY_SIZE := by omega
  have hsub : listEnd (pre ++ e :: post) - e.entrySize = listEnd (pre ++ post) := by omega
  refine ⟨(nv₁.write (listEnd (pre ++ post)) (terminator s.maxCounter)).fill
    (listEnd (pre ++ post) + NV_LIST_TERMINATOR_SIZE) e.entrySize 0xFF, ?_, ?_, ?_⟩
  · simp only [nvDelete, NvM.bind_apply, NvM.gets_apply, NvM.pure_apply, nvGetEnd_eq hrep, hstatus,
      ne_eq, not_true_eq_false, if_false, Nat.add_sub_cancel, hread, hval, nvCloseGap_eq hrep,
      hsub, ← hnv₁, hterm, platNvMemoryClear, hclear, if_true, NvM.modify_apply, Nv.withNv_nv,
      Nv.setNv_withNv]
  · refine hrep.remove (fun a h1 h2 => ?_) ?_
    · rw [Mem.fill_outside (by omega), Mem.write_of_lt _ h2]
    · exact (Mem.hasAt_write ..).fill (Or.inl (by rw [length_terminator]))
  · intro a ha
    rw [Mem.fill_outside (by omega), Mem.write_of_lt _ (by omega), hnv₁,
      Mem.move_outside (by omega)]

end RfTpm
