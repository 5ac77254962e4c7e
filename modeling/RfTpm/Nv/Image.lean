import RfTpm.Nv.Index

/-!
# What the bytes mean

The dynamic area stands for a list of entries (`DynRep`), the orderly RAM and its
backing store for a list of RAM entries (`RamRep`).  Entries carry their own
well-formedness: an index entry has exactly the data bytes its description asks
for, and its handle is one that an index can be defined at; a persistent object's
handle is a persistent one.
-/

namespace RfTpm

open Bytes Packed TpmaNv List

/-! ## Entries of the dynamic area -/

namespace NvIndex

/-- The handle of an index. -/
def handle (x : NvIndex) : TpmHandle := x.publicArea.nvIndex

/-- The attributes stored with an index. -/
def attributes (x : NvIndex) : TpmaNv := x.publicArea.attributes

/-- The size of the data area of an index. -/
def dataSize (x : NvIndex) : ℕ := x.publicArea.dataSize.toNat

/-- The index keeps its data and attributes in RAM. -/
def orderly (x : NvIndex) : Bool := x.attributes.isSet ORDERLY

/-- The number of data bytes an index has in the dynamic area. -/
def storedSize (x : NvIndex) : ℕ := if x.orderly then 0 else x.dataSize

@[simp]
lemma dataSize_withAttributes (x : NvIndex) (a : TpmaNv) :
    (x.withAttributes a).dataSize = x.dataSize := rfl

lemma storedSize_withAttributes {x : NvIndex} {a : TpmaNv}
    (h : a.isSet ORDERLY = x.orderly) : (x.withAttributes a).storedSize = x.storedSize := by
  have h' : (x.withAttributes a).orderly = x.orderly := h
  rw [storedSize, storedSize, h', dataSize_withAttributes]

@[simp]
lemma withAttributes_self (x : NvIndex) : x.withAttributes x.attributes = x := rfl

end NvIndex

/-- The handle types an index can be defined at: `TPMI_RH_NV_INDEX` unmarshals
handles of these three types. -/
def isIndexHandle (handle : TpmHandle) : Bool :=
  handleGetType handle == TPM_HT_NV_INDEX || handleGetType handle == TPM_HT_EXTERNAL_NV ||
    handleGetType handle == TPM_HT_PERMANENT_NV

/-- An index with its data as stored in NV.  A counter has eight bytes of data:
`TPM2_NV_DefineSpace()` refuses any other size. -/
structure IndexEntry where
  info : NvIndex
  data : Bytes
  length_data : data.length = info.storedSize
  isIndex : isIndexHandle info.handle = true
  counter_size : isNvCounterIndex info.attributes = true → info.dataSize = 8

/-- A persistent object as stored in NV. -/
structure EvictEntry where
  handle : TpmHandle
  object : Object
  isPersistent : handleGetType handle = TPM_HT_PERSISTENT

/-- An entry of the dynamic area. -/
inductive NvEntry where
  | index (entry : IndexEntry)
  | evict (entry : EvictEntry)

namespace NvEntry

/-- The handle of an entry. -/
def handle : NvEntry → TpmHandle
  | index e => e.info.handle
  | evict e => e.handle

/-- The bytes of an entry after its size word. -/
def body : NvEntry → Bytes
  | index e => e.info.toBytes ++ e.data
  | evict e => leBytes 4 e.handle.toNat ++ e.object.toBytes

/-- The bytes of an entry. -/
def bytes (e : NvEntry) : Bytes := leBytes 4 (4 + e.body.length) ++ e.body

/-- The number of bytes of an entry. -/
def entrySize (e : NvEntry) : ℕ := 4 + e.body.length

@[simp]
lemma length_bytes (e : NvEntry) : e.bytes.length = e.entrySize := by
  simp [bytes, entrySize]

lemma entrySize_index (e : IndexEntry) :
    (index e).entrySize = 4 + NV_INDEX_SIZE + e.info.storedSize := by
  simp [entrySize, body, e.length_data, Nat.add_assoc]

lemma entrySize_evict (e : EvictEntry) : (evict e).entrySize = NV_EVICT_OBJECT_SIZE := by
  simp only [entrySize, body, NV_EVICT_OBJECT_SIZE, length_append, length_leBytes,
    Object.length_toBytes, Nat.add_assoc]

lemma le_entrySize (e : NvEntry) : 152 ≤ e.entrySize := by
  cases e with
  | index e =>
    rw [entrySize_index, NV_INDEX_SIZE]
    omega
  | evict e =>
    rw [entrySize_evict, NV_EVICT_OBJECT_SIZE, OBJECT_SIZE]
    omega

lemma entrySize_lt (e : NvEntry) : e.entrySize < 256 ^ 4 := by
  cases e with
  | index e =>
    have hlt := e.info.publicArea.dataSize.toNat_lt
    have hle : e.info.storedSize ≤ e.info.publicArea.dataSize.toNat := by
      unfold NvIndex.storedSize NvIndex.dataSize
      split <;> omega
    rw [entrySize_index, NV_INDEX_SIZE]
    omega
  | evict e =>
    rw [entrySize_evict, NV_EVICT_OBJECT_SIZE, OBJECT_SIZE]
    omega

/-- The size word and the handle of an entry, the two words `NvNext()` reads. -/
def header (e : NvEntry) : Bytes :=
  leBytes 4 e.entrySize ++ leBytes 4 e.handle.toNat

lemma bytes_eq_header (e : NvEntry) : ∃ rest, e.bytes = e.header ++ rest := by
  cases e with
  | index e =>
    refine ⟨leBytes 2 e.info.publicArea.nameAlg.toNat ++ [0, 0] ++
      leBytes 4 e.info.publicArea.attributes.toNat ++ e.info.midBytes ++
      e.info.authValue.toBytes ++ [0, 0] ++ e.data, ?_⟩
    simp [bytes, header, entrySize, body, handle, NvIndex.handle, NvIndex.toBytes,
      NvIndex.headBytes]
  | evict e =>
    refine ⟨e.object.toBytes, ?_⟩
    simp [bytes, header, entrySize, body, handle]

end NvEntry

/-- The bytes taken by a list of entries. -/
def nvSize (es : List NvEntry) : ℕ := size NvEntry.bytes es

@[simp]
lemma nvSize_nil : nvSize [] = 0 := rfl

@[simp]
lemma nvSize_cons (e : NvEntry) (es : List NvEntry) :
    nvSize (e :: es) = e.entrySize + nvSize es := by
  rw [nvSize, size_cons, NvEntry.length_bytes, nvSize]

@[simp]
lemma nvSize_append (xs ys : List NvEntry) : nvSize (xs ++ ys) = nvSize xs + nvSize ys :=
  size_append ..

/-- Where the list of entries ends, and its terminator starts. -/
def listEnd (es : List NvEntry) : ℕ := NV_USER_DYNAMIC + nvSize es

/-- The handles of a list of entries. -/
def handles (es : List NvEntry) : List TpmHandle := es.map NvEntry.handle

/-- The end-of-list marker. -/
def terminator (maxCount : UInt64) : Bytes := leBytes 4 0 ++ leBytes 8 maxCount.toNat

@[simp]
lemma length_terminator (maxCount : UInt64) :
    (terminator maxCount).length = NV_LIST_TERMINATOR_SIZE := by
  simp [terminator, NV_LIST_TERMINATOR_SIZE]

@[simp]
lemma listEnd_nil : listEnd [] = NV_USER_DYNAMIC := rfl

lemma listEnd_append (xs ys : List NvEntry) : listEnd (xs ++ ys) = listEnd xs + nvSize ys := by
  simp [listEnd, Nat.add_assoc]

lemma listEnd_split (pre post : List NvEntry) (e : NvEntry) :
    listEnd (pre ++ e :: post) = listEnd pre + e.entrySize + nvSize post := by
  simp [listEnd, Nat.add_assoc]

lemma listEnd_concat (xs : List NvEntry) (e : NvEntry) :
    listEnd (xs ++ [e]) = listEnd xs + e.entrySize := by
  simp [listEnd_append]

lemma listEnd_ge (es : List NvEntry) : NV_USER_DYNAMIC ≤ listEnd es := Nat.le_add_right ..

/-- The dynamic area of the image `nv` holds the entries `es` and the terminator
with the maximum counter `maxCount`. -/
structure DynRep (nv : Mem) (es : List NvEntry) (maxCount : UInt64) : Prop where
  hasAt : nv.HasAt NV_USER_DYNAMIC (flat NvEntry.bytes es ++ terminator maxCount)
  fits : listEnd es + NV_LIST_TERMINATOR_SIZE ≤ NV_MEMORY_SIZE

namespace DynRep

variable {nv nv' : Mem} {es pre post : List NvEntry} {e e' : NvEntry} {maxCount : UInt64}

lemma entries (h : DynRep nv es maxCount) : nv.HasAt NV_USER_DYNAMIC (flat NvEntry.bytes es) :=
  (Mem.hasAt_append.1 h.hasAt).1

lemma hasTerminator (h : DynRep nv es maxCount) : nv.HasAt (listEnd es) (terminator maxCount) :=
  (Mem.hasAt_append.1 h.hasAt).2

lemma entry (h : DynRep nv (pre ++ e :: post) maxCount) : nv.HasAt (listEnd pre) e.bytes := by
  have hsplit := h.entries
  rw [flat_append, flat_cons, Mem.hasAt_append, Mem.hasAt_append] at hsplit
  exact hsplit.2.1

lemma entry_end_le (h : DynRep nv (pre ++ e :: post) maxCount) :
    listEnd pre + e.entrySize + NV_LIST_TERMINATOR_SIZE ≤ NV_MEMORY_SIZE := by
  have hfits := h.fits
  rw [listEnd_split] at hfits
  omega

lemma length_lt (h : DynRep nv es maxCount) : 152 * es.length < NV_MEMORY_SIZE := by
  have hsize : 152 * es.length ≤ nvSize es :=
    mul_length_le_size NvEntry.bytes fun e _ => by
      rw [NvEntry.length_bytes]
      exact e.le_entrySize
  have hfits := h.fits
  rw [listEnd, NV_USER_DYNAMIC, NV_LIST_TERMINATOR_SIZE] at hfits
  omega

lemma congr (h : DynRep nv es maxCount)
    (hnv : ∀ a, NV_USER_DYNAMIC ≤ a → a < listEnd es + NV_LIST_TERMINATOR_SIZE → nv' a = nv a) :
    DynRep nv' es maxCount := by
  refine ⟨h.hasAt.congr fun a h1 h2 => hnv a h1 ?_, h.fits⟩
  rw [length_append, length_flat, length_terminator, ← Nat.add_assoc] at h2
  exact h2

lemma of_parts (hes : nv.HasAt NV_USER_DYNAMIC (flat NvEntry.bytes es))
    (hterm : nv.HasAt (listEnd es) (terminator maxCount))
    (hfits : listEnd es + NV_LIST_TERMINATOR_SIZE ≤ NV_MEMORY_SIZE) : DynRep nv es maxCount :=
  ⟨Mem.hasAt_append.2 ⟨hes, hterm⟩, hfits⟩

lemma append (h : DynRep nv es maxCount) {maxCount' : UInt64}
    (hbelow : ∀ a, NV_USER_DYNAMIC ≤ a → a < listEnd es → nv' a = nv a)
    (he : nv'.HasAt (listEnd es) e.bytes)
    (hterm : nv'.HasAt (listEnd es + e.entrySize) (terminator maxCount'))
    (hfits : listEnd es + e.entrySize + NV_LIST_TERMINATOR_SIZE ≤ NV_MEMORY_SIZE) :
    DynRep nv' (es ++ [e]) maxCount' := by
  have hes : nv'.HasAt NV_USER_DYNAMIC (flat NvEntry.bytes es) := h.entries.congr hbelow
  refine of_parts ?_ (by rwa [listEnd_concat]) (by rwa [listEnd_concat])
  rw [flat_append, flat_cons, flat_nil, append_nil, Mem.hasAt_append]
  exact ⟨hes, he⟩

lemma remove (h : DynRep nv (pre ++ e :: post) maxCount) {maxCount' : UInt64}
    (hmove : ∀ a, NV_USER_DYNAMIC ≤ a → a < listEnd (pre ++ post) →
      nv' a = nv.move (listEnd pre + e.entrySize) (listEnd pre) (nvSize post) a)
    (hterm : nv'.HasAt (listEnd (pre ++ post)) (terminator maxCount')) :
    DynRep nv' (pre ++ post) maxCount' := by
  have hsplit := h.entries
  rw [flat_append, flat_cons, ← append_assoc] at hsplit
  have hmoved := hsplit.move_down
  rw [length_flat, length_flat, NvEntry.length_bytes, ← flat_append] at hmoved
  refine of_parts (hmoved.congr fun a h1 h2 => hmove a h1 h2) hterm ?_
  have hfits := h.fits
  rw [listEnd_split] at hfits
  rw [listEnd_append]
  omega

lemma write_entry (h : DynRep nv (pre ++ e :: post) maxCount) {xs ys zs ws : Bytes}
    (he : e.bytes = xs ++ ys ++ zs) (he' : e'.bytes = xs ++ ws ++ zs)
    (hlen : ws.length = ys.length) :
    DynRep (nv.write (listEnd pre + xs.length) ws) (pre ++ e' :: post) maxCount := by
  have hsize : e'.entrySize = e.entrySize := by
    rw [← NvEntry.length_bytes, ← NvEntry.length_bytes]
    simp [he, he', hlen]
  refine ⟨?_, ?_⟩
  · have hnv := h.hasAt
    rw [flat_append, flat_cons, he] at hnv
    rw [flat_append, flat_cons, he']
    have hw := Mem.HasAt.write_mid (flat NvEntry.bytes pre ++ xs) ys
      (zs ++ flat NvEntry.bytes post ++ terminator maxCount) ws
      (by simpa only [append_assoc] using hnv) hlen
    rw [length_append, length_flat, ← Nat.add_assoc] at hw
    simpa only [append_assoc, listEnd, nvSize] using hw
  · have hfits := h.fits
    rw [listEnd_split] at hfits ⊢
    omega

end DynRep

/-! ## Entries of the orderly RAM -/

/-- An entry of the orderly RAM: the attributes and data of an orderly index. -/
structure RamEntry where
  handle : TpmHandle
  attributes : TpmaNv
  data : Bytes

namespace RamEntry

/-- The bytes of a RAM entry: its `NV_RAM_HEADER` and its data. -/
def bytes (r : RamEntry) : Bytes :=
  leBytes 4 (NV_RAM_HEADER_SIZE + r.data.length) ++ leBytes 4 r.handle.toNat ++
    leBytes 4 r.attributes.toNat ++ r.data

/-- The number of bytes of a RAM entry. -/
def entrySize (r : RamEntry) : ℕ := NV_RAM_HEADER_SIZE + r.data.length

@[simp]
lemma length_bytes (r : RamEntry) : r.bytes.length = r.entrySize := by
  simp only [bytes, entrySize, NV_RAM_HEADER_SIZE, length_append, length_leBytes]

lemma le_entrySize (r : RamEntry) : 12 ≤ r.entrySize := Nat.le_add_right ..

end RamEntry

/-- The bytes taken by a list of RAM entries. -/
def ramSize (rs : List RamEntry) : ℕ := size RamEntry.bytes rs

@[simp]
lemma ramSize_nil : ramSize [] = 0 := rfl

@[simp]
lemma ramSize_cons (r : RamEntry) (rs : List RamEntry) :
    ramSize (r :: rs) = r.entrySize + ramSize rs := by
  rw [ramSize, size_cons, RamEntry.length_bytes, ramSize]

@[simp]
lemma ramSize_append (xs ys : List RamEntry) : ramSize (xs ++ ys) = ramSize xs + ramSize ys :=
  size_append ..

/-- The handles of a list of RAM entries. -/
def ramHandles (rs : List RamEntry) : List TpmHandle := rs.map RamEntry.handle

/-- The buffer `ram` holds the entries `rs`.  The zero size word that ends the list
need only be there when another header would fit. -/
structure RamRep (ram : Mem) (rs : List RamEntry) : Prop where
  hasAt : ram.HasAt 0 (flat RamEntry.bytes rs)
  fits : ramSize rs ≤ RAM_INDEX_SPACE
  stops : ramSize rs + NV_RAM_HEADER_SIZE ≤ RAM_INDEX_SPACE → ram.HasAt (ramSize rs) (leBytes 4 0)

namespace RamRep

variable {ram ram' : Mem} {rs pre post : List RamEntry} {r r' : RamEntry}

lemma entry (h : RamRep ram (pre ++ r :: post)) : ram.HasAt (ramSize pre) r.bytes := by
  have hsplit := h.hasAt
  rw [flat_append, flat_cons, Mem.hasAt_append, Mem.hasAt_append, Nat.zero_add] at hsplit
  exact hsplit.2.1

lemma entry_end_le (h : RamRep ram (pre ++ r :: post)) :
    ramSize pre + r.entrySize ≤ RAM_INDEX_SPACE := by
  have hfits := h.fits
  rw [ramSize_append, ramSize_cons] at hfits
  omega

lemma length_lt (h : RamRep ram rs) : 12 * rs.length ≤ RAM_INDEX_SPACE := by
  have hsize : 12 * rs.length ≤ ramSize rs :=
    mul_length_le_size RamEntry.bytes fun r _ => by
      rw [RamEntry.length_bytes]
      exact r.le_entrySize
  exact hsize.trans h.fits

lemma congr (h : RamRep ram rs) (hram : ∀ a, a < RAM_INDEX_SPACE → ram' a = ram a) :
    RamRep ram' rs := by
  have hfits := h.fits
  refine ⟨h.hasAt.congr fun a _ ha => hram a ?_, h.fits, fun hs => ?_⟩
  · rw [length_flat, Nat.zero_add] at ha
    exact ha.trans_le hfits
  · refine (h.stops hs).congr fun a _ ha => hram a ?_
    rw [length_leBytes] at ha
    rw [NV_RAM_HEADER_SIZE] at hs
    omega

lemma append (h : RamRep ram rs) (hbelow : ∀ a, a < ramSize rs → ram' a = ram a)
    (hr : ram'.HasAt (ramSize rs) r.bytes) (hfits : ramSize rs + r.entrySize ≤ RAM_INDEX_SPACE)
    (hstops : ramSize rs + r.entrySize + NV_RAM_HEADER_SIZE ≤ RAM_INDEX_SPACE →
      ram'.HasAt (ramSize rs + r.entrySize) (leBytes 4 0)) : RamRep ram' (rs ++ [r]) := by
  have hrs : ram'.HasAt 0 (flat RamEntry.bytes rs) := by
    refine h.hasAt.congr fun a _ ha => hbelow a ?_
    rwa [length_flat, Nat.zero_add] at ha
  have hsize : ramSize (rs ++ [r]) = ramSize rs + r.entrySize := by simp
  refine ⟨?_, by rwa [hsize], by rwa [hsize]⟩
  rw [flat_append, flat_cons, flat_nil, append_nil, Mem.hasAt_append, Nat.zero_add]
  exact ⟨hrs, hr⟩

/-- Removing an entry: what follows it moves down over it, and the bytes freed at
the end are zero. -/
lemma remove (h : RamRep ram (pre ++ r :: post))
    (hmove : ∀ a, a < ramSize (pre ++ post) →
      ram' a = ram.move (ramSize pre + r.entrySize) (ramSize pre) (ramSize post) a)
    (hzero : ram'.HasAt (ramSize (pre ++ post)) (leBytes 4 0)) : RamRep ram' (pre ++ post) := by
  have hsplit := h.hasAt
  rw [flat_append, flat_cons, ← append_assoc] at hsplit
  have hmoved := hsplit.move_down
  rw [length_flat, length_flat, RamEntry.length_bytes, ← flat_append, Nat.zero_add] at hmoved
  refine ⟨hmoved.congr fun a _ h2 => hmove a ?_, ?_, fun _ => hzero⟩
  · rwa [length_flat, Nat.zero_add] at h2
  · have hfits := h.fits
    simp only [ramSize_append, ramSize_cons] at hfits ⊢
    omega

lemma write_entry (h : RamRep ram (pre ++ r :: post)) {xs ys zs ws : Bytes}
    (hr : r.bytes = xs ++ ys ++ zs) (hr' : r'.bytes = xs ++ ws ++ zs)
    (hlen : ws.length = ys.length) :
    RamRep (ram.write (ramSize pre + xs.length) ws) (pre ++ r' :: post) := by
  have hentry : r'.entrySize = r.entrySize := by
    rw [← RamEntry.length_bytes, ← RamEntry.length_bytes]
    simp [hr, hr', hlen]
  have hsize : ramSize (pre ++ r' :: post) = ramSize (pre ++ r :: post) := by
    simp [hentry]
  refine ⟨?_, by rw [hsize]; exact h.fits, fun hs => ?_⟩
  · have hram := h.hasAt
    rw [flat_append, flat_cons, hr] at hram
    rw [flat_append, flat_cons, hr']
    have hw := Mem.HasAt.write_mid (flat RamEntry.bytes pre ++ xs) ys
      (zs ++ flat RamEntry.bytes post) ws (by simpa only [append_assoc] using hram) hlen
    rw [length_append, length_flat, Nat.zero_add] at hw
    simpa only [append_assoc, ramSize] using hw
  · rw [hsize] at hs ⊢
    refine (h.stops hs).write (Or.inr ?_)
    have hlen' : r.entrySize = xs.length + ws.length + zs.length := by
      rw [← RamEntry.length_bytes, hr, length_append, length_append, hlen]
    rw [ramSize_append, ramSize_cons]
    omega

end RamRep

/-- The backing store of the orderly RAM in the image `nv` holds the entries `rs`. -/
def BackupRep (nv : Mem) (rs : List RamEntry) : Prop :=
  RamRep (fun a => nv (NV_INDEX_RAM_DATA + a)) rs

lemma BackupRep.congr {nv nv' : Mem} {rs : List RamEntry} (h : BackupRep nv rs)
    (hnv : ∀ a, NV_INDEX_RAM_DATA ≤ a → a < NV_USER_DYNAMIC → nv' a = nv a) :
    BackupRep nv' rs := by
  refine RamRep.congr h fun a ha => hnv _ (Nat.le_add_right ..) ?_
  simp only [NV_INDEX_RAM_DATA, NV_USER_DYNAMIC, RAM_INDEX_SPACE] at ha ⊢
  omega

end RfTpm
