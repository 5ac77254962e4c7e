import RfTpm.Nv.DynamicSpec

/-!
# The orderly RAM on represented states

The functions of the RAM list, for a state whose buffer represents a list of RAM
entries.  The list has two ends: a zero size word, or too little room for another
header.  `nvRamNext_chain` covers both, so the rest never sees the difference.
-/

namespace RfTpm

open Bytes Packed List

variable {s : Nv} {rs pre post : List RamEntry} {r : RamEntry}

@[simp]
lemma Nv.setRam_indexOrderlyRam (s : Nv) (ram : Mem) : (s.setRam ram).indexOrderlyRam = ram := rfl

@[simp]
lemma Nv.setRam_setRam (s : Nv) (ram ram' : Mem) : (s.setRam ram).setRam ram' = s.setRam ram' :=
  rfl

/-! ## Walking -/

/-- What `NvRamNext()` returns for each entry of a list that starts at an address. -/
def ramNodes (a : ℕ) (rs : List RamEntry) : List (NvNode × ℕ) :=
  (nodes RamEntry.bytes a rs).map fun n => (⟨n.1, n.2.handle⟩, n.1 + n.2.entrySize)

@[simp]
lemma length_ramNodes (a : ℕ) (rs : List RamEntry) : (ramNodes a rs).length = rs.length := by
  simp [ramNodes]

lemma ramNodes_split (pre post : List RamEntry) (r : RamEntry) :
    ramNodes 0 (pre ++ r :: post) =
      ramNodes 0 pre ++ (⟨ramSize pre, r.handle⟩, ramSize pre + r.entrySize) ::
        ramNodes (ramSize pre + r.entrySize) post := by
  simp [ramNodes, nodes_append, nodes, ramSize]

variable {a offset : ℕ} {bs ws : Bytes}

lemma handle_mem_of_mem_ramNodes {n : NvNode × ℕ} (h : n ∈ ramNodes a rs) :
    n.1.handle ∈ ramHandles rs := by
  obtain ⟨m, hm, rfl⟩ := mem_map.1 h
  have hmem : m.2 ∈ (nodes RamEntry.bytes a rs).map Prod.snd := mem_map_of_mem hm
  rw [map_snd_nodes] at hmem
  exact mem_map_of_mem hmem

lemma ram_header {ram : Mem} (h : ram.HasAt a r.bytes) (ha : a + r.entrySize ≤ RAM_INDEX_SPACE) :
    ram.le a 4 = r.entrySize ∧ ram.le (a + 4) 4 = r.handle.toNat ∧
      ram.le (a + 8) 4 = r.attributes.toNat ∧ ram.HasAt (a + NV_RAM_HEADER_SIZE) r.data := by
  simp only [RamEntry.bytes, Mem.hasAt_append, length_leBytes, length_append,
    Nat.reduceAdd] at h
  obtain ⟨⟨⟨hsize, hhandle⟩, hattr⟩, hdata⟩ := h
  refine ⟨hsize.le ?_, hhandle.le r.handle.toNat_lt, hattr.le r.attributes.isLt, hdata⟩
  rw [RamEntry.entrySize, RAM_INDEX_SPACE] at ha
  omega

lemma nvRamNext_entry (h : s.indexOrderlyRam.HasAt a r.bytes)
    (ha : a + r.entrySize ≤ RAM_INDEX_SPACE) :
    nvRamNext a s = (some (⟨a, r.handle⟩, a + r.entrySize), s) := by
  obtain ⟨hsize, hhandle, -, -⟩ := ram_header h ha
  have hge := r.le_entrySize
  have hin : ¬ a + NV_RAM_HEADER_SIZE > RAM_INDEX_SPACE := by
    rw [NV_RAM_HEADER_SIZE]
    omega
  have hne : r.entrySize ≠ 0 := by omega
  simp [nvRamNext, hin, hsize, hhandle, hne]

lemma nvRamNext_chain (h : s.indexOrderlyRam.HasAt a (flat RamEntry.bytes rs))
    (hfits : a + ramSize rs ≤ RAM_INDEX_SPACE)
    (hstops : a + ramSize rs + NV_RAM_HEADER_SIZE ≤ RAM_INDEX_SPACE →
      s.indexOrderlyRam.HasAt (a + ramSize rs) (leBytes 4 0)) :
    Chain nvRamNext s a (ramNodes a rs) (a + ramSize rs) := by
  induction rs generalizing a with
  | nil =>
    refine Chain.nil ?_
    by_cases hin : a + NV_RAM_HEADER_SIZE > RAM_INDEX_SPACE
    · simp [nvRamNext, hin]
    · have hzero : s.indexOrderlyRam.le a 4 = 0 := (hstops (by simpa using hin)).le (by simp)
      simp [nvRamNext, hin, hzero]
  | cons r rs ih =>
    rw [flat_cons, Mem.hasAt_append, RamEntry.length_bytes] at h
    rw [ramSize_cons, ← Nat.add_assoc] at hfits hstops ⊢
    have hhead := nvRamNext_entry h.1 (by omega)
    have htail := ih h.2 hfits hstops
    rw [← RamEntry.length_bytes] at hhead htail ⊢
    simpa [ramNodes, nodes] using Chain.cons hhead htail

lemma RamRep.chain (h : RamRep s.indexOrderlyRam rs) :
    Chain nvRamNext s 0 (ramNodes 0 rs) (ramSize rs) := by
  have hchain := nvRamNext_chain (a := 0) h.hasAt (by simpa using h.fits)
    (by simpa using h.stops)
  rwa [Nat.zero_add] at hchain

lemma RamRep.fuel (h : RamRep s.indexOrderlyRam rs) :
    (ramNodes 0 rs).length < RAM_INDEX_SPACE := by
  have hlen := h.length_lt
  rw [length_ramNodes]
  rw [RAM_INDEX_SPACE] at hlen ⊢
  omega

lemma nvRamGetEnd_eq (h : RamRep s.indexOrderlyRam rs) : nvRamGetEnd s = (ramSize rs, s) := by
  have hw : nvRamSearch (fun _ => false) s = ((none, ramSize rs), s) :=
    walk_chain_none h.chain h.fuel (by simp)
  simp [nvRamGetEnd, hw]

lemma nvRamTestSpaceIndex_eq (h : RamRep s.indexOrderlyRam rs) (size : ℕ) :
    nvRamTestSpaceIndex size s =
      (decide (ramSize rs + NV_RAM_HEADER_SIZE + size ≤ RAM_INDEX_SPACE), s) := by
  have hfits := h.fits
  simp only [nvRamTestSpaceIndex, NvM.bind_apply, NvM.pure_apply, nvRamGetEnd_eq h, Prod.mk.injEq,
    and_true]
  rw [decide_eq_decide]
  omega

lemma nvRamGetIndex_of_split (h : RamRep s.indexOrderlyRam (pre ++ r :: post))
    (hpre : r.handle ∉ ramHandles pre) : nvRamGetIndex r.handle s = (some (ramSize pre), s) := by
  have hchain := h.chain
  have hfuel := h.fuel
  rw [ramNodes_split] at hchain hfuel
  have hw : nvRamSearch (fun node => node.handle == r.handle) s =
      ((some ⟨ramSize pre, r.handle⟩, ramSize pre + r.entrySize), s) := by
    refine walk_chain_some _ hchain hfuel (fun n hn => ?_) (by simp)
    have hmem := handle_mem_of_mem_ramNodes hn
    simp only [beq_eq_false_iff_ne, ne_eq]
    intro heq
    exact hpre (heq ▸ hmem)
  simp [nvRamGetIndex, hw]

/-! ## Adding and deleting -/

/-- The RAM entry `NvAddRAM()` makes for an index. -/
def RamEntry.ofPublic (index : TpmsNvPublic) : RamEntry where
  handle := index.nvIndex
  attributes := index.attributes
  data := List.replicate index.dataSize.toNat 0

lemma RamEntry.entrySize_ofPublic (index : TpmsNvPublic) :
    (RamEntry.ofPublic index).entrySize = NV_RAM_HEADER_SIZE + index.dataSize.toNat := by
  simp [entrySize, ofPublic]

/-- `NvAddRAM()` appends an entry with zero data and asks for the orderly data to be
saved. -/
lemma nvAddRam_eq (h : RamRep s.indexOrderlyRam rs) (index : TpmsNvPublic)
    (hfits : ramSize rs + NV_RAM_HEADER_SIZE + index.dataSize.toNat ≤ RAM_INDEX_SPACE) :
    ∃ ram', nvAddRam index s = ((), (s.setRam ram').requestUpdate .orderly) ∧
      RamRep ram' (rs ++ [RamEntry.ofPublic index]) := by
  have hsize := RamEntry.entrySize_ofPublic index
  set size := NV_RAM_HEADER_SIZE + index.dataSize.toNat with hsz
  have hheader : (leBytes 4 size ++ leBytes 4 index.nvIndex.toNat ++
      leBytes 4 index.attributes.toNat).length = NV_RAM_HEADER_SIZE := by
    simp [NV_RAM_HEADER_SIZE]
  have hpos : 12 ≤ size := by
    rw [hsz, NV_RAM_HEADER_SIZE]
    omega
  set ram₁ := (s.indexOrderlyRam.write (ramSize rs) (leBytes 4 size ++
    leBytes 4 index.nvIndex.toNat ++ leBytes 4 index.attributes.toNat)).fill
    (ramSize rs + NV_RAM_HEADER_SIZE) index.dataSize.toNat 0 with hram₁
  -- the header and the cleared data are the bytes of the new entry
  have hentry : ram₁.HasAt (ramSize rs) (RamEntry.ofPublic index).bytes := by
    simp only [RamEntry.bytes, RamEntry.ofPublic, length_replicate]
    rw [← hsz, Mem.hasAt_append, hheader]
    exact ⟨(Mem.hasAt_write ..).fill (Or.inl (by rw [hheader])), Mem.hasAt_fill le_rfl le_rfl⟩
  have hbelow : ∀ a, a < ramSize rs → ram₁ a = s.indexOrderlyRam a := by
    intro a ha
    rw [hram₁, Mem.fill_outside (by omega), Mem.write_of_lt _ ha]
  have hassert : ramSize rs + size - 1 < RAM_INDEX_SPACE := by omega
  by_cases hstop : ramSize rs + size + 4 < RAM_INDEX_SPACE
  · refine ⟨ram₁.fill (ramSize rs + size) 4 0, ?_, ?_⟩
    · simp [nvAddRam, nvRamGetEnd_eq h, ← hsz, hassert, ramWrite, ramClear, hstop, setNvUpdate,
        hram₁]
    · refine h.append (fun a ha => ?_) (hentry.fill (Or.inl ?_)) (by omega) fun _ => ?_
      · rw [Mem.fill_outside (by omega), hbelow a ha]
      · rw [RamEntry.length_bytes, hsize]
      · rw [hsize, leBytes_zero]
        exact Mem.hasAt_fill le_rfl le_rfl
  · -- no room for another header, so none for a terminator either
    refine ⟨ram₁, ?_, ?_⟩
    · simp [nvAddRam, nvRamGetEnd_eq h, ← hsz, hassert, ramWrite, ramClear, hstop, setNvUpdate,
        hram₁]
    · refine h.append hbelow hentry (by omega) fun hlt => ?_
      rw [hsize, NV_RAM_HEADER_SIZE] at hlt
      omega

/-- `NvDeleteRAM()` removes the entry of the handle and asks for the orderly data to
be saved. -/
lemma nvDeleteRam_eq (h : RamRep s.indexOrderlyRam (pre ++ r :: post))
    (hpre : r.handle ∉ ramHandles pre) :
    ∃ ram', nvDeleteRam r.handle s = ((), (s.setRam ram').requestUpdate .orderly) ∧
      RamRep ram' (pre ++ post) := by
  have hle := h.entry_end_le
  have hge := r.le_entrySize
  obtain ⟨hsize, -, -, -⟩ := ram_header h.entry hle
  have hlast : ramSize (pre ++ r :: post) - (ramSize pre + r.entrySize) = ramSize post := by
    simp only [ramSize_append, ramSize_cons]
    omega
  have hcut : ramSize (pre ++ r :: post) - r.entrySize = ramSize (pre ++ post) := by
    simp only [ramSize_append, ramSize_cons]
    omega
  refine ⟨(s.indexOrderlyRam.move (ramSize pre + r.entrySize) (ramSize pre) (ramSize post)).fill
    (ramSize (pre ++ post)) r.entrySize 0, ?_, ?_⟩
  · simp only [nvDeleteRam, NvM.bind_apply, NvM.gets_apply, NvM.modify_apply, nvRamGetEnd_eq h,
      nvRamGetIndex_of_split h hpre, hsize, hlast, hcut, ramClear, setNvUpdate,
      Nv.setRam_indexOrderlyRam, Nv.setRam_setRam]
  · refine h.remove (fun a ha => Mem.fill_outside (Or.inl ha)) ?_
    rw [leBytes_zero]
    exact Mem.hasAt_fill le_rfl (by omega)

/-! ## One entry in place -/

/-- Overwrite part of a byte string. -/
def splice (bs : Bytes) (offset : ℕ) (ws : Bytes) : Bytes :=
  bs.take offset ++ ws ++ bs.drop (offset + ws.length)

@[simp]
lemma length_splice (h : offset + ws.length ≤ bs.length) :
    (splice bs offset ws).length = bs.length := by
  simp only [splice, length_append, length_take, length_drop]
  omega

lemma splice_all (h : ws.length = bs.length) : splice bs 0 ws = ws := by
  simp [splice, h]

lemma splice_split {n : ℕ} (h : offset + n ≤ bs.length) :
    ∃ mid, bs = bs.take offset ++ mid ++ bs.drop (offset + n) ∧ mid.length = n := by
  refine ⟨(bs.drop offset).take n, ?_, ?_⟩
  · rw [append_assoc, ← drop_drop, take_append_drop, take_append_drop]
  · rw [length_take, length_drop]
    omega

lemma nvReadRamIndexAttributes_eq (h : RamRep s.indexOrderlyRam (pre ++ r :: post)) :
    nvReadRamIndexAttributes (some (ramSize pre)) s = (r.attributes, s) := by
  obtain ⟨-, -, hattr, -⟩ := ram_header h.entry h.entry_end_le
  simp [nvReadRamIndexAttributes, hattr]

lemma nvWriteRamIndexAttributes_eq (h : RamRep s.indexOrderlyRam (pre ++ r :: post))
    (attributes : TpmaNv) :
    ∃ ram', nvWriteRamIndexAttributes (some (ramSize pre)) attributes s = ((), s.setRam ram') ∧
      RamRep ram' (pre ++ { r with attributes } :: post) := by
  refine ⟨_, rfl, ?_⟩
  have hxs : (leBytes 4 (NV_RAM_HEADER_SIZE + r.data.length) ++
      leBytes 4 r.handle.toNat).length = 8 := by simp
  have hold : r.bytes = leBytes 4 (NV_RAM_HEADER_SIZE + r.data.length) ++
      leBytes 4 r.handle.toNat ++ leBytes 4 r.attributes.toNat ++ r.data := rfl
  have hnew : { r with attributes }.bytes = leBytes 4 (NV_RAM_HEADER_SIZE + r.data.length) ++
      leBytes 4 r.handle.toNat ++ leBytes 4 attributes.toNat ++ r.data := rfl
  have hw := h.write_entry hold hnew (by simp)
  rwa [hxs] at hw

lemma ramRefWrite_eq (h : RamRep s.indexOrderlyRam (pre ++ r :: post)) (offset : ℕ)
    (data : Bytes) (hle : offset + data.length ≤ r.data.length) :
    ∃ ram', ramRefWrite (some (ramSize pre)) (NV_RAM_HEADER_SIZE + offset) data s =
        ((), s.setRam ram') ∧
      RamRep ram' (pre ++ { r with data := splice r.data offset data } :: post) := by
  refine ⟨_, rfl, ?_⟩
  obtain ⟨mid, hmid, hlen⟩ := splice_split hle
  set header := leBytes 4 (NV_RAM_HEADER_SIZE + r.data.length) ++ leBytes 4 r.handle.toNat ++
    leBytes 4 r.attributes.toNat with hheader
  have hxs : (header ++ r.data.take offset).length = NV_RAM_HEADER_SIZE + offset := by
    simp only [hheader, length_append, length_leBytes, length_take, NV_RAM_HEADER_SIZE]
    omega
  have hold : r.bytes = header ++ r.data.take offset ++ mid ++
      r.data.drop (offset + data.length) := by
    calc r.bytes = header ++ r.data := rfl
      _ = _ := by
        conv_lhs => rw [hmid]
        simp only [append_assoc]
  have hnew : ({ r with data := splice r.data offset data } : RamEntry).bytes =
      header ++ r.data.take offset ++ data ++ r.data.drop (offset + data.length) := by
    calc ({ r with data := splice r.data offset data } : RamEntry).bytes
      _ = header ++ splice r.data offset data := by
        simp only [RamEntry.bytes, length_splice hle, hheader]
      _ = _ := by simp only [splice, append_assoc]
  have hw := h.write_entry hold hnew hlen.symm
  rwa [hxs] at hw

/-! ## Saving and restoring -/

lemma nvUpdateIndexOrderlyData_eq (h : RamRep s.indexOrderlyRam rs) :
    ∃ nv', nvUpdateIndexOrderlyData s = ((), s.withNv nv') ∧ BackupRep nv' rs ∧
      ∀ a, a < NV_INDEX_RAM_DATA ∨ NV_USER_DYNAMIC ≤ a → nv' a = s.nv a := by
  have hlen : (s.indexOrderlyRam.read 0 RAM_INDEX_SPACE).length = RAM_INDEX_SPACE := by simp
  refine ⟨s.nv.write NV_INDEX_RAM_DATA (s.indexOrderlyRam.read 0 RAM_INDEX_SPACE), ?_, ?_, ?_⟩
  · have hin : NV_INDEX_RAM_DATA + (s.indexOrderlyRam.read 0 RAM_INDEX_SPACE).length ≤
        NV_MEMORY_SIZE := by rw [hlen]; decide
    have hw := nvWrite_eq (s := s) _ hin
    simp [nvUpdateIndexOrderlyData, hw]
  · refine RamRep.congr h fun a ha => ?_
    have hin : a < (s.indexOrderlyRam.read 0 RAM_INDEX_SPACE).length := by rwa [hlen]
    rw [Mem.write_inside hin, Mem.getElem_read, Nat.zero_add]
  · intro a ha
    refine Mem.write_outside ?_
    rw [hlen]
    simp only [NV_INDEX_RAM_DATA, NV_USER_DYNAMIC, RAM_INDEX_SPACE] at ha ⊢
    omega

lemma BackupRep.restore {nv ram : Mem} (h : BackupRep nv rs) :
    RamRep (ram.write 0 (nv.read NV_INDEX_RAM_DATA RAM_INDEX_SPACE)) rs := by
  refine RamRep.congr h fun a ha => ?_
  have hin : a < (nv.read NV_INDEX_RAM_DATA RAM_INDEX_SPACE).length := by simpa using ha
  have hw : ram.write 0 _ (0 + a) = _ := Mem.write_inside hin
  rw [Nat.zero_add] at hw
  rw [hw, Mem.getElem_read]

end RfTpm
