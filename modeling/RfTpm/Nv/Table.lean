import RfTpm.Nv.RamSpec

/-!
# The table of entities

What the NV code implements is one table: a list of slots, in the order of the
dynamic area.  A slot is a plain index with its data, an orderly index with the
live copy of its attributes and data in RAM and the copy saved in NV, or a
persistent object.  That the two copies belong to the index (`Matches`) is part of
the slot, so a table cannot be built whose RAM list disagrees with its NV list.

`Rep s ts maxCount` says that the state `s` represents the table `ts`: the dynamic
area holds its entries, the RAM its live copies, and the backing store its saved
copies unless a save of the whole RAM has been requested and not yet made.
-/

namespace RfTpm

open TpmaNv List

/-! ## Attributes that never change -/

namespace TpmaNv

/-- The attribute bits that are fixed when an index is defined: all but `WRITTEN`,
`WRITELOCKED` and `READLOCKED`. -/
def staticMask : TpmaNv :=
  ~~~ (BitVec.twoPow 32 WRITELOCKED ||| BitVec.twoPow 32 READLOCKED ||| BitVec.twoPow 32 WRITTEN)

/-- The fixed attribute bits. -/
def static (a : TpmaNv) : TpmaNv := a &&& staticMask

variable {a b : TpmaNv}

lemma isSet_congr (h : a.static = b.static) {i : ℕ} (hi : staticMask.getLsbD i = true) :
    a.isSet i = b.isSet i := by
  have hbit := congrArg (fun x => BitVec.getLsbD x i) h
  simpa [static, BitVec.getLsbD_and, hi, isSet] using hbit

lemma getTpmNt_congr (h : a.static = b.static) : a.getTpmNt = b.getTpmNt := by
  apply BitVec.eq_of_getLsbD_eq
  intro i hi
  have hmask : staticMask.getLsbD (4 + i) = true := by
    interval_cases i <;> decide
  have hbit := isSet_congr h hmask
  simp only [isSet] at hbit
  simp [getTpmNt, BitVec.getLsbD_extractLsb', hbit]

lemma isNvCounterIndex_congr (h : a.static = b.static) :
    isNvCounterIndex a = isNvCounterIndex b := by
  rw [isNvCounterIndex, isNvCounterIndex, getTpmNt_congr h]

lemma static_clear {bit : ℕ} (h : staticMask.getLsbD bit = false) :
    (a.clear bit).static = a.static := by
  apply BitVec.eq_of_getLsbD_eq
  intro i hi
  simp only [static, clear, BitVec.getLsbD_and, BitVec.getLsbD_not, BitVec.getLsbD_twoPow, hi]
  by_cases hib : bit = i
  · subst hib
    simp [h]
  · simp [hib]

end TpmaNv

lemma static_nvSetStartupAttributes (a : TpmaNv) (type : StartupType) :
    (nvSetStartupAttributes a type).static = a.static := by
  have hread : staticMask.getLsbD READLOCKED = false := by decide
  have hwrit : staticMask.getLsbD WRITTEN = false := by decide
  have hlock : staticMask.getLsbD WRITELOCKED = false := by decide
  simp only [nvSetStartupAttributes]
  split <;> split <;> simp only [static_clear, hread, hwrit, hlock]

/-! ## Slots -/

/-- The RAM entry `r` belongs to the index described by `x`. -/
structure Matches (x : NvIndex) (r : RamEntry) : Prop where
  handle : r.handle = x.handle
  length_data : r.data.length = x.dataSize
  static : r.attributes.static = x.attributes.static

/-- An index whose data is in the dynamic area. -/
structure PlainSlot extends IndexEntry where
  not_orderly : info.orderly = false

/-- An index whose attributes and data are in RAM (`live`), with the copy of them in
the backing store (`saved`). -/
structure OrderlySlot extends IndexEntry where
  orderly : info.orderly = true
  live : RamEntry
  saved : RamEntry
  matches_live : Matches info live
  matches_saved : Matches info saved

/-- A slot of the table. -/
inductive Slot where
  | plain (slot : PlainSlot)
  | orderly (slot : OrderlySlot)
  | evict (entry : EvictEntry)

namespace Slot

/-- The entry of a slot in the dynamic area. -/
def entry : Slot → NvEntry
  | plain p => .index p.toIndexEntry
  | orderly o => .index o.toIndexEntry
  | evict e => .evict e

/-- The handle of a slot. -/
def handle (t : Slot) : TpmHandle := t.entry.handle

/-- The live RAM entry of a slot. -/
def live : Slot → Option RamEntry
  | orderly o => some o.live
  | plain _ => none
  | evict _ => none

/-- The saved RAM entry of a slot. -/
def saved : Slot → Option RamEntry
  | orderly o => some o.saved
  | plain _ => none
  | evict _ => none

@[simp]
lemma entry_plain (p : PlainSlot) : (plain p).entry = .index p.toIndexEntry := rfl

@[simp]
lemma entry_orderly (o : OrderlySlot) : (orderly o).entry = .index o.toIndexEntry := rfl

@[simp]
lemma entry_evict (e : EvictEntry) : (evict e).entry = .evict e := rfl

@[simp]
lemma live_plain (p : PlainSlot) : (plain p).live = none := rfl

@[simp]
lemma live_orderly (o : OrderlySlot) : (orderly o).live = some o.live := rfl

@[simp]
lemma live_evict (e : EvictEntry) : (evict e).live = none := rfl

lemma handle_of_live {t : Slot} {r : RamEntry} (h : t.live = some r) : r.handle = t.handle := by
  cases t with
  | plain p => simp at h
  | evict e => simp at h
  | orderly o =>
    obtain rfl : o.live = r := by simpa using h
    exact o.matches_live.handle

end Slot

/-- The entries of a table in the dynamic area. -/
def entries (ts : List Slot) : List NvEntry := ts.map Slot.entry

/-- The RAM entries of a table. -/
def liveRam (ts : List Slot) : List RamEntry := ts.filterMap Slot.live

/-- The saved RAM entries of a table. -/
def savedRam (ts : List Slot) : List RamEntry := ts.filterMap Slot.saved

/-- The handles of a table. -/
def slotHandles (ts : List Slot) : List TpmHandle := ts.map Slot.handle

section Lists

variable (xs ys : List Slot) (t : Slot)

@[simp]
lemma entries_append : entries (xs ++ ys) = entries xs ++ entries ys := map_append

@[simp]
lemma entries_cons : entries (t :: xs) = t.entry :: entries xs := rfl

@[simp]
lemma entries_nil : entries [] = [] := rfl

@[simp]
lemma liveRam_append : liveRam (xs ++ ys) = liveRam xs ++ liveRam ys := filterMap_append

@[simp]
lemma liveRam_nil : liveRam [] = [] := rfl

@[simp]
lemma savedRam_append : savedRam (xs ++ ys) = savedRam xs ++ savedRam ys :=
  filterMap_append

@[simp]
lemma savedRam_nil : savedRam [] = [] := rfl

@[simp]
lemma liveRam_orderly (o : OrderlySlot) : liveRam (.orderly o :: xs) = o.live :: liveRam xs := rfl

@[simp]
lemma liveRam_plain (p : PlainSlot) : liveRam (.plain p :: xs) = liveRam xs := rfl

@[simp]
lemma liveRam_evict (e : EvictEntry) : liveRam (.evict e :: xs) = liveRam xs := rfl

@[simp]
lemma savedRam_plain (p : PlainSlot) : savedRam (.plain p :: xs) = savedRam xs := rfl

@[simp]
lemma savedRam_evict (e : EvictEntry) : savedRam (.evict e :: xs) = savedRam xs := rfl

@[simp]
lemma slotHandles_append : slotHandles (xs ++ ys) = slotHandles xs ++ slotHandles ys :=
  map_append

@[simp]
lemma slotHandles_cons : slotHandles (t :: xs) = t.handle :: slotHandles xs := rfl

@[simp]
lemma slotHandles_nil : slotHandles [] = [] := rfl

lemma handles_entries : handles (entries xs) = slotHandles xs := by
  simp [handles, entries, slotHandles, Slot.handle]

end Lists

lemma mem_slotHandles_of_mem_ramHandles {ts : List Slot} {h : TpmHandle}
    (hh : h ∈ ramHandles (liveRam ts)) : h ∈ slotHandles ts := by
  obtain ⟨r, hr, rfl⟩ := mem_map.1 hh
  obtain ⟨t, ht, hlive⟩ := mem_filterMap.1 hr
  rw [t.handle_of_live hlive]
  exact mem_map_of_mem ht

lemma exists_split_of_mem {ts : List Slot} {h : TpmHandle} (hh : h ∈ slotHandles ts) :
    ∃ pre t post, ts = pre ++ t :: post ∧ t.handle = h := by
  obtain ⟨t, ht, rfl⟩ := mem_map.1 hh
  obtain ⟨pre, post, rfl⟩ := append_of_mem ht
  exact ⟨pre, t, post, rfl, rfl⟩

/-! ## Representation -/

/-- The state `s` represents the table `ts`, with the maximum counter `maxCount` in
the terminator of the list. -/
structure Rep (s : Nv) (ts : List Slot) (maxCount : UInt64) : Prop where
  dyn : DynRep s.nv (entries ts) maxCount
  ram : RamRep s.indexOrderlyRam (liveRam ts)
  backup : s.updateNv = .orderly ∨ BackupRep s.nv (savedRam ts)
  nodup : (slotHandles ts).Nodup
  evictEnd : s.evictNvEnd = NV_MEMORY_SIZE

namespace Rep

variable {s : Nv} {pre post ts : List Slot} {t : Slot} {maxCount : UInt64}

lemma dyn_split (h : Rep s (pre ++ t :: post) maxCount) :
    DynRep s.nv (entries pre ++ t.entry :: entries post) maxCount := by
  simpa using h.dyn

lemma handle_notMem (h : Rep s (pre ++ t :: post) maxCount) : t.handle ∉ slotHandles pre := by
  have hnodup := h.nodup
  rw [slotHandles_append, slotHandles_cons, nodup_append] at hnodup
  intro hmem
  exact hnodup.2.2 _ hmem _ (by simp) rfl

lemma find (h : Rep s (pre ++ t :: post) maxCount) :
    nvFindHandle t.handle s = (listEnd (entries pre) + 4, s) := by
  refine nvFindHandle_of_split h.dyn_split ?_
  rw [handles_entries]
  exact h.handle_notMem

lemma find_none (h : Rep s ts maxCount) {handle : TpmHandle} (hh : handle ∉ slotHandles ts) :
    nvFindHandle handle s = (0, s) := by
  refine nvFindHandle_of_not_mem h.dyn ?_
  rwa [handles_entries]

variable {o : OrderlySlot}

lemma ram_split (h : Rep s (pre ++ .orderly o :: post) maxCount) :
    RamRep s.indexOrderlyRam (liveRam pre ++ o.live :: liveRam post) := by
  simpa using h.ram

lemma live_handle_notMem (h : Rep s (pre ++ .orderly o :: post) maxCount) :
    o.live.handle ∉ ramHandles (liveRam pre) := by
  intro hmem
  have hslot := mem_slotHandles_of_mem_ramHandles hmem
  rw [Slot.handle_of_live (t := .orderly o) rfl] at hslot
  exact h.handle_notMem hslot

lemma findRam (h : Rep s (pre ++ .orderly o :: post) maxCount) :
    nvRamGetIndex o.info.handle s = (some (ramSize (liveRam pre)), s) := by
  rw [← o.matches_live.handle]
  exact nvRamGetIndex_of_split h.ram_split h.live_handle_notMem

end Rep

/-- What the functions of the NV code leave alone.  An update request is never
withdrawn, and without one the image has not changed. -/
structure Frame (s s' : Nv) : Prop where
  file : s'.file = s.file
  nvStatus : s'.nvStatus = s.nvStatus
  orderlyState : s'.orderlyState = s.orderlyState
  prevOrderlyState : s'.prevOrderlyState = s.prevOrderlyState
  shEnable : s'.shEnable = s.shEnable
  phEnableNv : s'.phEnableNv = s.phEnableNv
  power : s'.power = s.power
  below : ∀ a, a < NV_INDEX_RAM_DATA → s'.nv a = s.nv a
  clearOrderly : s.clearOrderly = true → s'.clearOrderly = true
  orderly : s.updateNv = .orderly → s'.updateNv = .orderly
  touched : s'.updateNv = .none → s.updateNv = .none ∧ s'.nv = s.nv

namespace Frame

variable {s s' s'' : Nv}

lemma refl (s : Nv) : Frame s s :=
  ⟨rfl, rfl, rfl, rfl, rfl, rfl, rfl, fun _ _ => rfl, id, id, fun h => ⟨h, rfl⟩⟩

lemma trans (h : Frame s s') (h' : Frame s' s'') : Frame s s'' where
  file := h'.file.trans h.file
  nvStatus := h'.nvStatus.trans h.nvStatus
  orderlyState := h'.orderlyState.trans h.orderlyState
  prevOrderlyState := h'.prevOrderlyState.trans h.prevOrderlyState
  shEnable := h'.shEnable.trans h.shEnable
  phEnableNv := h'.phEnableNv.trans h.phEnableNv
  power := h'.power.trans h.power
  below a ha := (h'.below a ha).trans (h.below a ha)
  clearOrderly hs := h'.clearOrderly (h.clearOrderly hs)
  orderly hs := h'.orderly (h.orderly hs)
  touched hs := by
    obtain ⟨h1, h2⟩ := h'.touched hs
    obtain ⟨h3, h4⟩ := h.touched h1
    exact ⟨h3, h2.trans h4⟩

end Frame

end RfTpm
