import RfTpm.Nv.IndexSpec

/-!
# Changing an index in place

Writes to the attributes or the data of an index that is already defined.  None of
them moves an entry, so each replaces one slot of the table by another of the same
size and handle.

A plain index is written in NV, and only if NV is available and the bytes differ.  An
orderly index is written in RAM and the backing store keeps its old copy: which
requests (`g_updateNV`, `g_clearOrderly`) accompany such a write is what the results
about restarts turn on, so every lemma here states them.
-/

namespace RfTpm

open Bytes TpmaNv List

variable {s s' : Nv} {ts ts' pre post : List Slot} {t : Slot} {x : NvIndex} {maxCount : UInt64}

/-! ## Slots with one part replaced -/

/-- A plain slot with other attributes. -/
def PlainSlot.withAttributes (p : PlainSlot) (a : TpmaNv)
    (h : a.static = p.info.attributes.static) : PlainSlot where
  info := p.info.withAttributes a
  data := p.data
  length_data := by rw [p.length_data, NvIndex.storedSize_withAttributes (orderly_congr h)]
  isIndex := p.isIndex
  counter_size hc := p.counter_size (by rwa [← isNvCounterIndex_congr h])
  not_orderly := (orderly_congr h).trans p.not_orderly

/-- An orderly slot with another RAM entry. -/
def OrderlySlot.withLive (o : OrderlySlot) (r : RamEntry) (h : Matches o.info r) : OrderlySlot :=
  { o with live := r, matches_live := h }

/-! ## Changes that keep the terminator -/

/-- The state `s'` represents `ts'`, and outside the table nothing but the cached
description differs from `s`. -/
structure Updates (s s' : Nv) (ts' : List Slot) (maxCount : UInt64) : Prop where
  rep : Rep s' ts' maxCount
  frame : Frame s s'
  failure : s'.inFailureMode = s.inFailureMode
  maxCounter : s'.maxCounter = s.maxCounter
  ref : s'.cachedNvRef = s.cachedNvRef
  ramRef : s'.cachedNvRamRef = s.cachedNvRamRef

lemma Updates.refl (h : Rep s ts maxCount) : Updates s s ts maxCount :=
  ⟨h, .refl s, rfl, rfl, rfl, rfl⟩

lemma Updates.trans {s'' : Nv} (h : Updates s s' ts maxCount)
    (h' : Updates s' s'' ts' maxCount) : Updates s s'' ts' maxCount :=
  ⟨h'.rep, h.frame.trans h'.frame, h'.failure.trans h.failure,
    h'.maxCounter.trans h.maxCounter, h'.ref.trans h.ref, h'.ramRef.trans h.ramRef⟩

lemma slotHandles_replace {t' : Slot} (h : t'.handle = t.handle) :
    slotHandles (pre ++ t' :: post) = slotHandles (pre ++ t :: post) := by
  simp [h]

/-- The entry of a slot in the dynamic area replaced by one of the same index. -/
structure SameRam (t t' : Slot) : Prop where
  handle : t'.handle = t.handle
  live : t'.live = t.live
  saved : t'.saved = t.saved

lemma SameRam.plain {p p' : PlainSlot} (h : p'.info.handle = p.info.handle) :
    SameRam (.plain p) (.plain p') := ⟨h, rfl, rfl⟩

lemma Rep.replaceEntry {t' : Slot} (h : Rep s (pre ++ t :: post) maxCount) (hram : SameRam t t')
    {nv : Mem} (hdyn : DynRep nv (entries pre ++ t'.entry :: entries post) maxCount)
    (hbelow : ∀ a, a < NV_USER_DYNAMIC → nv a = s.nv a) :
    Updates s (s.withNv nv) (pre ++ t' :: post) maxCount where
  rep := h.setNv (by simpa using hdyn) hbelow
    (by simp only [liveRam, filterMap_append, filterMap_cons, hram.live])
    (by simp only [savedRam, filterMap_append, filterMap_cons, hram.saved])
    (by rw [slotHandles_replace hram.handle]; exact h.nodup)
  frame := Frame.withNv fun a ha => hbelow a (ha.trans (by decide))
  failure := rfl
  maxCounter := rfl
  ref := rfl
  ramRef := rfl

/-! ## Conditional writes -/

lemma nvConditionallyWrite_available {a : ℕ} (bs : Bytes)
    (hle : a + bs.length ≤ NV_MEMORY_SIZE) (hstatus : s.nvStatus = TPM_RC_SUCCESS) :
    nvConditionallyWrite a bs s =
      (TPM_RC_SUCCESS, if s.nv.read a bs.length = bs then s else s.withNv (s.nv.write a bs)) := by
  by_cases heq : s.nv.read a bs.length = bs
  · simp [nvConditionallyWrite, hle, heq]
  · have hw := nvWrite_eq (s := s) bs hle
    simp [nvConditionallyWrite, hle, heq, hstatus, hw]

lemma Rep.entry_part (h : Rep s (pre ++ t :: post) maxCount) {xs ys zs : Bytes}
    (ht : t.entry.bytes = xs ++ ys ++ zs) :
    s.nv.HasAt (listEnd (entries pre) + xs.length) ys ∧
      listEnd (entries pre) + xs.length + ys.length ≤ NV_MEMORY_SIZE := by
  have hentry := h.dyn_split.entry
  have hend := h.dyn_split.entry_end_le
  rw [← NvEntry.length_bytes, ht] at hend
  rw [ht, Mem.hasAt_append, Mem.hasAt_append] at hentry
  simp only [length_append] at hend
  exact ⟨hentry.1.2, by omega⟩

lemma nvConditionallyWrite_entry {t' : Slot} (h : Rep s (pre ++ t :: post) maxCount)
    (hram : SameRam t t') {xs ys zs ws : Bytes} (ht : t.entry.bytes = xs ++ ys ++ zs)
    (ht' : t'.entry.bytes = xs ++ ws ++ zs) (hlen : ws.length = ys.length)
    (hsame : ys = ws → t' = t) (hstatus : s.nvStatus = TPM_RC_SUCCESS) :
    ∃ s', nvConditionallyWrite (listEnd (entries pre) + xs.length) ws s = (TPM_RC_SUCCESS, s') ∧
      Updates s s' (pre ++ t' :: post) maxCount ∧ (ys ≠ ws → s'.updateNv ≠ .none) := by
  obtain ⟨hys, hend⟩ := h.entry_part ht
  rw [nvConditionallyWrite_available ws (by rwa [hlen]) hstatus, hys.read' hlen]
  refine ⟨_, rfl, ?_⟩
  by_cases heq : ys = ws
  · rw [if_pos heq, hsame heq]
    exact ⟨.refl h, fun hne => absurd heq hne⟩
  · rw [if_neg heq]
    refine ⟨h.replaceEntry hram (h.dyn_split.write_entry ht ht' hlen) fun a ha => ?_,
      fun _ => UpdateType.lor_nv_ne_none _⟩
    refine Mem.write_outside (Or.inl (ha.trans_le ?_))
    exact (listEnd_ge _).trans (Nat.le_add_right ..)

/-! ## Attributes -/

lemma PlainSlot.bytes_attributes (p : PlainSlot) {a : TpmaNv}
    (h : a.static = p.info.attributes.static) :
    (NvEntry.index (p.withAttributes a h).toIndexEntry).bytes =
      leBytes 4 (4 + (NvEntry.index p.toIndexEntry).body.length) ++ p.info.headBytes ++
        leBytes 4 a.toNat ++ (p.info.midBytes ++ p.info.authValue.toBytes ++ [0, 0] ++ p.data) := by
  simp only [NvEntry.bytes, NvEntry.body, length_append, NvIndex.length_toBytes]
  simp only [NvIndex.toBytes, append_assoc]
  rfl

lemma leBytes_attributes_inj {a b : TpmaNv} (h : leBytes 4 a.toNat = leBytes 4 b.toNat) :
    a = b :=
  BitVec.eq_of_toNat_eq (leBytes_inj a.isLt b.isLt h)

lemma nvWriteNvIndexAttributes_available {p : PlainSlot}
    (h : Rep s (pre ++ .plain p :: post) maxCount) {a : TpmaNv}
    (ha : a.static = p.info.attributes.static) (hstatus : s.nvStatus = TPM_RC_SUCCESS) :
    ∃ s', nvWriteNvIndexAttributes (listEnd (entries pre) + 4) a s = (TPM_RC_SUCCESS, s') ∧
      Updates s s' (pre ++ .plain (p.withAttributes a ha) :: post) maxCount ∧
      (p.info.attributes ≠ a → s'.updateNv ≠ .none) := by
  have hsame : leBytes 4 p.info.attributes.toNat = leBytes 4 a.toNat →
      Slot.plain (p.withAttributes a ha) = .plain p := by
    intro heq
    obtain rfl := leBytes_attributes_inj heq
    rfl
  have hram : SameRam (.plain p) (.plain (p.withAttributes a ha)) := .plain rfl
  obtain ⟨s', hw, hup, hne⟩ := nvConditionallyWrite_entry h hram
    (p.bytes_attributes (a := p.info.attributes) rfl) (p.bytes_attributes ha) (by simp) hsame
    hstatus
  refine ⟨s', ?_, hup, fun hab => hne fun heq => hab (leBytes_attributes_inj heq)⟩
  simpa [nvWriteNvIndexAttributes] using hw

end RfTpm
