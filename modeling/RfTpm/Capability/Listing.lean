import RfTpm.Capability.Handles
import RfTpm.Nv.History

/-!
# The sorted lists of NV handles

`NvCapGetPersistent()` and `NvCapGetIndex()` walk over the entities in the order in which they
are stored and keep the least handles so far in a list of bounded length.  Such a list is the
front of the list that would be kept without a bound (`insertSort_take`), so the loop returns the
front of the sorted list of all handles from the start handle on, and says that there are more if
that list is longer.
-/

namespace RfTpm.Capability

open Packed List

/-! ## Sorting by insertion -/

/-- The list of all handles, kept in order. -/
def sortHandles (hs : List TpmHandle) : List TpmHandle :=
  hs.foldl (fun l e => l.orderedInsert (· < ·) e) []

lemma orderedInsert_eq (e : TpmHandle) (l : List TpmHandle) :
    l.orderedInsert (· < ·) e =
      l.take (l.findIdx (· > e)) ++ e :: l.drop (l.findIdx (· > e)) := by
  rw [orderedInsert_eq_take_drop, takeWhile_eq_take_findIdx_not,
    dropWhile_eq_drop_findIdx_not]
  simp only [decide_not, Bool.not_not]

/-- `InsertSort()` on the front of a list gives the front of the list with the handle in its
place. -/
lemma insertSort_take (count : ℕ) (e : TpmHandle) (l : List TpmHandle) :
    insertSort count e (l.take count) = (l.orderedInsert (· < ·) e).take count := by
  rw [orderedInsert_eq]
  unfold insertSort
  rcases Nat.eq_zero_or_pos count with rfl | hcount
  · simp
  obtain ⟨m, rfl⟩ := Nat.exists_eq_add_one_of_ne_zero hcount.ne'
  rw [if_neg (by omega)]
  by_cases hempty : (l.take (m + 1)).length = 0
  · have hnil : l = [] := by simpa using hempty
    simp [hnil]
  rw [if_neg hempty]
  dsimp only
  rw [findIdx_take]
  generalize hi : l.findIdx (· > e) = i
  have hle : i ≤ l.length := hi ▸ findIdx_le_length
  have hlength : (l.take i ++ e :: l.drop i).length = l.length + 1 := by simp; omega
  rcases Nat.lt_or_ge l.length (m + 1) with hroom | hfull
  · -- the list has not reached its bound: nothing is lost
    have hwhole : l.take (m + 1) = l := take_of_length_le hroom.le
    rw [hwhole, if_pos hroom, Nat.min_eq_right (by omega), take_of_length_le hlength.le]
    exact (take_of_length_le (by omega)).symm
  · rw [length_take, Nat.min_eq_left hfull, if_neg (by omega)]
    rcases Nat.lt_or_ge m i with hbehind | hinside
    · -- the place of the handle is behind the front
      rw [Nat.min_eq_left (by omega), take_take, Nat.min_self,
        take_left' (by simp; omega),
        take_append_of_le_length (by simp; omega), take_take, Nat.min_eq_left (by omega)]
    · have hlost : ((l.drop i).take (m + 1 - i)).take (m - i) = (l.drop i).take (m - i) := by
        rw [take_take, Nat.min_eq_left (by omega)]
      rw [Nat.min_eq_right (by omega), take_take, Nat.min_eq_left (by omega), drop_take,
        take_append, take_append, length_take, Nat.min_eq_left hle]
      rw [Nat.succ_sub hinside] at hlost ⊢
      rw [take_succ_cons, take_succ_cons, hlost]

variable {e : TpmHandle} {l hs : List TpmHandle}

lemma pairwise_orderedInsert (h : l.Pairwise (· ≤ ·)) :
    (l.orderedInsert (· < ·) e).Pairwise (· ≤ ·) := by
  induction l with
  | nil => simp
  | cons a l ih =>
    rw [pairwise_cons] at h
    rw [orderedInsert]
    split_ifs with hlt
    · refine pairwise_cons.mpr ⟨fun b hb => ?_, pairwise_cons.mpr h⟩
      rcases mem_cons.mp hb with rfl | hb
      · exact UInt32.le_of_lt hlt
      · exact UInt32.le_trans (UInt32.le_of_lt hlt) (h.1 b hb)
    · refine pairwise_cons.mpr ⟨fun b hb => ?_, ih h.2⟩
      rcases (mem_orderedInsert _).mp hb with rfl | hb
      · exact UInt32.not_lt.mp hlt
      · exact h.1 b hb

lemma sortHandles_concat (hs : List TpmHandle) (e : TpmHandle) :
    sortHandles (hs ++ [e]) = (sortHandles hs).orderedInsert (· < ·) e := by
  simp [sortHandles]

lemma perm_sortHandles (hs : List TpmHandle) : (sortHandles hs).Perm hs := by
  induction hs using reverseRecOn with
  | nil => rfl
  | append_singleton hs e ih =>
    rw [sortHandles_concat]
    exact (perm_orderedInsert _ _ _).trans
      ((ih.cons e).trans (perm_append_singleton e hs).symm)

lemma pairwise_sortHandles (hs : List TpmHandle) : (sortHandles hs).Pairwise (· ≤ ·) := by
  induction hs using reverseRecOn with
  | nil => exact List.Pairwise.nil
  | append_singleton hs e ih =>
    rw [sortHandles_concat]
    exact pairwise_orderedInsert ih

lemma strict_sortHandles (h : hs.Nodup) : (sortHandles hs).Pairwise (· < ·) := by
  have hnodup : (sortHandles hs).Nodup := (perm_sortHandles hs).nodup_iff.mpr h
  refine (List.Pairwise.and (pairwise_sortHandles hs) hnodup).imp ?_
  intro a b hab
  exact UInt32.lt_of_le_of_ne hab.1 hab.2

lemma eq_sortHandles (hperm : l.Perm hs) (hsorted : l.Pairwise (· ≤ ·)) : l = sortHandles hs :=
  List.Perm.eq_of_pairwise (fun _ _ _ _ => UInt32.le_antisymm) hsorted (pairwise_sortHandles hs)
    (hperm.trans (perm_sortHandles hs).symm)

/-! ## What the loops return -/

variable {s : Nv} {es : List NvEntry} {maxCount : UInt64} {type count : ℕ} {handle : TpmHandle}

/-- The handles of a type, as they are stored. -/
def typedHandles (type : ℕ) (es : List NvEntry) : List TpmHandle :=
  (typedNodes type es).map fun n => n.2.handle

/-- Those from the start handle on. -/
def matching (type : ℕ) (es : List NvEntry) (handle : TpmHandle) : List TpmHandle :=
  (typedHandles type es).filter (handle ≤ ·)

lemma foldl_capInsert (hs : List TpmHandle) :
    hs.foldl (capInsert handle count) ⟨[], false⟩ =
      ⟨(sortHandles (hs.filter (handle ≤ ·))).take count,
        decide (count < (hs.filter (handle ≤ ·)).length)⟩ := by
  induction hs using reverseRecOn with
  | nil => simp [sortHandles]
  | append_singleton hs e ih =>
    rw [foldl_append, ih, foldl_cons, foldl_nil, capInsert, filter_append]
    split_ifs with hlt
    · simp [UInt32.not_le.mpr hlt]
    · have hlength := (perm_sortHandles (hs.filter (handle ≤ ·))).length_eq
      have hone : [e].filter (handle ≤ ·) = [e] := by simp [UInt32.not_lt.mp hlt]
      rw [hone, sortHandles_concat, ← insertSort_take, length_take, hlength,
        length_append, length_singleton]
      congr 1
      generalize (hs.filter _).length = n
      rw [Bool.eq_iff_iff]
      simp
      omega

lemma nvCapGet_eq (h : DynRep s.nv es maxCount) (htype : handleGetType handle = type) :
    nvCapGet type handle count s =
      (⟨(sortHandles (matching type es handle)).take (capCount count),
        decide (capCount count < (matching type es handle).length)⟩, s) := by
  obtain ⟨e', hchain⟩ := h.typedChain type
  have hloop := loop_chain hchain
    (fun node list => (pure (capInsert handle (capCount count) list node.handle, true) : NvM _))
    (fun list n => capInsert handle (capCount count) list n.2.handle) (fun _ _ _ => rfl)
    (typedNodes_fuel h _) ⟨[], false⟩
  rw [matching, ← foldl_capInsert, typedHandles, foldl_map, nvCapGet, htype,
    beq_self_eq_true, pAssert_true, NvM.bind_apply, NvM.pure_apply, nvForEach, hloop]

/-- Calls of a list function, each from behind the last handle of the one before, until there are
no more handles. -/
def enumerate (list : TpmHandle → ℕ → NvM HandleList) (count : ℕ) :
    ℕ → TpmHandle → Nv → List TpmHandle × Nv
  | 0, _, s => ([], s)
  | fuel + 1, handle, s =>
    let r := list handle count s
    match r.1.more, r.1.handles.getLast? with
    | true, some last =>
      let rest := enumerate list count fuel (last + 1) r.2
      (r.1.handles ++ rest.1, rest.2)
    | _, _ => (r.1.handles, r.2)

lemma mem_matching : e ∈ matching type es handle ↔ e ∈ typedHandles type es ∧ handle ≤ e := by
  simp [matching]

lemma handleGetType_of_mem (h : e ∈ typedHandles type es) : handleGetType e = type := by
  obtain ⟨n, hn, rfl⟩ := mem_map.mp h
  exact beq_iff_eq.mp (mem_filter.mp hn).2

lemma typedHandles_eq (type : ℕ) (es : List NvEntry) :
    typedHandles type es = (handles es).filter fun h => handleGetType h == type := by
  conv_rhs => rw [handles, ← map_snd_nodes NvEntry.bytes NV_USER_DYNAMIC es, map_map, filter_map]
  rfl

lemma nodup_typedHandles (h : (handles es).Nodup) : (typedHandles type es).Nodup := by
  rw [typedHandles_eq]
  exact h.filter _

/-- Behind the front of the sorted list come the handles that a call from behind its last one
lists. -/
lemma sorted_behind {last : TpmHandle} (hnodup : (typedHandles type es).Nodup)
    (hlast : ((sortHandles (matching type es handle)).take count).getLast? = some last)
    (hmore : count < (matching type es handle).length) :
    handleGetType (last + 1) = type ∧
      sortHandles (matching type es (last + 1)) =
        (sortHandles (matching type es handle)).drop count := by
  set sorted := sortHandles (matching type es handle) with hsorted
  have hperm : sorted.Perm (matching type es handle) := perm_sortHandles _
  have hstrict : sorted.Pairwise (· < ·) := strict_sortHandles (hnodup.filter _)
  have hsplit : sorted.take count ++ sorted.drop count = sorted := take_append_drop ..
  have hcross : ∀ a ∈ sorted.take count, ∀ b ∈ sorted.drop count, a < b := by
    rw [← hsplit, pairwise_append] at hstrict
    exact hstrict.2.2
  have hmem := mem_of_getLast? hlast
  obtain ⟨front, hfront⟩ := getLast?_eq_some_iff.mp hlast
  have hle : ∀ a ∈ sorted.take count, a ≤ last := by
    have hascending := hstrict.sublist (take_sublist count sorted)
    rw [hfront, pairwise_append] at hascending
    intro a ha
    rw [hfront, mem_append, mem_singleton] at ha
    rcases ha with ha | rfl
    · exact UInt32.le_of_lt (hascending.2.2 a ha last (mem_singleton_self _))
    · exact UInt32.le_refl _
  -- there is a handle behind the front, so that `last + 1` does not wrap
  obtain ⟨b, hb⟩ : ∃ b, b ∈ sorted.drop count := by
    refine exists_mem_of_length_pos ?_
    rw [length_drop, hperm.length_eq]
    omega
  have hlt := hcross last hmem b hb
  have hsucc : (last + 1).toNat = last.toNat + 1 := by
    have hbound := b.toNat_lt
    rw [UInt32.lt_iff_toNat_lt] at hlt
    rw [UInt32.toNat_add]
    exact Nat.mod_eq_of_lt (by simp; omega)
  have hbmem := mem_matching.mp (hperm.mem_iff.mp (mem_of_mem_drop hb))
  have hlmem := mem_matching.mp (hperm.mem_iff.mp (mem_of_mem_take hmem))
  have hfilter : sorted.filter (last + 1 ≤ ·) = sorted.drop count := by
    rw [← hsplit, filter_append, filter_eq_nil_iff.mpr, nil_append, hsplit]
    · refine filter_eq_self.mpr fun c hc => ?_
      have := UInt32.lt_iff_toNat_lt.mp (hcross last hmem c hc)
      simp [UInt32.le_iff_toNat_le, hsucc]
      omega
    · intro a ha
      have := UInt32.le_iff_toNat_le.mp (hle a ha)
      simp [UInt32.lt_iff_toNat_lt, hsucc]
      omega
  have hnext : matching type es (last + 1) =
      (matching type es handle).filter (last + 1 ≤ ·) := by
    rw [matching, matching, filter_filter]
    refine filter_congr fun c _ => ?_
    have hstart := UInt32.le_iff_toNat_le.mp hlmem.2
    rw [Bool.eq_iff_iff]
    simp [UInt32.le_iff_toNat_le, hsucc]
    omega
  refine ⟨?_, ?_⟩
  · have htype := handleGetType_of_mem hbmem.1
    have htype' := handleGetType_of_mem hlmem.1
    rw [UInt32.lt_iff_toNat_lt] at hlt
    unfold handleGetType at htype htype' ⊢
    rw [hsucc]
    omega
  · refine (eq_sortHandles ?_ ?_).symm
    · rw [hnext, ← hfilter]
      exact hperm.filter _
    · exact (pairwise_sortHandles _).sublist (drop_sublist _ _)

lemma enumerate_eq (h : DynRep s.nv es maxCount) (hnodup : (typedHandles type es).Nodup)
    (hcount : 0 < count) (fuel : ℕ) (htype : handleGetType handle = type)
    (hfuel : (matching type es handle).length < fuel) :
    enumerate (nvCapGet type) count fuel handle s = (sortHandles (matching type es handle), s) := by
  have hcap : 0 < capCount count := by
    unfold capCount MAX_CAP_HANDLES
    split_ifs <;> omega
  induction fuel generalizing handle with
  | zero => omega
  | succ fuel ih =>
    have hlength := (perm_sortHandles (matching type es handle)).length_eq
    rw [enumerate, nvCapGet_eq h htype]
    dsimp only
    by_cases hmore : capCount count < (matching type es handle).length
    · obtain ⟨last, hlast⟩ : ∃ last,
          ((sortHandles (matching type es handle)).take (capCount count)).getLast? = some last := by
        refine Option.isSome_iff_exists.mp (getLast?_isSome.mpr fun hnil => ?_)
        have hzero := congrArg length hnil
        rw [length_take, hlength, length_nil] at hzero
        omega
      obtain ⟨hnext, hrest⟩ := sorted_behind hnodup hlast hmore
      have hshort := congrArg length hrest
      rw [(perm_sortHandles _).length_eq, length_drop, hlength] at hshort
      rw [hlast, decide_eq_true hmore]
      dsimp only
      rw [ih hnext (by omega), hrest, take_append_drop]
    · rw [decide_eq_false hmore, take_of_length_le (by omega)]

/-- What a list function is for: `all` are the handles of its type in NV. -/
structure ExactListing (list : TpmHandle → ℕ → NvM HandleList) (all : List TpmHandle)
    (handle : TpmHandle) (count : ℕ) (s : Nv) : Prop where
  ascending : (list handle count s).1.handles.Pairwise (· < ·)
  listed : ∀ g ∈ (list handle count s).1.handles, g ∈ all ∧ handle ≤ g
  least : ∀ h ∈ all, handle ≤ h → h ∉ (list handle count s).1.handles →
    ∀ g ∈ (list handle count s).1.handles, g < h
  number : (list handle count s).1.handles.length =
    min (min count MAX_CAP_HANDLES) (all.filter (handle ≤ ·)).length
  more : (list handle count s).1.more = true ↔
    (list handle count s).1.handles.length < (all.filter (handle ≤ ·)).length
  /-- Repeated calls find every handle, and none twice. -/
  enumerated : 0 < count → ∀ fuel, (all.filter (handle ≤ ·)).length < fuel →
    (enumerate list count fuel handle s).1.Perm (all.filter (handle ≤ ·)) ∧
      (enumerate list count fuel handle s).1.Nodup

lemma exactListing (h : DynRep s.nv es maxCount) (hnodup : (handles es).Nodup)
    (htype : handleGetType handle = type) :
    ExactListing (nvCapGet type) (typedHandles type es) handle count s := by
  have htyped : (typedHandles type es).Nodup := nodup_typedHandles hnodup
  have hperm := perm_sortHandles (matching type es handle)
  have hstrict : (sortHandles (matching type es handle)).Pairwise (· < ·) :=
    strict_sortHandles (htyped.filter _)
  have hcap : capCount count = min count MAX_CAP_HANDLES := by
    unfold capCount
    split_ifs <;> omega
  constructor
  · rw [nvCapGet_eq h htype]
    exact hstrict.sublist (take_sublist _ _)
  · rw [nvCapGet_eq h htype]
    intro g hg
    exact mem_matching.mp (hperm.mem_iff.mp (mem_of_mem_take hg))
  · rw [nvCapGet_eq h htype]
    intro e he hle hout g hg
    have hmem := hperm.mem_iff.mpr (mem_matching.mpr ⟨he, hle⟩)
    rw [← take_append_drop (capCount count) (sortHandles _)] at hmem hstrict
    rcases mem_append.mp hmem with hin | hbehind
    · exact absurd hin hout
    · exact (pairwise_append.mp hstrict).2.2 g hg e hbehind
  · rw [nvCapGet_eq h htype, length_take, hperm.length_eq, hcap]
    rfl
  · rw [nvCapGet_eq h htype, length_take, hperm.length_eq, decide_eq_true_eq]
    change _ ↔ _ < (matching type es handle).length
    omega
  · intro hcount fuel hfuel
    rw [enumerate_eq h htyped hcount fuel htype hfuel]
    exact ⟨hperm, hperm.nodup_iff.mpr (htyped.filter _)⟩

/-- `NvCapGetPersistent()` and `NvCapGetIndex()` list exactly what they should, for every list of
entities with different handles. -/
theorem sorted_listings_exact (h : DynRep s.nv es maxCount) (hnodup : (handles es).Nodup)
    (handle : TpmHandle) (count : ℕ) :
    (handleGetType handle = TPM_HT_PERSISTENT →
      ExactListing nvCapGetPersistent (typedHandles TPM_HT_PERSISTENT es) handle count s) ∧
    (handleGetType handle = TPM_HT_NV_INDEX →
      ExactListing nvCapGetIndex (typedHandles TPM_HT_NV_INDEX es) handle count s) :=
  ⟨exactListing h hnodup, exactListing h hnodup⟩

/-- Three indices that are not stored in order, of which a call returns the first two. -/
theorem sorted_listings_sample : ∃ (s : Nv) (es : List NvEntry) (maxCount : UInt64),
    DynRep s.nv es maxCount ∧ (handles es).Nodup ∧
      typedHandles TPM_HT_NV_INDEX es = [0x01000005, 0x01000003, 0x01000004] ∧
      (nvCapGetIndex 0x01000000 2 s).1 = ⟨[0x01000003, 0x01000004], true⟩ ∧
      ExactListing nvCapGetIndex (typedHandles TPM_HT_NV_INDEX es) 0x01000000 2 s := by
  obtain ⟨s, ts, -, hinv, hhandles⟩ := exists_sample
  have hdyn := hinv.rep.dyn
  rw [← handles_entries] at hhandles
  have hnodup : (handles (entries ts)).Nodup := by
    rw [hhandles]
    decide
  have htyped : typedHandles TPM_HT_NV_INDEX (entries ts) =
      [0x01000005, 0x01000003, 0x01000004] := by
    rw [typedHandles_eq, hhandles]
    decide
  refine ⟨s, entries ts, s.maxCounter, hdyn, hnodup, htyped, ?_,
    (sorted_listings_exact hdyn hnodup 0x01000000 2).2 (by decide)⟩
  rw [nvCapGetIndex, nvCapGet_eq hdyn (by decide), matching, htyped]
  dsimp only
  decide

end RfTpm.Capability
