import RfTpm.Capability.Listing

/-!
# One handle and the list of handles

A policy can require that a handle is in use.  The answer for one handle is meant to agree with
the lists: it should be yes if the list that starts at the handle has it in front, and only then.
It does for PCR and for the entities of NV.  It does not for the others:

* `ObjectCapGetOneLoaded()` is the loop of the list with the list taken out.  It says yes at the
  first object at or behind the handle.
* The functions for one session both ask whether the handle is in use at all, and not whether the
  session is loaded or saved.

There is a second difference for sessions, which is one of names: both lists name a session by the
handle it is used with, which for a saved session is not in the range that the list is asked for.
-/

namespace RfTpm.Capability

open Bytes Packed Faults Sessions List

/-! ## Loops over slots -/

section Scan

variable {name : ℕ → Option TpmHandle} {check : ℕ → Bool} {count : ℕ}

lemma handles_capScan (n i : ℕ) (handles : List TpmHandle) (s : Nv)
    (h : handles.length ≤ count) :
    (capScan name check count n i handles s).1.handles =
      (handles ++ (range' i n).filterMap name).take count := by
  induction n generalizing i handles s with
  | zero =>
    rw [range'_zero, filterMap_nil, append_nil, take_of_length_le h]
    rfl
  | succ n ih =>
    rw [range'_succ, filterMap_cons]
    cases hname : name i with
    | none =>
      rw [capScan, hname]
      exact ih (i + 1) handles s h
    | some handle =>
      rw [capScan, hname]
      by_cases hroom : handles.length < count
      · simp only [NvM.bind_apply, if_pos hroom]
        rw [ih (i + 1) (handles ++ [handle]) _ (by simpa using hroom)]
        simp
      · simp only [NvM.bind_apply, if_neg hroom, NvM.pure_apply]
        exact (take_left' (by omega)).symm

lemma head?_capScan (hcount : 0 < count) (n i : ℕ) (s : Nv) :
    (capScan name check count n i [] s).1.handles.head? = (range' i n).findSome? name := by
  rw [handles_capScan n i [] s (Nat.zero_le _), nil_append, List.head?_take,
    if_neg (by omega), List.head?_filterMap]

/-- If only slot `i` can have a name, the name is in front of the list from slot `i` on exactly if
the slot has it. -/
lemma findSome?_slots {β : Type} {f : ℕ → Option β} {b : β} {i limit : ℕ} (p : ℕ → Prop)
    (hf : ∀ j < limit, f j = some b ↔ p j ∧ j = i) :
    (range' i (limit - i)).findSome? f = some b ↔ i < limit ∧ p i := by
  by_cases hi : i < limit
  · obtain ⟨n, rfl⟩ := Nat.exists_eq_add_of_lt hi
    rw [show i + n + 1 - i = n + 1 by omega, range'_succ, findSome?_cons]
    have hslot := hf i hi
    cases hfi : f i with
    | some c => simpa [hfi, hi] using hslot
    | none =>
      have hrest : (range' (i + 1) n).findSome? f ≠ some b := by
        intro hsome
        obtain ⟨j, hj, hfj⟩ := exists_of_findSome?_eq_some hsome
        rw [mem_range'_1] at hj
        have := ((hf j (by omega)).mp hfj).2
        omega
      have hnot : ¬ p i := by simpa [hfi] using hslot
      simp [hrest, hnot]
  · rw [Nat.sub_eq_zero_of_le (by omega)]
    simp [hi]

end Scan

/-! ## Types and indices of handles -/

section Name

variable {first handle : TpmHandle} {type i : ℕ}

lemma toNat_eq (handle : TpmHandle) :
    handle.toNat = handleGetType handle * 2 ^ 24 + contextIndex handle := by
  unfold handleGetType contextIndex
  omega

lemma toNat_name (hfirst : first.toNat = type * 2 ^ 24) (hi : i < 2 ^ 24) :
    (UInt32.ofNat i + first).toNat = type * 2 ^ 24 + i := by
  have hlt := first.toNat_lt
  rw [UInt32.toNat_add, UInt32.toNat_ofNat', hfirst]
  omega

lemma contextIndex_name (hfirst : first.toNat = type * 2 ^ 24) (hi : i < 2 ^ 24) :
    contextIndex (UInt32.ofNat i + first) = i := by
  unfold contextIndex
  rw [toNat_name hfirst hi]
  omega

lemma name_eq_iff (hfirst : first.toNat = type * 2 ^ 24) (hi : i < 2 ^ 24) :
    UInt32.ofNat i + first = handle ↔ handleGetType handle = type ∧ i = contextIndex handle := by
  rw [← UInt32.toNat_inj, toNat_name hfirst hi]
  unfold handleGetType contextIndex
  omega

lemma slotOf_eq (h : handleGetType handle = Auth.TPM_HT_TRANSIENT) :
    slotOf handle = contextIndex handle := by
  have hnat := toNat_eq handle
  have hindex : contextIndex handle < 2 ^ 24 := Nat.mod_lt _ (by norm_num)
  rw [h] at hnat
  have hfirst : Auth.TRANSIENT_FIRST.toNat = 0x80 * 2 ^ 24 := rfl
  unfold Auth.TPM_HT_TRANSIENT at hnat
  rw [slotOf, UInt32.toNat_sub, hfirst, hnat]
  omega

end Name

/-! ## What is in front of a list -/

variable {t : Tables} {permanent : Permanent} {handle : TpmHandle} {count : ℕ} {s : Nv}

/-- The first handle that `TPM2_GetCapability()` lists. -/
def listedFirst (t : Tables) (permanent : Permanent) (handle : TpmHandle) (count : ℕ) (s : Nv) :
    Option TpmHandle :=
  match (getCapability t permanent handle count s).1 with
  | .ok list => list.handles.head?
  | .error _ => none

/-- `TPM2_PolicyCapability()` finds the handle. -/
def Found (t : Tables) (permanent : Permanent) (handle : TpmHandle) (s : Nv) : Prop :=
  (foundHandle t permanent handle s).1 = .ok true

lemma capCount_pos (h : 0 < count) : 0 < capCount count := by
  unfold capCount MAX_CAP_HANDLES
  split_ifs <;> omega

lemma listedFirst_eq {list : NvM HandleList} {name : ℕ → Option TpmHandle} {check : ℕ → Bool}
    {type i n : ℕ} (hdispatch : getCapability t permanent handle count = pure <$> list)
    (hlist : list = do
      pAssert (handleGetType handle == type)
      capScan name check (capCount count) n i []) (hcount : 0 < count) :
    listedFirst t permanent handle count s = (range' i n).findSome? name := by
  rw [listedFirst, hdispatch, hlist]
  exact head?_capScan (capCount_pos hcount) n i _

lemma listedFirst_transient (h : handleGetType handle = Auth.TPM_HT_TRANSIENT)
    (hcount : 0 < count) :
    listedFirst t permanent handle count s =
      (range' (contextIndex handle) (Auth.MAX_LOADED_OBJECTS - contextIndex handle)).findSome?
        (objectName t) := by
  have hdispatch : getCapability t permanent handle count =
      pure <$> objectCapGetLoaded t handle count := by
    rw [getCapability, h]
    rfl
  rw [← slotOf_eq h]
  exact listedFirst_eq hdispatch rfl hcount

lemma listedFirst_loaded (h : handleGetType handle = TPM_HT_LOADED_SESSION)
    (hcount : 0 < count) :
    listedFirst t permanent handle count s =
      (range' (contextIndex handle)
        (MAX_ACTIVE_SESSIONS.toNat - contextIndex handle)).findSome? (loadedName t) := by
  have hdispatch : getCapability t permanent handle count =
      pure <$> sessionCapGetLoaded t handle count := by
    rw [getCapability, h]
    rfl
  exact listedFirst_eq hdispatch rfl hcount

lemma listedFirst_saved (h : handleGetType handle = TPM_HT_SAVED_SESSION)
    (hcount : 0 < count) :
    listedFirst t permanent handle count s =
      (range' (contextIndex handle)
        (MAX_ACTIVE_SESSIONS.toNat - contextIndex handle)).findSome? (savedName t) := by
  have hdispatch : getCapability t permanent handle count =
      pure <$> sessionCapGetSaved t handle count := by
    rw [getCapability, h]
    rfl
  exact listedFirst_eq hdispatch rfl hcount

lemma listedFirst_pcr (h : handleGetType handle = Auth.TPM_HT_PCR) (hcount : 0 < count) :
    listedFirst t permanent handle count s =
      (range' (contextIndex handle) (PCR_LAST + 1 - contextIndex handle)).findSome?
        fun i => some (UInt32.ofNat i + PCR_FIRST) := by
  have hdispatch : getCapability t permanent handle count =
      pure <$> pcrCapGetHandles handle count := by
    rw [getCapability, h]
    rfl
  exact listedFirst_eq hdispatch rfl hcount

/-! ## The slots that are in front -/

lemma listedFirst_transient_iff (h : handleGetType handle = Auth.TPM_HT_TRANSIENT)
    (hcount : 0 < count) :
    listedFirst t permanent handle count s = some handle ↔
      contextIndex handle < Auth.MAX_LOADED_OBJECTS ∧
        (t.objects (contextIndex handle)).occupied = true := by
  have hfirst : Auth.TRANSIENT_FIRST.toNat = Auth.TPM_HT_TRANSIENT * 2 ^ 24 := rfl
  rw [listedFirst_transient h hcount]
  refine findSome?_slots (fun j => (t.objects j).occupied = true) fun j hj => ?_
  have hlt : j < 2 ^ 24 := hj.trans (by decide)
  unfold objectName
  split_ifs with hoccupied
  · simp [name_eq_iff hfirst hlt, h, hoccupied]
  · simp [hoccupied]

lemma listedFirst_pcr_iff (h : handleGetType handle = Auth.TPM_HT_PCR) (hcount : 0 < count) :
    listedFirst t permanent handle count s = some handle ↔ contextIndex handle ≤ PCR_LAST := by
  have hfirst : PCR_FIRST.toNat = Auth.TPM_HT_PCR * 2 ^ 24 := rfl
  rw [listedFirst_pcr h hcount, findSome?_slots (fun _ => True), and_true, Nat.lt_succ_iff]
  intro j hj
  have hlt : j < 2 ^ 24 := hj.trans (by decide)
  simp [name_eq_iff hfirst hlt, h]

variable {j : ℕ} {front : TpmHandle → Prop} {loaded saved : ℕ → Prop}

lemma lt_of_active (h : j < MAX_ACTIVE_SESSIONS.toNat) : j < 2 ^ 24 :=
  h.trans (by decide)

lemma hmacFirst_toNat : HMAC_SESSION_FIRST.toNat = TPM_HT_LOADED_SESSION * 2 ^ 24 := rfl

lemma policyFirst_toNat : POLICY_SESSION_FIRST.toNat = TPM_HT_SAVED_SESSION * 2 ^ 24 := rfl

/-- Entry `i` of `gr.contextArray` is that of a session in memory. -/
def IsLoaded (t : Tables) (i : ℕ) : Prop :=
  t.sessions.gr.contextArray i ≠ 0 ∧ t.sessions.gr.contextArray i ≤ MAX_LOADED_SESSIONS

/-- Entry `i` of `gr.contextArray` is that of a saved session. -/
def IsSaved (t : Tables) (i : ℕ) : Prop :=
  t.sessions.gr.contextArray i ≠ 0 ∧ t.sessions.gr.contextArray i > MAX_LOADED_SESSIONS

/-- The session that entry `i` refers to, if it is in memory. -/
def sessionAt (t : Tables) (i : ℕ) : Auth.Session :=
  (t.sessions.sessions (t.sessions.gr.contextArray i - 1)).session

lemma loadedName_eq (hj : j < MAX_ACTIVE_SESSIONS.toNat) (hloaded : IsLoaded t j) :
    loadedName t j = some (UInt32.ofNat j +
      if (sessionAt t j).attributes.isPolicy then POLICY_SESSION_FIRST
      else HMAC_SESSION_FIRST) := by
  have hget : t.sessions.sessionGet (UInt32.ofNat j + HMAC_SESSION_FIRST) = sessionAt t j := by
    rw [Table.sessionGet, contextIndex_name hmacFirst_toNat (lt_of_active hj), sessionAt]
  rw [loadedName]
  simp only [hget]
  rw [if_pos (show _ ∧ _ from hloaded)]
  split <;> rfl

lemma loadedName_none (hloaded : ¬ IsLoaded t j) : loadedName t j = none := by
  rw [loadedName]
  exact if_neg hloaded

lemma listedFirst_loaded_iff (h : handleGetType handle = TPM_HT_LOADED_SESSION)
    (hcount : 0 < count) :
    listedFirst t permanent handle count s = some handle ↔
      contextIndex handle < MAX_ACTIVE_SESSIONS.toNat ∧ IsLoaded t (contextIndex handle) ∧
        (sessionAt t (contextIndex handle)).attributes.isPolicy = false := by
  rw [listedFirst_loaded h hcount]
  refine findSome?_slots
    (fun j => IsLoaded t j ∧ (sessionAt t j).attributes.isPolicy = false) fun j hj => ?_
  by_cases hloaded : IsLoaded t j
  · rw [loadedName_eq hj hloaded]
    cases (sessionAt t j).attributes.isPolicy with
    | false => simp [name_eq_iff hmacFirst_toNat (lt_of_active hj), h, hloaded]
    | true =>
      simp [name_eq_iff policyFirst_toNat (lt_of_active hj), h, TPM_HT_LOADED_SESSION,
        TPM_HT_SAVED_SESSION]
  · simp [loadedName_none hloaded, hloaded]

lemma indexFirst_loaded_iff (h : handleGetType handle = TPM_HT_LOADED_SESSION)
    (hcount : 0 < count) :
    (listedFirst t permanent handle count s).map contextIndex = some (contextIndex handle) ↔
      contextIndex handle < MAX_ACTIVE_SESSIONS.toNat ∧ IsLoaded t (contextIndex handle) := by
  rw [listedFirst_loaded h hcount, map_findSome?]
  refine findSome?_slots (IsLoaded t) fun j hj => ?_
  by_cases hloaded : IsLoaded t j
  · rw [Function.comp_apply, loadedName_eq hj hloaded]
    cases (sessionAt t j).attributes.isPolicy with
    | false => simp [contextIndex_name hmacFirst_toNat (lt_of_active hj), hloaded]
    | true => simp [contextIndex_name policyFirst_toNat (lt_of_active hj), hloaded]
  · simp [loadedName_none hloaded, hloaded]

lemma savedName_eq (hsaved : IsSaved t j) :
    savedName t j = some (UInt32.ofNat j + HMAC_SESSION_FIRST) := by
  rw [savedName]
  exact if_pos hsaved

lemma savedName_none (hsaved : ¬ IsSaved t j) : savedName t j = none := by
  rw [savedName]
  exact if_neg hsaved

lemma listedFirst_saved_iff (h : handleGetType handle = TPM_HT_SAVED_SESSION)
    (hcount : 0 < count) :
    listedFirst t permanent handle count s = some handle ↔
      contextIndex handle < MAX_ACTIVE_SESSIONS.toNat ∧ False := by
  rw [listedFirst_saved h hcount]
  refine findSome?_slots (fun _ => False) fun j hj => ?_
  by_cases hsaved : IsSaved t j
  · simp [savedName_eq hsaved, name_eq_iff hmacFirst_toNat (lt_of_active hj), h,
      TPM_HT_LOADED_SESSION, TPM_HT_SAVED_SESSION]
  · simp [savedName_none hsaved]

lemma indexFirst_saved_iff (h : handleGetType handle = TPM_HT_SAVED_SESSION)
    (hcount : 0 < count) :
    (listedFirst t permanent handle count s).map contextIndex = some (contextIndex handle) ↔
      contextIndex handle < MAX_ACTIVE_SESSIONS.toNat ∧ IsSaved t (contextIndex handle) := by
  rw [listedFirst_saved h hcount, map_findSome?]
  refine findSome?_slots (IsSaved t) fun j hj => ?_
  by_cases hsaved : IsSaved t j
  · simp [savedName_eq hsaved, contextIndex_name hmacFirst_toNat (lt_of_active hj), hsaved]
  · simp [savedName_none hsaved, hsaved]

/-! ## The lists of NV entities -/

section Nv

variable {es : List NvEntry} {maxCount : UInt64} {type : ℕ}

lemma head?_nvCapGet (h : DynRep s.nv es maxCount) (htype : handleGetType handle = type)
    (hcount : 0 < count) :
    (nvCapGet type handle count s).1.handles.head? = some handle ↔
      handle ∈ typedHandles type es := by
  have hperm := perm_sortHandles (matching type es handle)
  have hsorted := pairwise_sortHandles (matching type es handle)
  rw [nvCapGet_eq h htype, List.head?_take, if_neg (capCount_pos hcount).ne']
  constructor
  · intro hhead
    exact (mem_matching.mp (hperm.mem_iff.mp (mem_of_mem_head? hhead))).1
  · intro hmem
    have hin := hperm.mem_iff.mpr (mem_matching.mpr ⟨hmem, UInt32.le_refl _⟩)
    obtain ⟨first, rest, hcons⟩ := exists_cons_of_ne_nil (ne_nil_of_mem hin)
    rw [hcons] at hin hsorted ⊢
    have hfirst := mem_matching.mp (hperm.mem_iff.mp (hcons ▸ mem_cons_self))
    rcases mem_cons.mp hin with rfl | hrest
    · rfl
    · have hle := (pairwise_cons.mp hsorted).1 handle hrest
      rw [UInt32.le_antisymm hle hfirst.2, List.head?_cons]

lemma nvCapGetOne_iff (h : DynRep s.nv es maxCount) (htype : handleGetType handle = type) :
    (nvCapGetOne type handle s).1 = true ↔ handle ∈ typedHandles type es := by
  obtain ⟨e', hchain⟩ := h.typedChain type
  have hfuel : ((typedNodes type es).map fun n =>
      ((⟨n.1 + 4, n.2.handle⟩ : NvNode), n.1 + n.2.entrySize)).length < NV_MEMORY_SIZE := by
    rw [length_map]
    exact typedNodes_fuel h _
  have hwalk := walk_chain hchain (fun node => node.handle == handle) hfuel
  have hrun : (nvCapGetOne type handle s).1 = (nvFindByType type handle s).1.1.isSome := by
    rw [nvCapGetOne, htype, beq_self_eq_true, pAssert_true]
    simp only [NvM.bind_apply, NvM.pure_apply]
  have hfound : (nvCapGetOne type handle s).1 = (((typedNodes type es).map fun n =>
      ((⟨n.1 + 4, n.2.handle⟩ : NvNode), n.1 + n.2.entrySize)).find?
        fun n => n.1.handle == handle).isSome := by
    rw [hrun, nvFindByType, hwalk]
    cases find? (fun n : NvNode × ℕ => n.1.handle == handle) _ <;> rfl
  rw [hfound, find?_isSome, typedHandles, mem_map]
  simp

end Nv

/-! ## What is found -/

lemma found_iff {query : NvM Bool} (h : foundHandle t permanent handle = pure <$> query) :
    Found t permanent handle s ↔ (query s).1 = true := by
  rw [Found, h]
  exact ⟨fun hok => Except.ok.inj hok, fun htrue => congrArg Except.ok htrue⟩

lemma objectOneLoop_iff (n i : ℕ) (s : Nv) :
    (objectOneLoop t n i s).1 = true ↔
      ∃ j, i ≤ j ∧ j < i + n ∧ (t.objects j).occupied = true := by
  induction n generalizing i with
  | zero =>
    refine ⟨fun h => absurd h Bool.false_ne_true, ?_⟩
    rintro ⟨j, hle, hlt, -⟩
    omega
  | succ n ih =>
    unfold objectOneLoop
    split_ifs with hoccupied
    · exact ⟨fun _ => ⟨i, le_rfl, by omega, hoccupied⟩, fun _ => rfl⟩
    · rw [ih (i + 1)]
      constructor
      · rintro ⟨j, hle, hlt, hj⟩
        exact ⟨j, by omega, by omega, hj⟩
      · rintro ⟨j, hle, hlt, hj⟩
        have hne : j ≠ i := fun heq => hoccupied (heq ▸ hj)
        exact ⟨j, by omega, by omega, hj⟩

lemma found_transient_iff (h : handleGetType handle = Auth.TPM_HT_TRANSIENT) :
    Found t permanent handle s ↔
      ∃ j, contextIndex handle ≤ j ∧ j < Auth.MAX_LOADED_OBJECTS ∧
        (t.objects j).occupied = true := by
  have hdispatch : foundHandle t permanent handle =
      pure <$> objectCapGetOneLoaded t handle := by
    simp [foundHandle, h]
  rw [found_iff hdispatch, objectCapGetOneLoaded, NvM.bind_apply, objectOneLoop_iff, slotOf_eq h]
  refine exists_congr fun j => ?_
  constructor
  · rintro ⟨hle, hlt, hj⟩
    exact ⟨hle, by omega, hj⟩
  · rintro ⟨hle, hlt, hj⟩
    exact ⟨hle, by omega, hj⟩

lemma found_session_iff (h : handleGetType handle = TPM_HT_LOADED_SESSION ∨
      handleGetType handle = TPM_HT_SAVED_SESSION) :
    Found t permanent handle s ↔
      contextIndex handle < MAX_ACTIVE_SESSIONS.toNat ∧
        t.sessions.gr.contextArray (contextIndex handle) ≠ 0 := by
  have hdispatch : foundHandle t permanent handle =
      pure <$> sessionCapGetOne t (handleGetType handle) handle := by
    rcases h with h | h
    all_goals
      rw [foundHandle, h]
      rfl
  rw [found_iff hdispatch]
  simp [sessionCapGetOne]

lemma found_pcr_iff (h : handleGetType handle = Auth.TPM_HT_PCR) :
    Found t permanent handle s ↔ contextIndex handle ≤ PCR_LAST := by
  have hdispatch : foundHandle t permanent handle = pure <$> pcrCapGetOneHandle handle := by
    rw [foundHandle, h]
    rfl
  rw [found_iff hdispatch]
  simp [pcrCapGetOneHandle]

lemma found_of_policyCapability {operation : Auth.Operation} {offset : ℕ}
    {operandB : Bytes} (hop : operation ≠ .neq)
    (hok : (policyCapability t permanent handle operation offset operandB s).1 = .ok ()) :
    Found t permanent handle s := by
  unfold Found
  unfold policyCapability at hok
  simp only [NvM.bind_apply, NvM.pure_apply] at hok
  cases hfound : (foundHandle t permanent handle s).1 with
  | error stop =>
    rw [hfound] at hok
    cases hok
  | ok found =>
    rw [hfound] at hok
    cases found with
    | true => rfl
    | false =>
      rw [ok_bind, if_neg Bool.false_ne_true, compareProperty, if_pos length_nil,
        if_pos hop] at hok
      cases hok

/-! ## Agreement -/

/-- The types of handles that may come and go, and PCR. -/
def IsReported (handle : TpmHandle) : Prop :=
  handleGetType handle ∈ [Auth.TPM_HT_TRANSIENT, TPM_HT_PERSISTENT, TPM_HT_NV_INDEX,
    TPM_HT_LOADED_SESSION, TPM_HT_SAVED_SESSION, Auth.TPM_HT_PCR]

instance : Decidable (IsReported handle) := inferInstanceAs (Decidable (_ ∈ _))

/-- A listed handle is that of the entity that `handle` asks for.  A session has the same index in
every range. -/
def SameEntity (handle listed : TpmHandle) : Prop :=
  if handleGetType handle = TPM_HT_LOADED_SESSION ∨ handleGetType handle = TPM_HT_SAVED_SESSION then
    contextIndex listed = contextIndex handle
  else listed = handle

/-- The list that starts at a handle has in front what `front` asks for. -/
def InFront (t : Tables) (permanent : Permanent) (handle : TpmHandle) (count : ℕ) (s : Nv)
    (front : TpmHandle → Prop) : Prop :=
  ∃ listed, listedFirst t permanent handle count s = some listed ∧ front listed

/-- The answer for one handle agrees with the list, and a policy that needs the handle is only
satisfied if it is in the list. -/
structure Agrees (t : Tables) (permanent : Permanent) (handle : TpmHandle) (count : ℕ) (s : Nv)
    (front : TpmHandle → Prop) : Prop where
  found : Found t permanent handle s ↔ InFront t permanent handle count s front
  policy : ∀ operation offset operandB, operation ≠ .neq →
    (policyCapability t permanent handle operation offset operandB s).1 = .ok () →
    InFront t permanent handle count s front

/-- What has to be in the tables for the answer to agree: for a transient handle, its object if
there is one at or behind it, and for the handle of a session that there is, what the list that
was asked for has in it. -/
structure Meets (t : Tables) (handle : TpmHandle) (loaded saved : ℕ → Prop) : Prop where
  transient : handleGetType handle = Auth.TPM_HT_TRANSIENT →
    ∀ j, contextIndex handle ≤ j → j < Auth.MAX_LOADED_OBJECTS →
      (t.objects j).occupied = true → (t.objects (contextIndex handle)).occupied = true
  loaded : handleGetType handle = TPM_HT_LOADED_SESSION →
    contextIndex handle < MAX_ACTIVE_SESSIONS.toNat →
    t.sessions.gr.contextArray (contextIndex handle) ≠ 0 → loaded (contextIndex handle)
  saved : handleGetType handle = TPM_HT_SAVED_SESSION →
    contextIndex handle < MAX_ACTIVE_SESSIONS.toNat →
    t.sessions.gr.contextArray (contextIndex handle) ≠ 0 → saved (contextIndex handle)

lemma agrees_iff :
    Agrees t permanent handle count s front ↔
      (Found t permanent handle s ↔ InFront t permanent handle count s front) := by
  refine ⟨Agrees.found, fun h => ⟨h, ?_⟩⟩
  intro operation offset operandB hop hok
  exact h.mp (found_of_policyCapability hop hok)

lemma inFront_eq_iff :
    InFront t permanent handle count s (· = handle) ↔
      listedFirst t permanent handle count s = some handle := by
  simp [InFront]

lemma inFront_sameEntity_session (h : handleGetType handle = TPM_HT_LOADED_SESSION ∨
      handleGetType handle = TPM_HT_SAVED_SESSION) :
    InFront t permanent handle count s (SameEntity handle) ↔
      (listedFirst t permanent handle count s).map contextIndex = some (contextIndex handle) := by
  simp [InFront, SameEntity, h, Option.map_eq_some_iff]

lemma sameEntity_eq (h : handleGetType handle ≠ TPM_HT_LOADED_SESSION)
    (h' : handleGetType handle ≠ TPM_HT_SAVED_SESSION) : SameEntity handle = (· = handle) := by
  funext listed
  simp [SameEntity, h, h']

lemma Meets.of_ne (ht : handleGetType handle ≠ Auth.TPM_HT_TRANSIENT)
    (hl : handleGetType handle ≠ TPM_HT_LOADED_SESSION)
    (hs : handleGetType handle ≠ TPM_HT_SAVED_SESSION) : Meets t handle loaded saved :=
  ⟨fun h => absurd h ht, fun h => absurd h hl, fun h => absurd h hs⟩

lemma agrees_transient_iff (h : handleGetType handle = Auth.TPM_HT_TRANSIENT)
    (hcount : 0 < count) :
    Agrees t permanent handle count s (· = handle) ↔ Meets t handle loaded saved := by
  rw [agrees_iff, inFront_eq_iff, found_transient_iff h, listedFirst_transient_iff h hcount]
  constructor
  · intro hagree
    refine ⟨fun _ j hle hlt hj => (hagree.mp ⟨j, hle, hlt, hj⟩).2, ?_, ?_⟩
    · simp [h, Auth.TPM_HT_TRANSIENT, TPM_HT_LOADED_SESSION]
    · simp [h, Auth.TPM_HT_TRANSIENT, TPM_HT_SAVED_SESSION]
  · intro hmeets
    constructor
    · rintro ⟨j, hle, hlt, hj⟩
      exact ⟨hle.trans_lt hlt, hmeets.transient h j hle hlt hj⟩
    · rintro ⟨hlt, hoccupied⟩
      exact ⟨_, le_rfl, hlt, hoccupied⟩

lemma agrees_session_iff {p : ℕ → Prop}
    (h : handleGetType handle = TPM_HT_LOADED_SESSION ∨
      handleGetType handle = TPM_HT_SAVED_SESSION)
    (hfront : InFront t permanent handle count s front ↔
      contextIndex handle < MAX_ACTIVE_SESSIONS.toNat ∧ p (contextIndex handle))
    (hp : p (contextIndex handle) → t.sessions.gr.contextArray (contextIndex handle) ≠ 0) :
    Agrees t permanent handle count s front ↔
      (contextIndex handle < MAX_ACTIVE_SESSIONS.toNat →
        t.sessions.gr.contextArray (contextIndex handle) ≠ 0 → p (contextIndex handle)) := by
  rw [agrees_iff, found_session_iff h, hfront]
  constructor
  · intro hagree hlt hactive
    exact (hagree.mp ⟨hlt, hactive⟩).2
  · intro hmeets
    constructor
    · rintro ⟨hlt, hactive⟩
      exact ⟨hlt, hmeets hlt hactive⟩
    · rintro ⟨hlt, hpi⟩
      exact ⟨hlt, hp hpi⟩

lemma meets_loaded_iff (h : handleGetType handle = TPM_HT_LOADED_SESSION) :
    Meets t handle loaded saved ↔
      (contextIndex handle < MAX_ACTIVE_SESSIONS.toNat →
        t.sessions.gr.contextArray (contextIndex handle) ≠ 0 → loaded (contextIndex handle)) := by
  refine ⟨fun hmeets => hmeets.loaded h, fun hloaded => ⟨?_, fun _ => hloaded, ?_⟩⟩
  · simp [h, Auth.TPM_HT_TRANSIENT, TPM_HT_LOADED_SESSION]
  · simp [h, TPM_HT_SAVED_SESSION, TPM_HT_LOADED_SESSION]

lemma meets_saved_iff (h : handleGetType handle = TPM_HT_SAVED_SESSION) :
    Meets t handle loaded saved ↔
      (contextIndex handle < MAX_ACTIVE_SESSIONS.toNat →
        t.sessions.gr.contextArray (contextIndex handle) ≠ 0 → saved (contextIndex handle)) := by
  refine ⟨fun hmeets => hmeets.saved h, fun hsaved => ⟨?_, ?_, fun _ => hsaved⟩⟩
  · simp [h, Auth.TPM_HT_TRANSIENT, TPM_HT_SAVED_SESSION]
  · simp [h, TPM_HT_SAVED_SESSION, TPM_HT_LOADED_SESSION]

lemma agrees_and_meets {loaded' saved' : ℕ → Prop}
    (h : Agrees t permanent handle count s (· = handle))
    (ht : handleGetType handle ≠ Auth.TPM_HT_TRANSIENT)
    (hl : handleGetType handle ≠ TPM_HT_LOADED_SESSION)
    (hs : handleGetType handle ≠ TPM_HT_SAVED_SESSION) :
    (Agrees t permanent handle count s (· = handle) ↔ Meets t handle loaded saved) ∧
      (Agrees t permanent handle count s (SameEntity handle) ↔ Meets t handle loaded' saved') := by
  rw [sameEntity_eq hl hs]
  exact ⟨iff_of_true h (.of_ne ht hl hs), iff_of_true h (.of_ne ht hl hs)⟩

lemma agrees_pcr (h : handleGetType handle = Auth.TPM_HT_PCR) (hcount : 0 < count) :
    Agrees t permanent handle count s (· = handle) := by
  rw [agrees_iff, inFront_eq_iff, found_pcr_iff h, listedFirst_pcr_iff h hcount]

section Agreement

variable {es : List NvEntry} {maxCount : UInt64}

lemma agrees_nv (h : DynRep s.nv es maxCount) (hcount : 0 < count)
    (htype : handleGetType handle = TPM_HT_PERSISTENT ∨
      handleGetType handle = TPM_HT_NV_INDEX) :
    Agrees t permanent handle count s (· = handle) := by
  have hlist : getCapability t permanent handle count =
      pure <$> nvCapGet (handleGetType handle) handle count := by
    rcases htype with htype | htype
    all_goals
      rw [getCapability, htype]
      rfl
  have hone : foundHandle t permanent handle =
      pure <$> nvCapGetOne (handleGetType handle) handle := by
    rcases htype with htype | htype
    all_goals
      rw [foundHandle, htype]
      rfl
  have hfirst : listedFirst t permanent handle count s =
      (nvCapGet (handleGetType handle) handle count s).1.handles.head? := by
    rw [listedFirst, hlist]
    rfl
  rw [agrees_iff, inFront_eq_iff, found_iff hone, hfirst, nvCapGetOne_iff h rfl,
    head?_nvCapGet h rfl hcount]

/-- When the answer for one handle agrees with the list that starts at it.  The first part asks
for the handle itself in front of the list, the second for the same session under whatever
handle it is listed. -/
theorem one_handle_agrees_iff (h : DynRep s.nv es maxCount) (hcount : 0 < count)
    (htype : IsReported handle) :
    (Agrees t permanent handle count s (· = handle) ↔
      Meets t handle
        (fun i => IsLoaded t i ∧ (sessionAt t i).attributes.isPolicy = false) fun _ => False) ∧
    (Agrees t permanent handle count s (SameEntity handle) ↔
      Meets t handle (IsLoaded t) (IsSaved t)) := by
  simp only [IsReported, mem_cons, not_mem_nil, or_false] at htype
  rcases htype with htype | htype | htype | htype | htype | htype
  · rw [sameEntity_eq (by rw [htype]; decide) (by rw [htype]; decide)]
    exact ⟨agrees_transient_iff htype hcount, agrees_transient_iff htype hcount⟩
  · exact agrees_and_meets (agrees_nv h hcount (.inl htype)) (by rw [htype]; decide)
      (by rw [htype]; decide) (by rw [htype]; decide)
  · exact agrees_and_meets (agrees_nv h hcount (.inr htype)) (by rw [htype]; decide)
      (by rw [htype]; decide) (by rw [htype]; decide)
  · rw [meets_loaded_iff htype, meets_loaded_iff htype]
    refine ⟨agrees_session_iff (p := fun i => IsLoaded t i ∧ _) (.inl htype) ?_
      fun hloaded => hloaded.1.1, agrees_session_iff (.inl htype) ?_ fun hloaded => hloaded.1⟩
    · rw [inFront_eq_iff, listedFirst_loaded_iff htype hcount]
    · rw [inFront_sameEntity_session (.inl htype), indexFirst_loaded_iff htype hcount]
  · rw [meets_saved_iff htype, meets_saved_iff htype]
    refine ⟨agrees_session_iff (p := fun _ => False) (.inr htype) ?_ False.elim,
      agrees_session_iff (.inr htype) ?_ fun hsaved => hsaved.1⟩
    · rw [inFront_eq_iff, listedFirst_saved_iff htype hcount]
    · rw [inFront_sameEntity_session (.inr htype), indexFirst_saved_iff htype hcount]
  · exact agrees_and_meets (agrees_pcr htype hcount) (by rw [htype]; decide)
      (by rw [htype]; decide) (by rw [htype]; decide)

/-- Tables with objects in the slots of a list and the entries of `gr.contextArray` given. -/
def tablesWith (slots : List ℕ) (contextArray : ℕ → ℕ) : Tables where
  objects i := { occupied := i ∈ slots }
  sessions :=
    { gr := ⟨contextArray, 0⟩
      sessions := fun _ => ⟨false, default⟩
      freeSessionSlots := 0
      oldestSavedSession := 0 }

/-- Functions that know no permanent handle. -/
def noPermanent : Permanent := ⟨fun _ _ => pure ⟨[], false⟩, fun _ => pure false⟩

theorem one_handle_agrees_manufactured :
    DynRep (nvManufacture Nv.erased).2.nv [] 0 ∧ IsReported 0x80000000 ∧
      Agrees (tablesWith [0, 1] fun _ => 0) noPermanent 0x80000000 1 (nvManufacture Nv.erased).2
        (· = 0x80000000) := by
  have hdyn : DynRep (nvManufacture Nv.erased).2.nv [] 0 := (nvManufacture_rep Nv.erased).1.dyn
  have hreported : IsReported 0x80000000 := by decide
  refine ⟨hdyn, hreported, (one_handle_agrees_iff hdyn Nat.one_pos hreported).1.mpr ?_⟩
  exact ⟨fun _ _ _ _ _ => by decide, nofun, nofun⟩

/-- The only object is in slot 1.  The handle of slot 0 is found, and a policy that compares the
property with that handle is satisfied, but the list starts with the other handle.  A session that
is saved is found among the loaded ones, and one that is loaded among the saved ones. -/
theorem found_but_not_listed :
    let s := (nvManufacture Nv.erased).2
    (Found (tablesWith [1] fun _ => 0) noPermanent 0x80000000 s ∧
      (policyCapability (tablesWith [1] fun _ => 0) noPermanent 0x80000000 .eq 0
        (beBytes 4 0x80000000) s).1 = .ok () ∧
      listedFirst (tablesWith [1] fun _ => 0) noPermanent 0x80000000 1 s = some 0x80000001) ∧
    (Found (tablesWith [] fun i => if i = 0 then 100 else 0) noPermanent 0x02000000 s ∧
      listedFirst (tablesWith [] fun i => if i = 0 then 100 else 0) noPermanent 0x02000000 1 s =
        none) ∧
    (Found (tablesWith [] fun i => if i = 0 then 1 else 0) noPermanent 0x03000000 s ∧
      listedFirst (tablesWith [] fun i => if i = 0 then 1 else 0) noPermanent 0x03000000 1 s =
        none) := by
  generalize (nvManufacture Nv.erased).2 = s
  refine ⟨⟨rfl, rfl, rfl⟩, ⟨rfl, ?_⟩, rfl, ?_⟩
  · rw [listedFirst_loaded rfl Nat.one_pos]
    decide
  · rw [listedFirst_saved rfl Nat.one_pos]
    decide

end Agreement

end RfTpm.Capability
