import RfTpm.Pcr.State

/-!
# What the registers and their allocation are after each function

The entry of a bank in a new allocation is the last selection requested for it
(`find?_newAllocate`).  A loop over the banks writes all of them (`setBanks_apply`), and the loops
of `PCRStateSave()` and `PCRStartup()` count the state-saved registers in the same way, so that each
register is saved to, and restored from, the same place (`pcrStateSave_saved`,
`pcrStartup_resumed`).

`Touches` is the frame of the functions that change registers: only those of a set may change, and
besides them the PCR counter and, should that wrap, the failure mode.
-/

namespace RfTpm.Pcr

open Fallible List

/-! ## Allocations -/

namespace Allocation

variable (allocation : Allocation)

lemma mem_hashes (hash : Bank) : hash ∈ allocation.pcrSelections.map Selection.hash := by
  rw [allocation.hashes]
  exact hash.mem_all

end Allocation

lemma find?_coverSelection {selection : Selection} {entries : List Selection}
    (h : selection.hash ∈ entries.map Selection.hash) (hash : Bank) :
    (coverSelection selection entries).find? (fun entry => entry.hash = hash) =
      if selection.hash = hash then some selection
      else entries.find? fun entry => entry.hash = hash := by
  induction entries with
  | nil => cases h
  | cons entry entries ih =>
    unfold coverSelection
    by_cases hentry : entry.hash = selection.hash
    · rw [if_pos hentry, List.find?_cons, List.find?_cons]
      by_cases hhash : selection.hash = hash
      · simp [hhash]
      · have hother : ¬entry.hash = hash := fun heq => hhash (hentry.symm.trans heq)
        simp [hhash, hother]
    · have hrest : selection.hash ∈ entries.map Selection.hash := by
        rw [map_cons, mem_cons] at h
        exact h.resolve_left fun heq => hentry heq.symm
      rw [if_neg hentry, List.find?_cons, List.find?_cons, ih hrest]
      by_cases hhash : entry.hash = hash
      · have hother : ¬selection.hash = hash := fun heq => hentry (hhash.trans heq.symm)
        simp [hhash, hother]
      · simp [hhash]

lemma find?_cover (allocation : Allocation) (selection : Selection) (hash : Bank) :
    (allocation.cover selection).find? hash =
      if selection.hash = hash then some selection else allocation.find? hash :=
  find?_coverSelection (allocation.mem_hashes _) hash

/-- The last selection that is requested for a bank. -/
def lastSelection (allocate : List Selection) (hash : Bank) : Option Selection :=
  allocate.reverse.find? fun selection => selection.hash = hash

/-- In the new allocation, the entry of a bank is the last selection requested for it, and the old
one if there is none. -/
lemma find?_newAllocate (allocation : Allocation) (allocate : List Selection) (hash : Bank) :
    (newAllocate allocation allocate).find? hash =
      (lastSelection allocate hash).or (allocation.find? hash) := by
  unfold newAllocate lastSelection
  induction allocate generalizing allocation with
  | nil => rfl
  | cons selection allocate ih =>
    rw [foldl_cons, ih, find?_cover, reverse_cons, List.find?_append, Option.or_assoc]
    congr 1
    rw [List.find?_singleton]
    by_cases hhash : selection.hash = hash
    · simp [hhash]
    · simp [hhash]

lemma setBanks_apply (allocation : Allocation) (pcr : ℕ) (cond : Bank → Bool)
    (value : Bank → Bytes) (values : PcrValues) (bank : Bank) (p : ℕ) :
    setBanks allocation pcr cond value values bank p =
      if p = pcr ∧ cond bank = true then value bank else values bank p := by
  have hloop : ∀ (selections : List Selection) (values : PcrValues),
      selections.foldl
        (fun values selection =>
          if cond selection.hash then values.set selection.hash pcr (value selection.hash)
          else values) values bank p =
        if (p = pcr ∧ cond bank = true) ∧ bank ∈ selections.map Selection.hash then value bank
        else values bank p := by
    intro selections
    induction selections with
    | nil =>
      intro values
      simp
    | cons selection selections ih =>
      intro values
      rw [foldl_cons, ih]
      simp only [map_cons, mem_cons]
      by_cases hbank : bank = selection.hash
      · subst hbank
        by_cases hpcr : p = pcr
        · subst hpcr
          cases hcond : cond selection.hash with
          | true => simp
          | false => simp
        · cases hcond : cond selection.hash with
          | true => simp [hpcr, PcrValues.set_pcr_ne]
          | false => simp
      · cases hcond : cond selection.hash with
        | true => simp [hbank, PcrValues.set_bank_ne]
        | false => simp [hbank]
  unfold setBanks
  rw [hloop]
  simp only [allocation.mem_hashes bank, and_true]

variable {allocation : Allocation} {pcr p q : ℕ} {bank : Bank} {R : Tpm → Tpm → Prop} {s s' : Tpm}

lemma setBanks_of_ne (h : p ≠ pcr) (cond : Bank → Bool) (value : Bank → Bytes)
    (values : PcrValues) (bank : Bank) :
    setBanks allocation pcr cond value values bank p = values bank p := by
  rw [setBanks_apply, if_neg fun h' => h h'.1]

/-! ## What changes registers -/

/-- Only the registers in `P` may have changed, with the PCR counter and the failure mode. -/
structure Touches (P : Set ℕ) (s s' : Tpm) : Prop where
  frame : s' = { s with
    pcrs := s'.pcrs, pcrCounter := s'.pcrCounter, inFailureMode := s'.inFailureMode }
  others : ∀ bank, ∀ pcr ∉ P, s'.pcrs bank pcr = s.pcrs bank pcr
  failed : s.inFailureMode = true → s'.inFailureMode = true

namespace Touches

variable {P Q : Set ℕ} {s s' s'' : Tpm}

lemma of_eq (pcrs : PcrValues) (h : ∀ bank, ∀ pcr ∉ P, pcrs bank pcr = s.pcrs bank pcr) :
    Touches P s { s with pcrs } := ⟨rfl, h, id⟩

protected lemma refl (s : Tpm) : Touches P s s := ⟨rfl, fun _ _ _ => rfl, id⟩

protected lemma trans (h : Touches P s s') (h' : Touches P s' s'') : Touches P s s'' where
  frame := by
    rw [h'.frame, h.frame]
  others bank pcr hpcr := (h'.others bank pcr hpcr).trans (h.others bank pcr hpcr)
  failed hs := h'.failed (h.failed hs)

lemma mono (h : Touches P s s') (hPQ : P ⊆ Q) : Touches Q s s' where
  frame := h.frame
  others bank pcr hpcr := h.others bank pcr fun hmem => hpcr (hPQ hmem)
  failed := h.failed

lemma gp (h : Touches P s s') : s'.gp = s.gp := by rw [h.frame]

lemma nv (h : Touches P s s') : s'.nv = s.nv := by rw [h.frame]

lemma file (h : Touches P s s') : s'.file = s.file := by rw [h.frame]

lemma power (h : Touches P s s') : s'.power = s.power := by rw [h.frame]

lemma pcrSave (h : Touches P s s') : s'.pcrSave = s.pcrSave := by rw [h.frame]

lemma foldl {α : Type} {f : Tpm → α → Tpm} {l : List α}
    (h : ∀ s, ∀ a ∈ l, Touches P s (f s a)) (s : Tpm) : Touches P s (l.foldl f s) := by
  induction l generalizing s with
  | nil => exact .refl s
  | cons a l ih =>
    have hfirst := h s a (mem_cons_self ..)
    exact hfirst.trans (ih (fun s b hb => h s b (mem_cons_of_mem a hb)) _)

end Touches

lemma touches_pcrChanged (P : Set ℕ) (pcr : ℕ) (s : Tpm) : Touches P s (pcrChanged pcr s) := by
  unfold pcrChanged
  dsimp only
  split_ifs
  · exact ⟨rfl, fun _ _ _ => rfl, fun _ => rfl⟩
  · exact ⟨rfl, fun _ _ _ => rfl, id⟩
  · exact .refl s

lemma touches_setPcr (s : Tpm) (bank : Bank) (pcr : ℕ) (value : Bytes) :
    Touches {pcr} s (s.setPcr bank pcr value) :=
  .of_eq _ fun _ _ hp => PcrValues.set_pcr_ne _ _ hp

lemma touches_pcrExtend (h : HashAlg) (pcr : ℕ) (hash : Bank) (data : Bytes) (s : Tpm) :
    Touches {pcr} s (pcrExtend h pcr hash data s) := by
  unfold pcrExtend
  split
  · exact (touches_setPcr s hash pcr _).trans (touches_pcrChanged _ pcr _)
  · exact .refl s

lemma touches_extendAll (h : HashAlg) (pcr : ℕ) (digests : List (Bank × Bytes)) (s : Tpm) :
    Touches {pcr} s (extendAll h pcr digests s) :=
  .foldl (fun s d _ => touches_pcrExtend h pcr d.1 d.2 s) s

lemma touches_setBanks (s : Tpm) (pcr : ℕ) (cond : Bank → Bool) (value : Bank → Bytes) :
    Touches {pcr} s { s with pcrs := setBanks s.gp.pcrAllocated pcr cond value s.pcrs } :=
  .of_eq _ fun bank _ hp => setBanks_of_ne hp cond value s.pcrs bank

lemma touches_pcrReset (pcr : ℕ) (s : Tpm) :
    Touches {pcr} s (pcrChanged pcr (pcrSetValue pcr s)) :=
  (touches_setBanks s pcr _ _).trans (touches_pcrChanged _ pcr _)

/-- The dynamic registers, in which no state-saved one is. -/
def dynamicPcrs : Set ℕ := { pcr | isDynamic pcr = true }

lemma touches_resetDynamic (s : Tpm) (pcr : ℕ) : Touches dynamicPcrs s (resetDynamic s pcr) := by
  refine .of_eq _ fun bank p hp => ?_
  rw [setBanks_apply]
  refine if_neg fun h => hp ?_
  obtain ⟨rfl, hcond⟩ := h
  exact (Bool.and_eq_true_iff.mp hcond).2

lemma touches_pcrResetDynamics (s : Tpm) : Touches dynamicPcrs s (pcrResetDynamics s) :=
  .foldl (fun s pcr _ => touches_resetDynamic s pcr) s

lemma touches_pcrDrtm (h : HashAlg) (pcr : ℕ) (hash : Bank) (digest : Bytes) (s : Tpm) :
    Touches {pcr} s (pcrDrtm h pcr hash digest s) := by
  unfold pcrDrtm
  dsimp only
  split
  · exact (touches_setPcr s hash pcr _).trans (touches_pcrExtend h pcr hash digest _)
  · exact .refl s

/-- `_TPM_Hash_End` before its loop. -/
def beginHashEnd (s : Tpm) : Tpm :=
  if s.power.initialized then pcrResetDynamics s
  else { s with power := { s.power with drtmPreStartup := true } }

lemma touches_hashEnd (h : HashAlg) (digests : Bank → Bytes) (s : Tpm) :
    Touches {if s.power.initialized then DRTM_PCR else HCRTM_PCR} (beginHashEnd s)
      (hashEnd h digests s) :=
  .foldl (fun s hash _ => touches_pcrDrtm h _ hash (digests hash) s) (beginHashEnd s)

lemma not_stateSaved_of_dynamic (h : isDynamic pcr = true) : pcrIsStateSaved pcr = false := by
  by_cases hpcr : pcr < IMPLEMENTATION_PCR
  · have hall : ∀ p < IMPLEMENTATION_PCR, isDynamic p = true → pcrIsStateSaved p = false := by
      decide
    exact hall pcr hpcr h
  · have hfirst : isDynamic pcr = false := by
      unfold isDynamic pcrAttributes
      rw [if_pos (Nat.not_lt.mp hpcr)]
      rfl
    exact nomatch hfirst.symm.trans h

/-! ## The place of a register in the save area -/

/-- `saveIndex` when the loops get to a register. -/
def saveIndexOf (pcr : ℕ) : ℕ := ((List.range pcr).filter pcrIsStateSaved).length

lemma saveIndexOf_succ (pcr : ℕ) :
    saveIndexOf (pcr + 1) = saveIndexOf pcr + if pcrIsStateSaved pcr then 1 else 0 := by
  unfold saveIndexOf
  rw [range_succ, filter_append, length_append]
  cases hsaved : pcrIsStateSaved pcr with
  | true => simp [hsaved]
  | false => simp [hsaved]

lemma saveIndexOf_mono (h : p ≤ q) : saveIndexOf p ≤ saveIndexOf q := by
  induction h with
  | refl => exact le_rfl
  | step h ih =>
    rw [saveIndexOf_succ]
    exact Nat.le_add_right_of_le ih

lemma saveIndexOf_lt (h : p < q) (hsaved : pcrIsStateSaved p = true) :
    saveIndexOf p < saveIndexOf q := by
  have hnext : saveIndexOf (p + 1) = saveIndexOf p + 1 := by rw [saveIndexOf_succ, if_pos hsaved]
  have hmono : saveIndexOf (p + 1) ≤ saveIndexOf q := saveIndexOf_mono h
  omega

lemma savePcr_foldl (allocation : Allocation) (pcrs save : PcrValues) (n : ℕ) :
    ((List.range n).foldl (savePcr allocation pcrs) (save, 0)).2 = saveIndexOf n ∧
    ∀ pcr < n, pcrIsStateSaved pcr = true → ∀ bank, pcrIsAllocated allocation pcr bank = true →
      ((List.range n).foldl (savePcr allocation pcrs) (save, 0)).1 bank (saveIndexOf pcr) =
        pcrs bank pcr := by
  induction n with
  | zero => exact ⟨rfl, fun pcr h => absurd h (Nat.not_lt_zero pcr)⟩
  | succ n ih =>
    rw [range_succ, foldl_append, foldl_cons, foldl_nil]
    generalize (List.range n).foldl (savePcr allocation pcrs) (save, 0) = acc at ih ⊢
    obtain ⟨saved, saveIndex⟩ := acc
    obtain ⟨hindex, hvalues⟩ := ih
    dsimp only at hindex hvalues
    subst hindex
    refine ⟨(saveIndexOf_succ n).symm, ?_⟩
    intro pcr hpcr hsaved bank hallocated
    unfold savePcr
    dsimp only
    obtain hlt | rfl := Nat.lt_succ_iff_lt_or_eq.mp hpcr
    · rw [setBanks_of_ne (saveIndexOf_lt hlt hsaved).ne]
      exact hvalues pcr hlt hsaved bank hallocated
    · rw [setBanks_apply, if_pos ⟨rfl, by rw [hallocated, hsaved]; rfl⟩]

lemma pcrIsAllocated_lt (h : pcrIsAllocated allocation pcr bank = true) :
    pcr < IMPLEMENTATION_PCR :=
  of_decide_eq_true (Bool.and_eq_true_iff.mp h).1

lemma pcrStateSave_saved (s : Tpm) (hsaved : pcrIsStateSaved pcr = true)
    (hallocated : pcrIsAllocated s.gp.pcrAllocated pcr bank = true) :
    (pcrStateSave s).pcrSave bank (saveIndexOf pcr) = s.pcrs bank pcr :=
  (savePcr_foldl s.gp.pcrAllocated s.pcrs s.pcrSave IMPLEMENTATION_PCR).2 pcr
    (pcrIsAllocated_lt hallocated) hsaved bank hallocated

/-! ## `PCRStartup()` -/

lemma touches_startPcr (type : StartupType) (locality : UInt8) (acc : Tpm × ℕ) (pcr : ℕ) :
    Touches {pcr} acc.1 (startPcr type locality acc pcr).1 := by
  obtain ⟨s, saveIndex⟩ := acc
  unfold startPcr
  dsimp only
  have hchanged : Touches {pcr} s
      (if (type == .resume && pcrIsStateSaved pcr) = true then s else pcrChanged pcr s) := by
    split
    · exact .refl s
    · exact touches_pcrChanged _ pcr s
  split_ifs at hchanged ⊢
  all_goals first
    | exact hchanged
    | exact hchanged.trans (touches_setBanks _ pcr _ _)

lemma touches_startPcr_foldl (type : StartupType) (locality : UInt8) (l : List ℕ)
    (acc : Tpm × ℕ) : Touches Set.univ acc.1 (l.foldl (startPcr type locality) acc).1 := by
  induction l generalizing acc with
  | nil => exact .refl _
  | cons pcr l ih =>
    have hfirst := touches_startPcr type locality acc pcr
    exact (hfirst.mono (Set.subset_univ _)).trans (ih _)

lemma startPcr_resume (locality : UInt8) (s : Tpm) (pcr : ℕ) :
    (startPcr .resume locality (s, saveIndexOf pcr) pcr).2 = saveIndexOf (pcr + 1) ∧
    (pcrIsStateSaved pcr = true → ∀ bank, pcrIsAllocated s.gp.pcrAllocated pcr bank = true →
      (startPcr .resume locality (s, saveIndexOf pcr) pcr).1.pcrs bank pcr =
        s.pcrSave bank (saveIndexOf pcr)) := by
  unfold startPcr
  dsimp only
  rw [if_neg fun h => h.2.1 rfl, saveIndexOf_succ]
  refine ⟨rfl, ?_⟩
  intro hsaved bank hallocated
  rw [hsaved]
  simp only [beq_self_eq_true, Bool.and_true, if_true]
  unfold startBanks
  dsimp only
  rw [setBanks_apply, if_pos ⟨rfl, hallocated⟩, if_pos rfl]

lemma startPcr_resume_foldl (locality : UInt8) (s : Tpm) (n : ℕ) :
    ((List.range n).foldl (startPcr .resume locality) (s, 0)).2 = saveIndexOf n ∧
    ∀ pcr < n, pcrIsStateSaved pcr = true →
      ∀ bank, pcrIsAllocated s.gp.pcrAllocated pcr bank = true →
        ((List.range n).foldl (startPcr .resume locality) (s, 0)).1.pcrs bank pcr =
          s.pcrSave bank (saveIndexOf pcr) := by
  induction n with
  | zero => exact ⟨rfl, fun pcr h => absurd h (Nat.not_lt_zero pcr)⟩
  | succ n ih =>
    have htouches := touches_startPcr_foldl .resume locality (List.range n) (s, 0)
    rw [range_succ, foldl_append, foldl_cons, foldl_nil]
    generalize (List.range n).foldl (startPcr .resume locality) (s, 0) = acc at ih htouches ⊢
    obtain ⟨s₁, saveIndex⟩ := acc
    obtain ⟨hindex, hvalues⟩ := ih
    dsimp only at hindex hvalues htouches
    subst hindex
    obtain ⟨hnext, hrestored⟩ := startPcr_resume locality s₁ n
    refine ⟨hnext, ?_⟩
    intro pcr hpcr hsaved bank hallocated
    obtain hlt | rfl := Nat.lt_succ_iff_lt_or_eq.mp hpcr
    · have hkept := touches_startPcr .resume locality (s₁, saveIndexOf n) n
      rw [hkept.others bank pcr (by simpa using hlt.ne)]
      exact hvalues pcr hlt hsaved bank hallocated
    · rw [hrestored hsaved bank (by rw [htouches.gp]; exact hallocated), htouches.pcrSave]

lemma touches_pcrStartup (type : StartupType) (locality : UInt8) (s : Tpm) :
    Touches Set.univ (beginPcrStartup type s) (pcrStartup type locality s) :=
  touches_startPcr_foldl type locality _ (beginPcrStartup type s, 0)

lemma pcrStartup_resumed (locality : UInt8) (s : Tpm) (hsaved : pcrIsStateSaved pcr = true)
    (hallocated : pcrIsAllocated s.gp.pcrAllocated pcr bank = true) :
    (pcrStartup .resume locality s).pcrs bank pcr = s.pcrSave bank (saveIndexOf pcr) := by
  have hloop := startPcr_resume_foldl locality (beginPcrStartup .resume s) IMPLEMENTATION_PCR
  exact hloop.2 pcr (pcrIsAllocated_lt hallocated) hsaved bank hallocated

/-! ## The PCR counter -/

/-- The counter grows by at most `n`, and failure mode is not entered unless it wraps. -/
def Bumps (n : ℕ) (s s' : Tpm) : Prop :=
  s.pcrCounter.toNat + n < 2 ^ 32 →
    s'.pcrCounter.toNat ≤ s.pcrCounter.toNat + n ∧ s'.inFailureMode = s.inFailureMode

namespace Bumps

variable {n m : ℕ} {s s' s'' : Tpm}

protected lemma refl (s : Tpm) : Bumps 0 s s := fun _ => ⟨le_rfl, rfl⟩

protected lemma trans (h : Bumps n s s') (h' : Bumps m s' s'') : Bumps (n + m) s s'' := by
  intro hfits
  obtain ⟨hle, hmode⟩ := h (by omega)
  obtain ⟨hle', hmode'⟩ := h' (by omega)
  exact ⟨by omega, hmode'.trans hmode⟩

lemma mono (h : Bumps n s s') (hnm : n ≤ m) : Bumps m s s' := by
  intro hfits
  obtain ⟨hle, hmode⟩ := h (by omega)
  exact ⟨by omega, hmode⟩

lemma foldl {α : Type} {f : Tpm → α → Tpm} {l : List α} (h : ∀ s a, Bumps n s (f s a))
    (s : Tpm) : Bumps (l.length * n) s (l.foldl f s) := by
  induction l generalizing s with
  | nil =>
    rw [length_nil, Nat.zero_mul]
    exact .refl s
  | cons a l ih =>
    have hboth := (h s a).trans (ih (f s a))
    rw [length_cons, Nat.succ_mul, Nat.add_comm]
    exact hboth

end Bumps

lemma bumps_pcrChanged (pcr : ℕ) (s : Tpm) : Bumps 1 s (pcrChanged pcr s) := by
  intro hfits
  have hnext : (s.pcrCounter + 1).toNat = s.pcrCounter.toNat + 1 := by
    rw [UInt32.toNat_add]
    exact Nat.mod_eq_of_lt hfits
  unfold pcrChanged
  dsimp only
  split_ifs with hcounted hwraps
  · have hzero : (s.pcrCounter + 1).toNat = 0 := by
      rw [hwraps]
      rfl
    omega
  · exact ⟨hnext.le, rfl⟩
  · exact ⟨Nat.le_succ _, rfl⟩

lemma bumps_pcrExtend (h : HashAlg) (pcr : ℕ) (hash : Bank) (data : Bytes) (s : Tpm) :
    Bumps 1 s (pcrExtend h pcr hash data s) := by
  unfold pcrExtend
  split
  · exact bumps_pcrChanged pcr (s.setPcr hash pcr _)
  · exact (Bumps.refl s).mono (Nat.zero_le 1)

lemma bumps_extendAll (h : HashAlg) (pcr : ℕ) (digests : List (Bank × Bytes)) (s : Tpm) :
    Bumps digests.length s (extendAll h pcr digests s) := by
  have hloop := Bumps.foldl (l := digests) (fun s d => bumps_pcrExtend h pcr d.1 d.2 s) s
  rw [Nat.mul_one] at hloop
  exact hloop

lemma bumps_startPcr (type : StartupType) (locality : UInt8) (acc : Tpm × ℕ) (pcr : ℕ) :
    Bumps 1 acc.1 (startPcr type locality acc pcr).1 := by
  obtain ⟨s, saveIndex⟩ := acc
  unfold startPcr
  dsimp only
  have hchanged : Bumps 1 s
      (if (type == .resume && pcrIsStateSaved pcr) = true then s else pcrChanged pcr s) := by
    split
    · exact (Bumps.refl s).mono (Nat.zero_le 1)
    · exact bumps_pcrChanged pcr s
  split_ifs at hchanged ⊢
  all_goals exact hchanged

lemma bumps_startPcr_foldl (type : StartupType) (locality : UInt8) (l : List ℕ)
    (acc : Tpm × ℕ) : Bumps l.length acc.1 (l.foldl (startPcr type locality) acc).1 := by
  induction l generalizing acc with
  | nil => exact .refl _
  | cons pcr l ih =>
    have hboth := (bumps_startPcr type locality acc pcr).trans (ih _)
    rw [length_cons, Nat.add_comm]
    exact hboth

lemma bumps_pcrStartup (type : StartupType) (locality : UInt8) (s : Tpm) :
    Bumps IMPLEMENTATION_PCR (beginPcrStartup type s) (pcrStartup type locality s) := by
  have hbumps := bumps_startPcr_foldl type locality (List.range IMPLEMENTATION_PCR)
    (beginPcrStartup type s, 0)
  rw [length_range] at hbumps
  exact hbumps

/-! ## Commands -/

lemma keeps_modify {f : Tpm → Tpm} (h : ∀ s, R s (f s)) : Keeps R (modify f : PcrM Unit) := h

lemma keeps_returnIfNvIsNotAvailable [IsPreorder Tpm R] : Keeps R returnIfNvIsNotAvailable :=
  keeps_bind (keeps_gets _) fun _ => keeps_stopIf _ _

lemma keeps_returnIfOrderly [IsPreorder Tpm R] (h : ∀ s, R s { s with clearOrderly := true }) :
    Keeps R returnIfOrderly :=
  keeps_bind (keeps_gets _) fun _ => keeps_bind (keeps_stopIf _ _) fun _ => keeps_modify h

lemma keeps_checkStateSaved [IsPreorder Tpm R] (h : ∀ s, R s { s with clearOrderly := true })
    (pcr : ℕ) : Keeps R (checkStateSaved pcr) :=
  keeps_ite (keeps_returnIfOrderly h) (keeps_pure _)

lemma keeps_checkExtend [IsPreorder Tpm R] (h : ∀ s, R s { s with clearOrderly := true })
    (locality : UInt8) (pcr : ℕ) : Keeps R (checkExtend locality pcr) :=
  keeps_bind (keeps_stopIf _ _) fun _ => keeps_checkStateSaved h pcr

lemma commandBody_cases (h : HashAlg) (env : Env) (c : Command) (s : Tpm) :
    (commandBody h env c s).2 = s ∨
      (s.power.initialized = true ∧ env.refused = none ∧
        commandBody h env c s = c.action h s) := by
  unfold commandBody
  rw [gets_bind]
  cases hinitialized : s.power.initialized with
  | false =>
    rw [stopIf_bind_of rfl]
    exact .inl rfl
  | true =>
    rw [stopIf_bind_of_not nofun]
    cases hrefused : env.refused with
    | some rc => exact .inl rfl
    | none => exact .inr ⟨rfl, rfl, rfl⟩

lemma returnIfNvIsNotAvailable_bind {α : Type} (k : Unit → PcrM α) (s : Tpm) :
    (returnIfNvIsNotAvailable >>= k) s =
      if s.nvStatus ≠ TPM_RC_SUCCESS then (.error s.nvStatus, s) else k () s := by
  unfold returnIfNvIsNotAvailable
  rw [bind_assoc, gets_bind]
  split
  case isTrue h => exact stopIf_bind_of h _ _ _
  case isFalse h => exact stopIf_bind_of_not h _ _ _

/-- The part of a command that another subsystem may make fail does not. -/
structure Env.Sound (env : Env) : Prop where
  commitOk : env.commitOk = true
  before : env.before.fails = false
  after : env.after.fails = false

lemma execute_ok {env : Env} {body : PcrM Unit} (h : execute env body s = (.ok (), s')) :
    s.inFailureMode = false ∧
      ∃ s₁, body (beginCommand env s) = (.ok (), s₁) ∧ endCommand env s₁ = s' := by
  unfold execute at h
  split at h
  case isTrue => cases h
  case isFalse hmode =>
    obtain ⟨hfst, hsnd⟩ := Prod.mk.inj h
    exact ⟨by simpa using hmode, _, Prod.ext hfst rfl, hsnd⟩

lemma commandBody_ok {h : HashAlg} {env : Env} {c : Command}
    (hbody : commandBody h env c s = (.ok (), s')) :
    s.power.initialized = true ∧ c.action h s = (.ok (), s') := by
  unfold commandBody at hbody
  rw [gets_bind] at hbody
  obtain ⟨_, s₁, hstop, hbody⟩ := bind_ok hbody
  obtain ⟨hinitialized, rfl⟩ := stopIf_ok hstop
  cases hrefused : env.refused with
  | some rc =>
    rw [hrefused] at hbody
    cases hbody
  | none =>
    rw [hrefused] at hbody
    exact ⟨by simpa using hinitialized, hbody⟩

lemma tpm2PcrAllocate_ok {allocate : List Selection} {out : AllocateOut}
    (h : tpm2PcrAllocate allocate s = (.ok out, s')) :
    s' = { s.writePersistent (fun p =>
        { p with pcrAllocated := newAllocate s.gp.pcrAllocated allocate }) with
        pcrReConfig := true } ∧
      out.allocationSuccess = true := by
  obtain ⟨_, s₁, havailable, h⟩ := bind_ok h
  obtain ⟨nvStatus, s₂, hget, havailable⟩ := bind_ok havailable
  obtain ⟨-, rfl⟩ := gets_ok hget
  obtain ⟨-, rfl⟩ := stopIf_ok havailable
  obtain ⟨out', s₃, hallocate, h⟩ := bind_ok h
  obtain ⟨allocation, s₄, hget, hallocate⟩ := bind_ok hallocate
  obtain ⟨rfl, rfl⟩ := gets_ok hget
  obtain ⟨_, s₅, hstop, hallocate⟩ := bind_ok hallocate
  obtain ⟨-, rfl⟩ := stopIf_ok hstop
  obtain ⟨_, s₆, hwrite, hallocate⟩ := bind_ok hallocate
  obtain rfl := modify_ok hwrite
  obtain ⟨rfl, rfl⟩ := pure_ok hallocate
  obtain ⟨_, s₇, hflag, h⟩ := bind_ok h
  obtain rfl := modify_ok hflag
  obtain ⟨rfl, rfl⟩ := pure_ok h
  exact ⟨rfl, rfl⟩

end RfTpm.Pcr
