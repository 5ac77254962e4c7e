import RfTpm.Session.Table

/-!
# Session operations that fail

`SessionCreate()`, `SessionContextSave()` and `SessionContextLoad()` make all their tests before
they change the table, with one exception: `SessionContextSave()` finds out that the counter is
used up after it has written the number of the context into `gr.contextArray`.  The counter is
backed up, the entry is not, so the session is neither loaded nor saved any more and its slot is
lost.
-/

namespace RfTpm.Sessions

open Fallible

variable {α : Type}

/-- The operations that may fail, with the session that is put into memory and the index of the
handle. -/
inductive Operation (α : Type) where
  | create (session : α)
  | save (index : ℕ)
  | load (session : α) (index : ℕ)

/-- The table after an operation that returned an error code, if it did. -/
def Operation.failed (t : Table α) : Operation α → Option (Table α)
  | .create session => after (sessionCreate session t)
  | .save index => after (sessionContextSave index t)
  | .load session index => after (sessionContextLoad session index t)
where
  after {β : Type} : Except TpmRc β × Table α → Option (Table α)
    | (.error _, t') => some t'
    | (.ok _, _) => none

lemma Operation.after_eq_some {β : Type} {r : Except TpmRc β × Table α} {t' : Table α}
    (h : Operation.failed.after r = some t') : ∃ rc, r = (.error rc, t') := by
  obtain ⟨result, s⟩ := r
  cases result with
  | ok b => cases h
  | error rc => exact ⟨rc, by rw [Option.some.inj h]⟩

/-- The counter has its last value, and the gap does not stop the save before it is used. -/
def Table.UsedUp (t : Table α) (index : ℕ) : Prop :=
  t.gr.contextCounter + 1 = 2 ^ 64 ∧ t.gapIsMax = false ∧
    t.gr.contextArray index ≠ lowBits t.gr.contextCounter

lemma sessionContextSave_usedUp {t : Table α} {index : ℕ}
    (hcounter : t.gr.contextCounter + 1 = 2 ^ 64) (hgap : t.gapIsMax = false) :
    sessionContextSave index t =
      (.error TPM_RC_TOO_MANY_CONTEXTS, t.setEntry index (lowBits t.gr.contextCounter)) := by
  unfold sessionContextSave
  rw [gets_bind]
  dsimp only [id]
  rw [stopIf_bind_of_not (by simp [hgap]), modify_bind, stopIf_bind_of hcounter]

/-- An operation that fails leaves the whole table as it was, unless it is a save with a counter
that is used up. -/
theorem failed_changes_nothing_iff (t : Table α) (operation : Operation α) :
    (∀ t', operation.failed t = some t' → t' = t) ↔
      ∀ index, operation = .save index → ¬ t.UsedUp index := by
  constructor
  · rintro hfailed index rfl ⟨hcounter, hgap, hentry⟩
    have hsame := hfailed (t.setEntry index (lowBits t.gr.contextCounter))
      (by rw [Operation.failed, sessionContextSave_usedUp hcounter hgap]; rfl)
    have harray := congrFun (congrArg (fun s : Table α => s.gr.contextArray) hsame) index
    exact hentry (by simpa [Table.setEntry, Tracking.setEntry] using harray.symm)
  · intro husable t' hfailed
    cases operation with
    | create session =>
      obtain ⟨rc, herror⟩ := Operation.after_eq_some hfailed
      exact Table.sessionCreate_error herror
    | load session index =>
      obtain ⟨rc, herror⟩ := Operation.after_eq_some hfailed
      exact Table.sessionContextLoad_error herror
    | save index =>
      obtain ⟨rc, herror⟩ := Operation.after_eq_some hfailed
      obtain hsame | hcounter := Table.sessionContextSave_error herror
      · exact hsame
      cases hgap : t.gapIsMax with
      | true =>
        unfold sessionContextSave at herror
        rw [gets_bind] at herror
        dsimp only [id] at herror
        rw [stopIf_bind_of hgap] at herror
        exact (congrArg Prod.snd herror).symm
      | false =>
        have hentry : t.gr.contextArray index = lowBits t.gr.contextCounter := by
          by_contra hne
          exact husable index rfl ⟨hcounter, hgap, hne⟩
        rw [sessionContextSave_usedUp hcounter hgap] at herror
        rw [← (Prod.mk.inj herror).2, Table.setEntry, Tracking.setEntry, ← hentry,
          Function.update_eq_self]

/-- Session 0 is loaded, and the counter has its last value. -/
def lastCounter : Table Unit where
  gr := ⟨fun i => if i = 0 then 1 else 0, 2 ^ 64 - 1⟩
  sessions i := ⟨i == 0, ()⟩
  freeSessionSlots := 2
  oldestSavedSession := 65

/-- Its save is refused, but its entry is no longer that of its slot. -/
theorem failed_save_changes_entry :
    lastCounter.sessionIsLoaded HMAC_SESSION_FIRST = true ∧
      (Operation.save 0).failed lastCounter = some (lastCounter.setEntry 0 0xFFFF) ∧
      lastCounter.setEntry 0 0xFFFF ≠ lastCounter := by
  refine ⟨by decide, ?_, ?_⟩
  · rw [Operation.failed, sessionContextSave_usedUp (by rfl) (by rfl)]
    rfl
  · intro hsame
    have hentry := congrFun (congrArg (fun s : Table Unit => s.gr.contextArray) hsame) 0
    cases hentry

end RfTpm.Sessions
