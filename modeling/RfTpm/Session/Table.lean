import RfTpm.Exec.Areas
import RfTpm.Lib.Fallible

/-!
# The table of sessions

`Session.c` as far as it keeps track of sessions.  A session is in memory, in one of a few slots,
or it has been saved: then the caller has it, and the TPM only remembers in `gr.contextArray` the
low 16 bits of the number it was saved under.  The entry of the array is 0 if the handle is free,
the number of a slot if the session is loaded, and such a truncated number otherwise.
-/

namespace RfTpm.Sessions

open Fallible

def TPM_RC_TOO_MANY_CONTEXTS : TpmRc := 0x12E
def TPM_RC_CONTEXT_GAP : TpmRc := 0x901
def TPM_RC_SESSION_MEMORY : TpmRc := 0x903
def TPM_RC_SESSION_HANDLES : TpmRc := 0x905

def MAX_LOADED_SESSIONS : ℕ := 3

/-- The cast to `CONTEXT_SLOT`. -/
def lowBits (n : ℕ) : ℕ := n % 2 ^ 16

/-! ## The state -/

/-- The session data of `STATE_RESET_DATA`: what survives a state save. -/
structure Tracking where
  contextArray : ℕ → ℕ
  contextCounter : ℕ

/-- An entry of the array is written. -/
def Tracking.setEntry (g : Tracking) (index value : ℕ) : Tracking :=
  { g with contextArray := Function.update g.contextArray index value }

structure Slot (α : Type) where
  occupied : Bool
  session : α

/-- The table.  `oldestSavedSession` is an index of the array, or beyond it if no session is
saved. -/
structure Table (α : Type) where
  gr : Tracking
  sessions : ℕ → Slot α
  freeSessionSlots : ℕ
  oldestSavedSession : ℕ

abbrev TableM (α : Type) := Fallible TpmRc (Table α)

/-- `handle & HR_HANDLE_MASK` -/
def contextIndex (handle : TpmHandle) : ℕ := handle.toNat % 2 ^ 24

variable {α : Type}

/-! ## `Session.c` -/

namespace Table

/-- The turn of the loop of `ContextIdSetOldest()` for one entry, with `smallest` and the index
found so far. -/
def oldestTurn (g : Tracking) : ℕ × ℕ → ℕ → ℕ × ℕ
  | (smallest, oldest), i =>
    let entry := g.contextArray i
    let age := lowBits (entry + 2 ^ 16 - lowBits g.contextCounter)
    if entry > MAX_LOADED_SESSIONS ∧ age ≤ smallest then (age, i) else (smallest, oldest)

/-- `ContextIdSetOldest()` -/
def contextIdSetOldest (t : Table α) : Table α :=
  { t with
    oldestSavedSession := ((List.range MAX_ACTIVE_SESSIONS.toNat).foldl (oldestTurn t.gr)
      (2 ^ 16 - 1, MAX_ACTIVE_SESSIONS.toNat + 1)).2 }

/-- `SessionIsLoaded()` -/
def sessionIsLoaded (t : Table α) (handle : TpmHandle) : Bool :=
  !(contextIndex handle ≥ MAX_ACTIVE_SESSIONS.toNat ||
    t.gr.contextArray (contextIndex handle) == 0 ||
    t.gr.contextArray (contextIndex handle) > MAX_LOADED_SESSIONS)

/-- `SessionGet()`, for a session that is loaded. -/
def sessionGet (t : Table α) (handle : TpmHandle) : α :=
  (t.sessions (t.gr.contextArray (contextIndex handle) - 1)).session

/-- The free slot that a search from the first one finds. -/
def freeSlot (t : Table α) : Option ℕ :=
  (List.range MAX_LOADED_SESSIONS).find? fun i => !(t.sessions i).occupied

/-- A session is put into a slot. -/
def occupy (t : Table α) (slotIndex : ℕ) (session : α) : Table α :=
  { t with
    sessions := Function.update t.sessions slotIndex ⟨true, session⟩
    freeSessionSlots := t.freeSessionSlots - 1 }

/-- A slot is freed. -/
def vacate (t : Table α) (slotIndex : ℕ) : Table α :=
  { t with
    sessions := Function.update t.sessions slotIndex
      { t.sessions slotIndex with occupied := false }
    freeSessionSlots := t.freeSessionSlots + 1 }

def setEntry (t : Table α) (index value : ℕ) : Table α := { t with gr := t.gr.setEntry index value }

/-- The next context would get the same truncated number as the oldest one that is saved. -/
def gapIsMax (t : Table α) : Bool :=
  t.oldestSavedSession < MAX_ACTIVE_SESSIONS.toNat &&
    t.gr.contextArray t.oldestSavedSession == lowBits t.gr.contextCounter

end Table

/-- `ContextIdSessionCreate()`: the index of the handle. -/
def contextIdSessionCreate (sessionIndex : ℕ) : TableM α ℕ := do
  let t ← gets id
  stopIf (t.freeSessionSlots = 1 ∧ t.gapIsMax) TPM_RC_CONTEXT_GAP
  match (List.range MAX_ACTIVE_SESSIONS.toNat).find? fun i => t.gr.contextArray i == 0 with
  | none => stop TPM_RC_SESSION_HANDLES
  | some handle => do
      .modify (·.setEntry handle (sessionIndex + 1))
      pure handle

/-- `SessionCreate()`: the index of the handle of the new session.  A count of free slots
without a free slot is an internal error, and the source goes on after a `FAIL`. -/
def sessionCreate (session : α) : TableM α ℕ := do
  let t ← gets id
  stopIf (t.freeSessionSlots = 0) TPM_RC_SESSION_MEMORY
  match t.freeSlot with
  | none => stop TPM_RC_FAILURE
  | some slotIndex => do
      let handle ← contextIdSessionCreate slotIndex
      .modify (·.occupy slotIndex session)
      pure handle

/-- The context counter after a save.  If its low bits wrap, the numbers of the slots are
skipped. -/
def advance (counter : ℕ) : ℕ :=
  if lowBits (counter + 1) = 0 then counter + 1 + (MAX_LOADED_SESSIONS + 1) else counter + 1

/-- `SessionContextSave()`: the number the session is saved under.  If the counter is used up, the
entry has been written already. -/
def sessionContextSave (index : ℕ) : TableM α ℕ := do
  let t ← gets id
  stopIf (t.gapIsMax = true) TPM_RC_CONTEXT_GAP
  let contextID := t.gr.contextCounter
  let slotIndex := t.gr.contextArray index - 1
  .modify (·.setEntry index (lowBits contextID))
  stopIf (contextID + 1 = 2 ^ 64) TPM_RC_TOO_MANY_CONTEXTS
  .modify fun t => { t with gr := { t.gr with contextCounter := advance contextID } }
  .modify fun t =>
    if t.oldestSavedSession ≥ MAX_ACTIVE_SESSIONS.toNat then { t with oldestSavedSession := index }
    else t
  .modify (·.vacate slotIndex)
  pure contextID

/-- `SessionContextLoad()` -/
def sessionContextLoad (session : α) (index : ℕ) : TableM α Unit := do
  let t ← gets id
  stopIf (t.freeSessionSlots = 0) TPM_RC_SESSION_MEMORY
  match t.freeSlot with
  | none => stop TPM_RC_FAILURE
  | some slotIndex => do
      stopIf (t.freeSessionSlots = 1 ∧ t.gapIsMax ∧ index ≠ t.oldestSavedSession)
        TPM_RC_CONTEXT_GAP
      .modify (·.setEntry index (slotIndex + 1))
      .modify fun t => if index = t.oldestSavedSession then t.contextIdSetOldest else t
      .modify (·.occupy slotIndex session)

/-! ## Operations that fail -/

namespace Table

section Operations

variable {t t' : Table α} {i k : ℕ} {session : α}

lemma stopIf_bind_error {β : Type} {c : Prop} [Decidable c] {e rc : TpmRc}
    {f : Unit → TableM α β} (h : (stopIf c e >>= f) t = (.error rc, t')) :
    t' = t ∨ f () t = (.error rc, t') := by
  by_cases hc : c
  · rw [stopIf_bind_of hc] at h
    exact .inl (congrArg Prod.snd h).symm
  · rw [stopIf_bind_of_not hc] at h
    exact .inr h

lemma sessionCreate_error {rc : TpmRc} (herror : sessionCreate session t = (.error rc, t')) :
    t' = t := by
  unfold sessionCreate at herror
  rw [gets_bind] at herror
  dsimp only [id] at herror
  obtain hsame | herror := stopIf_bind_error herror
  · exact hsame
  cases hslot : t.freeSlot with
  | none =>
    simp only [hslot] at herror
    exact (congrArg Prod.snd herror).symm
  | some k =>
    simp only [hslot] at herror
    unfold contextIdSessionCreate at herror
    rw [bind_assoc, gets_bind, bind_assoc] at herror
    dsimp only [id] at herror
    obtain hsame | herror := stopIf_bind_error herror
    · exact hsame
    cases hfind : (List.range MAX_ACTIVE_SESSIONS.toNat).find?
        fun i => t.gr.contextArray i == 0 with
    | none =>
      simp only [hfind] at herror
      exact (congrArg Prod.snd herror).symm
    | some index =>
      simp only [hfind] at herror
      rw [bind_assoc, modify_bind, pure_bind, modify_bind, pure_apply] at herror
      cases herror

lemma sessionContextSave_error {rc : TpmRc}
    (herror : sessionContextSave i t = (.error rc, t')) :
    t' = t ∨ t.gr.contextCounter + 1 = 2 ^ 64 := by
  unfold sessionContextSave at herror
  rw [gets_bind] at herror
  dsimp only [id] at herror
  obtain hsame | herror := stopIf_bind_error herror
  · exact .inl hsame
  rw [modify_bind] at herror
  by_cases hmany : t.gr.contextCounter + 1 = 2 ^ 64
  · exact .inr hmany
  rw [stopIf_bind_of_not hmany, modify_bind, modify_bind, modify_bind, pure_apply] at herror
  cases herror

lemma sessionContextLoad_error {rc : TpmRc}
    (herror : sessionContextLoad session i t = (.error rc, t')) : t' = t := by
  unfold sessionContextLoad at herror
  rw [gets_bind] at herror
  dsimp only [id] at herror
  obtain hsame | herror := stopIf_bind_error herror
  · exact hsame
  cases hslot : t.freeSlot with
  | none =>
    simp only [hslot] at herror
    exact (congrArg Prod.snd herror).symm
  | some k =>
    simp only [hslot] at herror
    obtain hsame | herror := stopIf_bind_error herror
    · exact hsame
    rw [modify_bind, modify_bind] at herror
    cases congrArg Prod.fst herror

end Operations

end Table

end RfTpm.Sessions
