import RfTpm.Exec.Power
import RfTpm.Nv.LoopSpec

/-!
# Commit and restart on represented states

What the end of a command and the next startup do to the table.  A commit that was asked
for with `UT_ORDERLY` makes the saved copy of every orderly index its live copy
(`Slot.save`); any other commit leaves the copies alone.  A startup rebuilds the RAM from
the image, whatever the RAM held.
-/

namespace RfTpm

open Bytes

variable {s s' : Nv} {ts : List Slot} {maxCount : UInt64}

/-! ## The reserved area -/

lemma ImageRep.congr {nv nv' : Mem} (h : ImageRep nv ts maxCount)
    (hnv : ∀ a, NV_INDEX_RAM_DATA ≤ a → nv' a = nv a) : ImageRep nv' ts maxCount where
  dyn := h.dyn.congr fun a ha _ => hnv a (le_trans (by decide) ha)
  backup := h.backup.congr fun a ha _ => hnv a ha
  nodup := h.nodup

lemma Rep.congr (h : Rep s ts maxCount) (hnv : ∀ a, NV_INDEX_RAM_DATA ≤ a → s'.nv a = s.nv a)
    (hram : s'.indexOrderlyRam = s.indexOrderlyRam) (hend : s'.evictNvEnd = s.evictNvEnd)
    (horderly : s.updateNv = .orderly → s'.updateNv = .orderly) : Rep s' ts maxCount where
  dyn := h.dyn.congr fun a ha _ => hnv a (le_trans (by decide) ha)
  ram := hram ▸ h.ram
  backup := h.backup.imp horderly fun hb => hb.congr fun a ha _ => hnv a ha
  nodup := h.nodup
  evictEnd := hend.trans h.evictEnd

/-- The state after a write to the reserved area. -/
structure WritesReserved (s s' : Nv) : Prop where
  eq : s' = { s with nv := s'.nv, updateNv := s'.updateNv }
  above : ∀ a, NV_INDEX_RAM_DATA ≤ a → s'.nv a = s.nv a
  orderly : s.updateNv = .orderly → s'.updateNv = .orderly
  touched : s'.updateNv = .none → s.updateNv = .none ∧ s'.nv = s.nv

namespace WritesReserved

lemma refl (s : Nv) : WritesReserved s s := ⟨rfl, fun _ _ => rfl, id, fun h => ⟨h, rfl⟩⟩

lemma rep (h : WritesReserved s s') (hrep : Rep s ts maxCount) : Rep s' ts maxCount :=
  hrep.congr h.above (by rw [h.eq]) (by rw [h.eq]) h.orderly

lemma withNv {nv : Mem} (hnv : ∀ a, NV_INDEX_RAM_DATA ≤ a → nv a = s.nv a) :
    WritesReserved s (s.withNv nv) where
  eq := rfl
  above := hnv
  orderly hs := by simp [Nv.withNv, hs, UpdateType.orderly_lor]
  touched hs := absurd hs (UpdateType.lor_nv_ne_none _)

end WritesReserved

lemma writeReserved_spec (reserved : Option Mem) (s : Nv) :
    WritesReserved s (writeReserved reserved s).2 ∧
      readOrderlyState (writeReserved reserved s).2.nv = readOrderlyState s.nv := by
  cases reserved with
  | none => exact ⟨.refl s, rfl⟩
  | some bytes =>
    refine ⟨.withNv fun a ha => if_neg ?_, rfl⟩
    simp only [NV_INDEX_RAM_DATA, NV_ORDERLY_STATE] at ha ⊢
    omega

/-- The state after `NV_SYNC_PERSISTENT(orderlyState)`. -/
def Nv.syncedOrderly (s : Nv) : Nv :=
  s.withNv (s.nv.write NV_ORDERLY_STATE (leBytes 2 s.orderlyState.toNat))

lemma nvSyncOrderlyState_eq (s : Nv) : nvSyncOrderlyState s = (true, s.syncedOrderly) := by
  have hle : NV_ORDERLY_STATE + (leBytes 2 s.orderlyState.toNat).length ≤ NV_MEMORY_SIZE := by
    rw [length_leBytes]
    decide
  simp only [nvSyncOrderlyState, NvM.bind_apply, NvM.gets_apply, nvWrite_eq _ hle]
  rfl

lemma syncedOrderly_reserved (s : Nv) : WritesReserved s s.syncedOrderly := by
  refine .withNv fun a ha => Mem.write_outside (Or.inr ?_)
  rw [length_leBytes]
  exact le_trans (by decide) ha

lemma readOrderlyState_synced (s : Nv) :
    readOrderlyState s.syncedOrderly.nv = s.orderlyState := by
  have hat := Mem.hasAt_write s.nv NV_ORDERLY_STATE (leBytes 2 s.orderlyState.toNat)
  have hle : s.syncedOrderly.nv.le NV_ORDERLY_STATE 2 = s.orderlyState.toNat :=
    hat.le s.orderlyState.toNat_lt
  rw [readOrderlyState, hle, UInt16.ofNat_toNat]

/-- The state after the clean-up has cleared the orderly state, if it has to. -/
def Nv.orderlyCleared (s : Nv) : Nv :=
  if s.toGlobals.clearsOrderly s.orderlyState then
    ({ s with orderlyState := SU_NONE_VALUE } : Nv).syncedOrderly
  else s

lemma clearOrderlyState_eq (s : Nv) : clearOrderlyState s = ((), s.orderlyCleared) := by
  cases hc : s.toGlobals.clearsOrderly s.orderlyState with
  | false => simp [clearOrderlyState, hc, Nv.orderlyCleared]
  | true => simp [clearOrderlyState, hc, nvSyncOrderlyState_eq, Nv.orderlyCleared]

/-! ## The commit -/

/-- The image a commit writes: `NvUpdateIndexOrderlyData()` first copies the RAM to its
backing store if the command asked for that. -/
def Nv.commitImage (s : Nv) : Mem :=
  if s.updateNv = .orderly then
    s.nv.write NV_INDEX_RAM_DATA (s.indexOrderlyRam.read 0 RAM_INDEX_SPACE)
  else s.nv

lemma commitUpdate_requested (commitOk : Bool) (hu : s.updateNv ≠ .none)
    (hf : s.inFailureMode = false) :
    commitUpdate commitOk s = ((), if commitOk then
        { s with nv := s.commitImage, file := s.commitImage, updateNv := .none }
      else { s with nv := s.commitImage, inFailureMode := true, updateNv := .none }) := by
  have hle : NV_INDEX_RAM_DATA + (s.indexOrderlyRam.read 0 RAM_INDEX_SPACE).length ≤
      NV_MEMORY_SIZE := by
    rw [Mem.length_read]
    decide
  have hw := nvWrite_eq (s := s) _ hle
  have hcommits : s.toGlobals.commits .none = true := by simp [Globals.commits, hu, hf]
  cases ho : s.updateNv == .orderly with
  | true =>
    have himage : s.commitImage = s.nv.write NV_INDEX_RAM_DATA _ := if_pos (by simpa using ho)
    cases commitOk <;>
      simp [commitUpdate, hcommits, ho, nvUpdateIndexOrderlyData, hw, Globals.nvCommit,
        Globals.fail, Nv.withNv, himage]
  | false =>
    have himage : s.commitImage = s.nv := if_neg (by simpa using ho)
    cases commitOk <;>
      simp [commitUpdate, hcommits, ho, Globals.nvCommit, Globals.fail, himage]

lemma commitUpdate_skipped (commitOk : Bool)
    (h : s.updateNv = .none ∨ s.inFailureMode = true) : commitUpdate commitOk s = ((), s) := by
  have hcommits : s.toGlobals.commits .none = false := by
    rcases h with h | h <;> simp [Globals.commits, h]
  simp [commitUpdate, hcommits]

/-- The commit leaves failure mode exactly if there was no failure before it and a commit
that is needed succeeds. -/
lemma commitUpdate_inFailureMode (commitOk : Bool) (s : Nv) :
    (commitUpdate commitOk s).2.inFailureMode = false ↔
      s.inFailureMode = false ∧ (s.updateNv = .none ∨ commitOk = true) := by
  by_cases hf : s.inFailureMode = false
  · by_cases hu : s.updateNv = .none
    · rw [commitUpdate_skipped commitOk (Or.inl hu)]
      simp [hf, hu]
    · rw [commitUpdate_requested commitOk hu hf]
      cases commitOk <;> simp [hf, hu]
  · rw [commitUpdate_skipped commitOk (Or.inr (by simpa using hf))]
    simp [hf]

/-! ## A whole command -/

/-- The state at the start of a command's processing. -/
def Nv.started (s : Nv) (nvStatus : TpmRc) : Nv :=
  { s with toGlobals := (s.toGlobals.resetFlags .none).nvCheckState nvStatus }

lemma runCommand_eq (nvStatus : TpmRc) (commitOk : Bool) (body : NvM TpmRc)
    (h : s.inFailureMode = false) :
    runCommand nvStatus commitOk body s = ((body (s.started nvStatus)).1,
      (commitUpdate commitOk (body (s.started nvStatus)).2.orderlyCleared).2) := by
  simp [runCommand, resetFlags, h, nvCheckState, clearOrderlyState_eq, Nv.started]

/-! ## The committed table -/

/-- A slot whose saved copy is its live copy. -/
def Slot.save : Slot → Slot
  | plain p => plain p
  | orderly o => orderly { o with saved := o.live, matches_saved := o.matches_live }
  | evict e => evict e

@[simp]
lemma Slot.entry_save (t : Slot) : t.save.entry = t.entry := by
  cases t <;> rfl

@[simp]
lemma Slot.saved_save (t : Slot) : t.save.saved = t.live := by
  cases t <;> rfl

/-- The table after a commit. -/
def committed (update : UpdateType) (ts : List Slot) : List Slot :=
  if update = .orderly then ts.map Slot.save else ts

@[simp]
lemma entries_committed (update : UpdateType) (ts : List Slot) :
    entries (committed update ts) = entries ts := by
  rw [committed]
  split
  · simp [entries]
  · rfl

lemma commitImage_above (s : Nv) {a : ℕ} (ha : NV_USER_DYNAMIC ≤ a) :
    s.commitImage a = s.nv a := by
  unfold Nv.commitImage
  split
  · refine Mem.write_outside (Or.inr ?_)
    rw [Mem.length_read]
    exact le_trans (by decide) ha
  · rfl

lemma backupRep_write (nv : Mem) {ram : Mem} {rs : List RamEntry} (h : RamRep ram rs) :
    BackupRep (nv.write NV_INDEX_RAM_DATA (ram.read 0 RAM_INDEX_SPACE)) rs := by
  refine RamRep.congr h fun a ha => ?_
  have hlen : a < (ram.read 0 RAM_INDEX_SPACE).length := by rwa [Mem.length_read]
  rw [Mem.write_inside hlen, Mem.getElem_read, Nat.zero_add]

lemma Rep.commitImage (h : Rep s ts maxCount) :
    ImageRep s.commitImage (committed s.updateNv ts) maxCount := by
  have hdyn : DynRep s.commitImage (entries ts) maxCount :=
    h.dyn.congr fun a ha _ => commitImage_above s ha
  by_cases ho : s.updateNv = .orderly
  · rw [committed, if_pos ho]
    refine ⟨?_, ?_, ?_⟩
    · simpa [entries, Function.comp_def] using hdyn
    · have hsaved : savedRam (ts.map Slot.save) = liveRam ts := by
        simp [savedRam, liveRam, List.filterMap_map]
      rw [hsaved, Nv.commitImage, if_pos ho]
      exact backupRep_write s.nv h.ram
    · rw [slotHandles_map fun t => congrArg NvEntry.handle t.entry_save]
      exact h.nodup
  · rw [committed, if_neg ho]
    refine ⟨hdyn, ?_, h.nodup⟩
    rw [Nv.commitImage, if_neg ho]
    exact h.backup.resolve_left ho

/-! ## Startup -/

/-- A startup that is refused, or that fails before it is registered, leaves NV alone.
The second kind forgets the orderly state. -/
structure StartupRefused (s s' : Nv) : Prop where
  eq : s' = { s with
    power := s'.power, prevOrderlyState := s'.prevOrderlyState, orderlyState := s'.orderlyState }
  initialized : s'.power.initialized = s.power.initialized
  orderlyState : s'.orderlyState = s.orderlyState ∨ s'.orderlyState = SU_NONE_VALUE

/-- What `TPM2_Startup()` makes of the image of the table `ts`. -/
structure Started (i : StartupInput) (startupType : UInt16) (s s' : Nv) (ts : List Slot)
    (maxCount : UInt64) : Prop where
  /-- `TPM_SU_STATE` is accepted only after a shutdown that saved the state. -/
  accepted : startupType = TPM_SU_STATE → prevOrderlyStateOf s.orderlyState = TPM_SU_STATE
  rep : Rep s' (ts.map (Slot.startup (startupTypeOf (prevOrderlyStateOf s.orderlyState) startupType)
    (prevOrderlyStateOf s.orderlyState))) maxCount
  file : s'.file = s.file
  initialized : s'.power.initialized = true
  orderlyState : s'.orderlyState = SU_NONE_VALUE
  synced : readOrderlyState s'.nv = SU_NONE_VALUE
  maxCounter : s'.maxCounter = maxCount
  requested : s'.updateNv ≠ .none
  failure : s'.inFailureMode = (s.inFailureMode ||
    startupTypeOf (prevOrderlyStateOf s.orderlyState) startupType == .reset && i.resetCountWraps ||
    !decide (listEnd (entries ts) + NV_LIST_TERMINATOR_SIZE < NV_MEMORY_SIZE))

lemma startSubsystems_ok (i : StartupInput) (type : StartupType) (h : ImageRep s.nv ts maxCount)
    (hend : s.evictNvEnd = NV_MEMORY_SIZE) (hstatus : s.nvStatus = TPM_RC_SUCCESS)
    (hcrypt : i.cryptOk = true) (hpcr : i.pcrOk = true) :
    ∃ s', startSubsystems i type s = (true, s') ∧
      Rep s' (ts.map (Slot.startup type s.prevOrderlyState)) maxCount ∧ s'.file = s.file ∧
      s'.power.initialized = true ∧ s'.maxCounter = maxCount ∧
      s'.inFailureMode = (s.inFailureMode || type == .reset && i.resetCountWraps ||
        !decide (listEnd (entries ts) + NV_LIST_TERMINATOR_SIZE < NV_MEMORY_SIZE)) := by
  set s₁ : Nv := { s with
    power := { s.power with initialized := true }, shEnable := i.shEnable,
    phEnableNv := i.phEnableNv } with hs₁
  obtain ⟨hres, -⟩ := writeReserved_spec i.reserved s₁
  set s₂ := (writeReserved i.reserved s₁).2 with hs₂
  set s₃ := if type == .reset && i.resetCountWraps then s₂.failed else s₂ with hs₃
  have himg : ImageRep s₃.nv ts maxCount := by
    rw [hs₃]
    split <;> exact h.congr hres.above
  have hfile : s₃.file = s.file ∧ s₃.power.initialized = true ∧ s₃.evictNvEnd = s.evictNvEnd ∧
      s₃.nvStatus = s.nvStatus ∧ s₃.prevOrderlyState = s.prevOrderlyState := by
    rw [hs₃, hres.eq]
    split <;> exact ⟨rfl, rfl, rfl, rfl, rfl⟩
  have hfail : s₃.inFailureMode = (s.inFailureMode || type == .reset && i.resetCountWraps) := by
    rw [hs₃, hres.eq]
    split
    · rename_i hc
      simp [hc, Nv.failed]
    · rename_i hc
      simp [hc, hs₁]
  obtain ⟨hf₁, hf₂, hf₃, hf₄, hf₅⟩ := hfile
  obtain ⟨s', hrun, hrep, hframe, hmax, hflag⟩ :=
    nvEntityStartup_eq type himg (hf₃.trans hend) (hf₄.trans hstatus)
  refine ⟨s', ?_, hf₅ ▸ hrep, hframe.file.trans hf₁, ?_, hmax, by rw [hflag, hfail]⟩
  · rw [← hrun, hs₃]
    cases hc : type == .reset && i.resetCountWraps <;>
      simp [startSubsystems, hcrypt, hpcr, hc, fail, ← hs₁, ← hs₂]
  · rw [hframe.power]
    exact hf₂

lemma startSubsystems_pcr (i : StartupInput) (type : StartupType) (hcrypt : i.cryptOk = true)
    (hpcr : ¬ i.pcrOk = true) :
    ∃ s', startSubsystems i type s = (false, s') ∧ s'.inFailureMode = true ∧ s'.file = s.file := by
  set s₁ : Nv := { s with
    power := { s.power with initialized := true }, shEnable := i.shEnable,
    phEnableNv := i.phEnableNv } with hs₁
  have hres := (writeReserved_spec i.reserved s₁).1
  refine ⟨(writeReserved i.reserved s₁).2.failed, ?_, rfl, ?_⟩
  · simp [startSubsystems, hcrypt, hpcr, fail, ← hs₁]
  · show (writeReserved i.reserved s₁).2.file = s.file
    rw [hres.eq]

lemma startupCheck_state {drtm locality3 : Bool} {orderlyState startupType : UInt16}
    (h : startupCheck drtm locality3 orderlyState startupType = TPM_RC_SUCCESS)
    (htype : startupType = TPM_SU_STATE) : prevOrderlyStateOf orderlyState = TPM_SU_STATE := by
  by_contra hne
  rw [startupCheck, if_pos htype, if_pos hne] at h
  cases h

lemma finishStartup_true (s : Nv) : finishStartup true s =
    (TPM_RC_SUCCESS, ({ s with orderlyState := SU_NONE_VALUE } : Nv).syncedOrderly) := by
  simp [finishStartup, nvSyncOrderlyState_eq]

/-- The locality `TPM2_Startup()` records, if no H-CRTM event came first. -/
def Nv.locality3 (s : Nv) (i : StartupInput) : Bool := !s.power.drtmPreStartup && i.locality == 3

/-- The state in which `TPM2_Startup()` checks its parameter. -/
def Nv.beginStartup (s : Nv) (i : StartupInput) : Nv :=
  { s with
    power := { s.power with startupLocality3 := s.locality3 i }
    prevOrderlyState := prevOrderlyStateOf s.orderlyState }

/-- The state in which the subsystems are started. -/
def Nv.acceptStartup (s : Nv) (i : StartupInput) : Nv :=
  { s.beginStartup i with orderlyState := prevOrderlyStateOf s.orderlyState }

/-- A startup that passes the checks. -/
structure StartupAccepted (i : StartupInput) (startupType : UInt16) (s : Nv) : Prop where
  status : s.nvStatus = TPM_RC_SUCCESS
  locality : ¬ (i.locality ≠ 0 ∧ i.locality ≠ 3)
  check : startupCheck s.power.drtmPreStartup (s.locality3 i) s.orderlyState startupType =
    TPM_RC_SUCCESS

lemma StartupAccepted.run {i : StartupInput} {startupType : UInt16}
    (h : StartupAccepted i startupType s) : tpm2Startup i startupType s =
      (startSubsystems i (startupTypeOf (prevOrderlyStateOf s.orderlyState) startupType) >>=
        finishStartup) (s.acceptStartup i) := by
  have hcheck := h.check
  rw [Nv.locality3] at hcheck
  simp [tpm2Startup, h.status, h.locality, hcheck, Nv.acceptStartup, Nv.beginStartup,
    Nv.locality3]

lemma StartupAccepted.started {i : StartupInput} {startupType : UInt16}
    (h : StartupAccepted i startupType s) (himage : ImageRep s.nv ts maxCount)
    (hend : s.evictNvEnd = NV_MEMORY_SIZE) (hcrypt : i.cryptOk = true) (hpcr : i.pcrOk = true) :
    ∃ s', tpm2Startup i startupType s = (TPM_RC_SUCCESS, s') ∧
      Started i startupType s s' ts maxCount := by
  obtain ⟨s', hstart, hrep, hfile, hinit, hmax, hfail⟩ :=
    startSubsystems_ok (s := s.acceptStartup i) i
      (startupTypeOf (prevOrderlyStateOf s.orderlyState) startupType) himage hend h.status hcrypt
      hpcr
  refine ⟨({ s' with orderlyState := SU_NONE_VALUE } : Nv).syncedOrderly, ?_, ?_⟩
  · rw [h.run, NvM.bind_apply, hstart, finishStartup_true]
  · exact
      { accepted := startupCheck_state h.check
        rep := (syncedOrderly_reserved _).rep (hrep.congr (fun _ _ => rfl) rfl rfl id)
        file := hfile
        initialized := hinit
        orderlyState := rfl
        synced := readOrderlyState_synced _
        maxCounter := hmax
        requested := UpdateType.lor_nv_ne_none _
        failure := hfail }

lemma tpm2Startup_cases (i : StartupInput) (startupType : UInt16)
    (h : ImageRep s.nv ts maxCount) (hend : s.evictNvEnd = NV_MEMORY_SIZE) :
    ∃ rc s', tpm2Startup i startupType s = (rc, s') ∧
      (rc ≠ TPM_RC_SUCCESS ∧ StartupRefused s s' ∨
        rc ≠ TPM_RC_SUCCESS ∧ i.pcrOk = false ∧ s'.inFailureMode = true ∧ s'.file = s.file ∨
        rc = TPM_RC_SUCCESS ∧ Started i startupType s s' ts maxCount) := by
  by_cases hstatus : s.nvStatus = TPM_RC_SUCCESS
  swap
  · exact ⟨s.nvStatus, s, by simp [tpm2Startup, hstatus],
      Or.inl ⟨hstatus, rfl, rfl, Or.inl rfl⟩⟩
  by_cases hlocality : i.locality ≠ 0 ∧ i.locality ≠ 3
  · exact ⟨TPM_RC_LOCALITY, s, by simp [tpm2Startup, hstatus, hlocality],
      Or.inl ⟨by decide, rfl, rfl, Or.inl rfl⟩⟩
  by_cases hcheck : startupCheck s.power.drtmPreStartup (s.locality3 i) s.orderlyState
      startupType = TPM_RC_SUCCESS
  swap
  · refine ⟨_, s.beginStartup i, ?_, Or.inl ⟨hcheck, rfl, rfl, Or.inl rfl⟩⟩
    rw [Nv.locality3] at hcheck
    simp [tpm2Startup, hstatus, hlocality, hcheck, Nv.beginStartup, Nv.locality3]
  have haccepted : StartupAccepted i startupType s := ⟨hstatus, hlocality, hcheck⟩
  by_cases hcrypt : i.cryptOk = true
  swap
  · refine ⟨TPM_RC_FAILURE, { s.acceptStartup i with orderlyState := SU_NONE_VALUE }, ?_,
      Or.inl ⟨by decide, rfl, rfl, Or.inr rfl⟩⟩
    rw [haccepted.run]
    simp [startSubsystems, hcrypt, finishStartup]
  by_cases hpcr : i.pcrOk = true
  swap
  · obtain ⟨s', hstart, hfail, hfile⟩ := startSubsystems_pcr (s := s.acceptStartup i) i
      (startupTypeOf (prevOrderlyStateOf s.orderlyState) startupType) hcrypt hpcr
    refine ⟨TPM_RC_FAILURE, { s' with orderlyState := SU_NONE_VALUE }, ?_,
      Or.inr (Or.inl ⟨by decide, by simpa using hpcr, hfail, hfile⟩)⟩
    rw [haccepted.run]
    simp [hstart, finishStartup]
  obtain ⟨s', hrun, hstarted⟩ := haccepted.started h hend hcrypt hpcr
  exact ⟨TPM_RC_SUCCESS, s', hrun, Or.inr (Or.inr ⟨rfl, hstarted⟩)⟩

end RfTpm
