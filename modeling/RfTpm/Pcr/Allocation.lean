import RfTpm.Pcr.Spec

/-!
# The effect of a PCR allocation

`TPM2_PCR_Allocate()` writes the new allocation to NV and leaves `gp.pcrAllocated` alone, which is
the allocation in force until the next startup reads it from NV.  It is to take effect then,
whatever happens in between.

Every command but two keeps the allocation in NV (`sameAllocation_action`).  One is another
allocation.  The other is `TPM2_Clear()`, which writes all of `gp`, and with it the allocation that
was to be replaced.  A clear after the restart does no harm, since `gp.pcrAllocated` is then the new
allocation.
-/

namespace RfTpm.Pcr

open Fallible

/-! ## What keeps the allocation -/

/-- The allocation is as it was, in RAM and in NV, and nothing was committed. -/
structure SameAllocation (s s' : Tpm) : Prop where
  ram : s'.gp.pcrAllocated = s.gp.pcrAllocated
  nv : s'.nv.gp.pcrAllocated = s.nv.gp.pcrAllocated
  file : s'.file = s.file

instance : IsPreorder Tpm SameAllocation where
  refl _ := ⟨rfl, rfl, rfl⟩
  trans _ _ _ h h' := ⟨h'.ram.trans h.ram, h'.nv.trans h.nv, h'.file.trans h.file⟩

variable {s s' : Tpm} {env : Env} {allocation : Allocation}

lemma Touches.sameAllocation {P : Set ℕ} (h : Touches P s s') : SameAllocation s s' :=
  ⟨by rw [h.gp], by rw [h.nv], h.file⟩

lemma sameAllocation_clearOrderly (s : Tpm) : SameAllocation s { s with clearOrderly := true } :=
  ⟨rfl, rfl, rfl⟩

lemma sameAllocation_pcrExtend (h : HashAlg) (locality : UInt8) (pcrHandle : PcrHandle)
    (digests : List (Bank × Bytes)) :
    Keeps SameAllocation (tpm2PcrExtend h locality pcrHandle digests) := by
  cases pcrHandle with
  | none => exact keeps_pure _
  | some pcr =>
    exact keeps_bind (keeps_checkExtend sameAllocation_clearOrderly locality pcr) fun _ =>
      keeps_modify fun s => (touches_extendAll h pcr digests s).sameAllocation

lemma sameAllocation_pcrReset (locality : UInt8) (pcr : Fin IMPLEMENTATION_PCR) :
    Keeps SameAllocation (tpm2PcrReset locality pcr) :=
  keeps_bind (keeps_stopIf _ _) fun _ =>
    keeps_bind (keeps_checkStateSaved sameAllocation_clearOrderly pcr) fun _ =>
      keeps_modify fun s => (touches_pcrReset pcr s).sameAllocation

lemma sameAllocation_shutdown (shutdownType : Da.ShutdownType) :
    Keeps SameAllocation (tpm2Shutdown shutdownType) := by
  refine keeps_bind keeps_returnIfNvIsNotAvailable fun _ => ?_
  refine keeps_bind (keeps_gets _) fun _ => ?_
  refine keeps_bind (keeps_stopIf _ _) fun _ => ?_
  refine keeps_bind (keeps_modify fun s => ?_) fun _ => keeps_modify fun s => ⟨rfl, rfl, rfl⟩
  split
  · exact ⟨rfl, rfl, rfl⟩
  · exact refl s

lemma sameAllocation_startSubsystems (i : StartupInput) (type : StartupType) (locality : UInt8) :
    Keeps SameAllocation (startSubsystems i type locality) :=
  keeps_ite
    (keeps_bind (keeps_modify fun _ => ⟨rfl, rfl, rfl⟩) fun _ =>
      keeps_bind (keeps_modify fun s =>
        let hloop := (touches_pcrStartup type locality s).sameAllocation
        ⟨hloop.ram, hloop.nv, hloop.file⟩) fun _ =>
        keeps_modify fun _ => ⟨rfl, rfl, rfl⟩)
    (keeps_bind (keeps_modify fun _ => ⟨rfl, rfl, rfl⟩) fun _ => keeps_stop _)

lemma sameAllocation_startup (i : StartupInput) (startupType : Da.ShutdownType) :
    Keeps SameAllocation (tpm2Startup i startupType) := by
  refine keeps_bind keeps_returnIfNvIsNotAvailable fun _ => ?_
  refine keeps_bind (keeps_stopIf _ _) fun _ => ?_
  refine keeps_bind (keeps_gets _) fun s₀ => ?_
  refine keeps_bind (keeps_modify fun _ => ⟨rfl, rfl, rfl⟩) fun _ => ?_
  refine keeps_bind (keeps_stopIf _ _) fun _ => ?_
  refine keeps_bind (keeps_modify fun s => ?_) fun _ => sameAllocation_startSubsystems i _ _
  generalize startupTypeOf _ _ = type
  cases type <;> exact ⟨rfl, rfl, rfl⟩

lemma sameAllocation_action (h : HashAlg) (c : Command) (hallocate : ∀ a, c ≠ .pcrAllocate a)
    (hclear : c ≠ .clear) : Keeps SameAllocation (c.action h) := by
  cases c with
  | pcrExtend locality pcrHandle digests => exact sameAllocation_pcrExtend h locality pcrHandle _
  | pcrEvent locality pcrHandle eventData => exact sameAllocation_pcrExtend h locality pcrHandle _
  | eventSequenceComplete locality pcrHandle digests =>
    cases digests with
    | none => exact keeps_stop _
    | some digests => exact sameAllocation_pcrExtend h locality pcrHandle _
  | pcrReset locality pcr => exact sameAllocation_pcrReset locality pcr
  | pcrAllocate allocate => exact absurd rfl (hallocate allocate)
  | clear => exact absurd rfl hclear
  | clearControl withLockoutAuth disable =>
    exact keeps_bind keeps_returnIfNvIsNotAvailable fun _ =>
      keeps_bind (keeps_stopIf _ _) fun _ => keeps_modify fun _ => ⟨rfl, rfl, rfl⟩
  | shutdown shutdownType => exact sameAllocation_shutdown shutdownType
  | other effect result =>
    exact keeps_bind (keeps_modify fun _ => ⟨rfl, rfl, rfl⟩) fun _ => keeps_ofExcept _

lemma sameAllocation_commandBody {h : HashAlg} {c : Command}
    (haction : Keeps SameAllocation (c.action h)) (env : Env) :
    Keeps SameAllocation (commandBody h env c) := by
  refine keeps_bind (keeps_gets _) fun _ => keeps_bind (keeps_stopIf _ _) fun _ => ?_
  cases env.refused with
  | none => exact haction
  | some rc => exact keeps_stop rc

lemma sameAllocation_startupBody (env : Env) (i : StartupInput)
    (startupType : Da.ShutdownType) :
    Keeps SameAllocation (startupBody env i startupType) := by
  refine keeps_bind (keeps_gets _) fun _ => keeps_bind (keeps_stopIf _ _) fun _ => ?_
  cases env.refused with
  | none => exact sameAllocation_startup i startupType
  | some rc => exact keeps_stop rc

lemma sameAllocation_hashEnd (h : HashAlg) (digests : Bank → Bytes) (s : Tpm) :
    SameAllocation s (hashEnd h digests s) := by
  have hbegin : SameAllocation s (beginHashEnd s) := by
    unfold beginHashEnd
    split
    · exact (touches_pcrResetDynamics s).sameAllocation
    · exact ⟨rfl, rfl, rfl⟩
  exact IsTrans.trans _ _ _ hbegin (touches_hashEnd h digests s).sameAllocation

lemma working_of_hashEnd {h : HashAlg} {digests : Bank → Bytes}
    (hmode : (hashEnd h digests s).inFailureMode = false) : s.inFailureMode = false := by
  by_contra hfailed
  have hs : s.inFailureMode = true := by simpa using hfailed
  have hbegin : (beginHashEnd s).inFailureMode = true := by
    unfold beginHashEnd
    split
    · exact (touches_pcrResetDynamics s).failed hs
    · exact hs
  exact nomatch ((touches_hashEnd h digests s).failed hbegin).symm.trans hmode

/-! ## The allocation that waits in NV -/

/-- The allocation in NV, as far as it matters: the one written and the one committed. -/
structure Stored (allocation : Allocation) (s : Tpm) : Prop where
  nv : s.nv.gp.pcrAllocated = allocation
  file : s.file.gp.pcrAllocated = allocation

/-- The allocation in NV is also the one in force, if there is one. -/
structure InForce (allocation : Allocation) (s : Tpm) : Prop extends Stored allocation s where
  ram : s.inFailureMode = false → s.gp.pcrAllocated = allocation

section

variable {allocation : Allocation} {s s' : Tpm}

lemma Stored.keep (h : Stored allocation s) (hsame : SameAllocation s s') :
    Stored allocation s' :=
  ⟨hsame.nv.trans h.nv, by rw [hsame.file]; exact h.file⟩

lemma Stored.beginCommand (h : Stored allocation s) (env : Env) :
    Stored allocation (beginCommand env s) := ⟨h.nv, h.file⟩

lemma sameAllocation_clearOrderlyState (s : Tpm) : SameAllocation s (clearOrderlyState s) := by
  unfold clearOrderlyState
  split
  · exact ⟨rfl, rfl, rfl⟩
  · exact refl s

lemma Stored.commit (h : Stored allocation s) (commitOk : Bool) :
    Stored allocation (commit commitOk s) := by
  simp only [Pcr.commit, Globals.commit, Globals.nvCommit]
  split_ifs
  · exact ⟨h.nv, h.nv⟩
  · exact ⟨h.nv, h.file⟩
  · exact h

lemma Stored.endCommand (h : Stored allocation s) (env : Env) :
    Stored allocation (endCommand env s) := by
  have hclear : Stored allocation (clearOrderlyState (env.after.apply s)) :=
    (show Stored allocation (env.after.apply s) from ⟨h.nv, h.file⟩).keep
      (sameAllocation_clearOrderlyState _)
  exact hclear.commit env.commitOk

lemma endCommand_pcrAllocated (env : Env) (s : Tpm) :
    (endCommand env s).gp.pcrAllocated = s.gp.pcrAllocated :=
  (sameAllocation_clearOrderlyState (env.after.apply s)).ram

lemma Stored.execute (h : Stored allocation s) {env : Env} {body : PcrM Unit}
    (hbody : Keeps SameAllocation body) : Stored allocation (execute env body s).2 := by
  unfold Pcr.execute
  split
  · exact ⟨h.nv, h.file⟩
  · exact ((h.beginCommand env).keep (hbody _)).endCommand env

lemma InForce.execute (h : InForce allocation s) {env : Env} {body : PcrM Unit}
    (hbody : Keeps SameAllocation body) : InForce allocation (execute env body s).2 := by
  refine ⟨h.toStored.execute hbody, ?_⟩
  unfold Pcr.execute
  split
  case isTrue hmode => exact fun hok => absurd hmode (by simp_all)
  case isFalse hmode =>
    intro _
    show (endCommand env _).gp.pcrAllocated = _
    rw [endCommand_pcrAllocated, (hbody _).ram]
    exact h.ram (by simpa using hmode)

end

/-! ## `TPM2_Clear()` -/

/-- `TPM2_Clear()` gets to its writes. -/
def ClearRuns (env : Env) (s : Tpm) : Prop :=
  s.inFailureMode = false ∧ s.power.initialized = true ∧ env.refused = none ∧
    env.nvStatus = TPM_RC_SUCCESS ∧ s.gp.disableClear = false

lemma tpm2Clear_cases (s : Tpm) :
    (tpm2Clear s).2 = s ∨ (s.nvStatus = TPM_RC_SUCCESS ∧ s.gp.disableClear = false ∧
      (tpm2Clear s).2 = { pcrChanged 0 (s.writePersistent fun _ => s.gp) with
        clearOrderly := true }) := by
  unfold tpm2Clear
  rw [returnIfNvIsNotAvailable_bind]
  split
  case isTrue h => exact .inl rfl
  case isFalse h =>
    rw [gets_bind]
    cases hdisabled : s.gp.disableClear with
    | true =>
      rw [stopIf_bind_of rfl]
      exact .inl rfl
    | false => exact .inr ⟨not_not.mp h, rfl, rfl⟩

lemma commandBody_clear (h : HashAlg) (hmode : s.inFailureMode = false)
    (hclear : ¬ClearRuns env s) :
    (commandBody h env .clear (beginCommand env s)).2 = beginCommand env s := by
  obtain hstop | ⟨hinitialized, hrefused, hbody⟩ :=
    commandBody_cases h env .clear (beginCommand env s)
  · exact hstop
  · rw [hbody]
    obtain hstop | ⟨hstatus, hdisabled, -⟩ := tpm2Clear_cases (beginCommand env s)
    · exact hstop
    · exact absurd ⟨hmode, hinitialized, hrefused, hstatus, hdisabled⟩ hclear

lemma tpm2Clear_pcrAllocated (s : Tpm) :
    (tpm2Clear s).2.gp = s.gp ∧ (tpm2Clear s).2.file = s.file ∧
      ((tpm2Clear s).2.nv = s.nv ∨ (tpm2Clear s).2.nv.gp = s.gp) := by
  obtain hstop | ⟨-, -, hrun⟩ := tpm2Clear_cases s
  · rw [hstop]
    exact ⟨rfl, rfl, .inl rfl⟩
  · rw [hrun]
    have hcounted := touches_pcrChanged ∅ 0 (s.writePersistent fun _ => s.gp)
    exact ⟨hcounted.gp, hcounted.file, .inr (congrArg Image.gp hcounted.nv)⟩

/-! ## Runs -/

/-- The event is another allocation. -/
def Event.IsAllocate (e : Event) : Prop := ∃ env a, e = .command env (.pcrAllocate a)

/-- The event is neither another allocation nor a clear that gets to its writes. -/
def KeepsRequest (s : Tpm) (e : Event) : Prop :=
  ¬e.IsAllocate ∧ ∀ env, e = .command env .clear → ¬ClearRuns env s

section

variable {allocation : Allocation} {s : Tpm}

lemma Stored.step (h : HashAlg) {e : Event} (hs : Stored allocation s) (he : KeepsRequest s e) :
    Stored allocation (e.exec h s).2 := by
  cases e with
  | command env c =>
    by_cases hclear : c = .clear
    · subst hclear
      show Stored allocation (Pcr.execute env (commandBody h env .clear) s).2
      unfold Pcr.execute
      split
      case isTrue => exact ⟨hs.nv, hs.file⟩
      case isFalse hmode =>
        have hstop := commandBody_clear h (by simpa using hmode) (he.2 env rfl)
        show Stored allocation
          (Pcr.endCommand env (commandBody h env .clear (Pcr.beginCommand env s)).2)
        rw [hstop]
        exact (hs.beginCommand env).endCommand env
    · have haction := sameAllocation_action h c (fun a hc => he.1 ⟨env, a, by rw [hc]⟩) hclear
      exact hs.execute (sameAllocation_commandBody haction env)
  | startup env i startupType => exact hs.execute (sameAllocation_startupBody env i startupType)
  | hashEnd digests => exact hs.keep (sameAllocation_hashEnd h digests s)
  | powerLoss c => exact ⟨hs.file, hs.file⟩

lemma powerOn_ok {c : PowerCycle} {file : Image}
    (hmode : (powerOn c file).inFailureMode = false) : (powerOn c file).gp = file.gp :=
  if_pos (by simpa [powerOn] using hmode)

lemma Stored.powerOn (hs : Stored allocation s) (c : PowerCycle) :
    InForce allocation (powerOn c s.file) := by
  refine ⟨⟨hs.file, hs.file⟩, fun hmode => ?_⟩
  rw [powerOn_ok hmode]
  exact hs.file

lemma InForce.step (h : HashAlg) {e : Event} (hs : InForce allocation s) (he : ¬e.IsAllocate) :
    InForce allocation (e.exec h s).2 := by
  cases e with
  | command env c =>
    by_cases hclear : c = .clear
    · subst hclear
      show InForce allocation (Pcr.execute env (commandBody h env .clear) s).2
      unfold Pcr.execute
      split
      case isTrue hmode =>
        refine ⟨⟨hs.nv, hs.file⟩, fun hok => ?_⟩
        exact nomatch hmode.symm.trans hok
      case isFalse hmode =>
        have hram := hs.ram (by simpa using hmode)
        obtain hstop | ⟨-, -, hbody⟩ := commandBody_cases h env .clear (beginCommand env s)
        · show InForce allocation (endCommand env _)
          rw [hstop]
          exact ⟨(hs.toStored.beginCommand env).endCommand env,
            fun _ => (endCommand_pcrAllocated env _).trans hram⟩
        · obtain ⟨hgp, hfile, hnv⟩ := tpm2Clear_pcrAllocated (beginCommand env s)
          have hstored : Stored allocation (tpm2Clear (beginCommand env s)).2 := by
            refine ⟨?_, by rw [hfile]; exact hs.file⟩
            obtain hnv | hnv := hnv
            · rw [hnv]
              exact hs.nv
            · rw [hnv]
              exact hram
          show InForce allocation (endCommand env (commandBody h env .clear _).2)
          rw [hbody]
          refine ⟨hstored.endCommand env, fun _ => ?_⟩
          refine (endCommand_pcrAllocated env _).trans ?_
          exact (congrArg PersistentData.pcrAllocated hgp).trans hram
    · have haction := sameAllocation_action h c (fun a hc => he ⟨env, a, by rw [hc]⟩) hclear
      exact hs.execute (sameAllocation_commandBody haction env)
  | startup env i startupType => exact hs.execute (sameAllocation_startupBody env i startupType)
  | hashEnd digests =>
    have hsame := sameAllocation_hashEnd h digests s
    exact ⟨hs.toStored.keep hsame, fun hmode => hsame.ram.trans (hs.ram (working_of_hashEnd hmode))⟩
  | powerLoss c => exact hs.toStored.powerOn c

end

lemma endCommand_file (henv : env.Sound) (hmode : s.inFailureMode = false)
    (hupdate : s.updateNv = true) :
    (endCommand env s).file = (clearOrderlyState (env.after.apply s)).nv ∧
      (endCommand env s).nv = (clearOrderlyState (env.after.apply s)).nv := by
  have hflags : (clearOrderlyState (env.after.apply s)).updateNv = true ∧
      (clearOrderlyState (env.after.apply s)).inFailureMode = false := by
    have happly : (env.after.apply s).updateNv = true ∧
        (env.after.apply s).inFailureMode = false := by
      simp [Effect.apply, hupdate, hmode, henv.after]
    unfold clearOrderlyState
    split
    · exact ⟨rfl, happly.2⟩
    · exact happly
  unfold endCommand commit
  rw [henv.commitOk, Globals.commit_working hflags.2, if_neg (by simp [hflags.1])]
  exact ⟨rfl, rfl⟩

lemma stored_of_allocate (h : HashAlg) (henv : env.Sound) {allocate : List Selection}
    (hallocate : (Event.command env (.pcrAllocate allocate)).exec h s = (.ok (), s')) :
    Stored (newAllocate s.gp.pcrAllocated allocate) s' := by
  obtain ⟨hmode, s₁, hbody, rfl⟩ := execute_ok hallocate
  obtain ⟨-, haction⟩ := commandBody_ok hbody
  obtain ⟨out, s₂, hrequest, haction⟩ := bind_ok haction
  obtain ⟨-, rfl⟩ := pure_ok haction
  obtain ⟨rfl, -⟩ := tpm2PcrAllocate_ok hrequest
  have hbegin : (beginCommand env s).inFailureMode = false := by
    simp [beginCommand, Env.begin, hmode, henv.before]
  obtain ⟨hfile, hnv⟩ := endCommand_file (s := { (beginCommand env s).writePersistent _ with
    pcrReConfig := true }) henv hbegin rfl
  refine ⟨?_, ?_⟩
  · rw [hnv]
    exact (sameAllocation_clearOrderlyState _).nv
  · rw [hfile]
    exact (sameAllocation_clearOrderlyState _).nv

lemma Stored.path (h : HashAlg) {es : List Event} (hs : Stored allocation s)
    (hpath : ((pcrSystem h).restrict KeepsRequest).Path s es) :
    Stored allocation (es.foldl (pcrSystem h).step s) := by
  induction es generalizing s with
  | nil => exact hs
  | cons e es ih => exact ih (hs.step h hpath.1.2) hpath.2

lemma InForce.path (h : HashAlg) {es : List Event} (hs : InForce allocation s)
    (hpath : ((pcrSystem h).restrict fun _ e => ¬e.IsAllocate).Path s es) :
    InForce allocation (es.foldl (pcrSystem h).step s) := by
  induction es generalizing s with
  | nil => exact hs
  | cons e es ih => exact ih (hs.step h hpath.1.2) hpath.2

/-- **A successful allocation takes effect** with the next startup, if until the power cycle before
it there is no other allocation and no clear that gets to its writes.  Every bank that the request
names has the last selection given for it, and every other bank keeps the one it had. -/
theorem allocation_takes_effect (h : HashAlg) (env : Env) (allocate : List Selection) (s s₁ : Tpm)
    (henv : env.Sound)
    (hallocate : (Event.command env (.pcrAllocate allocate)).exec h s = (.ok (), s₁))
    (before : List Event) (hbefore : ((pcrSystem h).restrict KeepsRequest).Path s₁ before)
    (c : PowerCycle) (after : List Event)
    (hafter : ((pcrSystem h).restrict fun _ e => ¬e.IsAllocate).Path
      (powerOn c (before.foldl (pcrSystem h).step s₁).file) after)
    (env' : Env) (i : StartupInput) (startupType : Da.ShutdownType) (s₂ : Tpm)
    (hstartup : (Event.startup env' i startupType).exec h (after.foldl (pcrSystem h).step
      (powerOn c (before.foldl (pcrSystem h).step s₁).file)) = (.ok (), s₂)) :
    ∀ hash, s₂.gp.pcrAllocated.find? hash =
      (lastSelection allocate hash).or (s.gp.pcrAllocated.find? hash) := by
  intro hash
  have hstored := (stored_of_allocate h henv hallocate).path h hbefore
  have hforce := (hstored.powerOn c).path h hafter
  obtain ⟨hmode, s₃, hbody, rfl⟩ := execute_ok hstartup
  have hkept := sameAllocation_startupBody env' i startupType (beginCommand env' (after.foldl
    (pcrSystem h).step (powerOn c (before.foldl (pcrSystem h).step s₁).file)))
  rw [hbody] at hkept
  rw [endCommand_pcrAllocated, hkept.ram]
  show Allocation.find? (Tpm.gp (after.foldl _ _)).pcrAllocated hash = _
  rw [hforce.ram hmode, find?_newAllocate]

/-! ## A clear before the restart -/

/-- A command during which nothing else happens. -/
def quietEnv : Env := ⟨TPM_RC_SUCCESS, true, ⟨false, false, false⟩, none, ⟨false, false, false⟩⟩

/-- A hash function whose digest is always zero. -/
def zeroHash : HashAlg := fun hash _ => List.replicate hash.digestSize 0

/-- A power cycle after which the registers and the save area hold some value. -/
def freshRam (value : UInt8) : PowerCycle where
  gp := (manufactured (fun _ _ => []) 0).gp
  pcrs hash _ := List.replicate hash.digestSize value
  pcrSave hash _ := List.replicate hash.digestSize value
  pcrCounter := 0
  pcrReConfig := false
  initOk := true

/-- A TPM that was started for the first time. -/
def started : Tpm :=
  ((Event.startup quietEnv ⟨0, true⟩ .clear).exec zeroHash
    (powerOn (freshRam 0xAA) (manufactured (fun hash _ => List.replicate hash.digestSize 0) 0))).2

/-- All registers in the bank for SHA-1, which is not active after manufacture. -/
def allSha1 : Selection := ⟨.sha1, .replicate 3 0xFF⟩

/-- That TPM after a request for the bank. -/
def requested : Tpm := ((Event.command quietEnv (.pcrAllocate [allSha1])).exec zeroHash started).2

/-- The TPM with an image, started with `TPM2_Startup(TPM_SU_CLEAR)`. -/
def restarted (file : Image) : Tpm :=
  ((Event.startup quietEnv ⟨0, true⟩ .clear).exec zeroHash (powerOn (freshRam 0) file)).2

lemma eq_of_ok {result : Except TpmRc Unit × Tpm} (h : result.1 = .ok ()) :
    result = (.ok (), result.2) := by
  rw [← h]

lemma requested_ok : (Event.command quietEnv (.pcrAllocate [allSha1])).exec zeroHash started =
    (.ok (), requested) := by
  unfold requested
  exact eq_of_ok (by decide +kernel)

lemma restarted_ok {file : Image}
    (h : ((Event.startup quietEnv ⟨0, true⟩ .clear).exec zeroHash
      (powerOn (freshRam 0) file)).1 = .ok ()) :
    (Event.startup quietEnv ⟨0, true⟩ .clear).exec zeroHash (powerOn (freshRam 0) file) =
      (.ok (), restarted file) := by
  unfold restarted
  exact eq_of_ok h

/-- Before the power cycle clearing is disabled, so that a clear is refused. -/
def refusedClear : List Event :=
  [.command quietEnv (.clearControl true true), .command quietEnv .clear]

/-- After it there is an H-CRTM sequence. -/
def hcrtm : List Event := [.hashEnd fun _ => []]

/-- The state of the next startup. -/
def restartedLater : Tpm :=
  hcrtm.foldl (pcrSystem zeroHash).step
    (powerOn (freshRam 0) (refusedClear.foldl (pcrSystem zeroHash).step requested).file)

theorem allocation_takes_effect_sha1 :
    ((Event.startup quietEnv ⟨0, true⟩ .clear).exec zeroHash
        restartedLater).2.gp.pcrAllocated.find? .sha1 =
      (lastSelection [allSha1] .sha1).or (started.gp.pcrAllocated.find? .sha1) := by
  have hbefore : ((pcrSystem zeroHash).restrict KeepsRequest).Path requested refusedClear := by
    refine ⟨⟨trivial, nofun, nofun⟩, ⟨trivial, nofun, fun env _ hruns => ?_⟩, trivial⟩
    exact absurd hruns.2.2.2.2 (by decide +kernel)
  have hstartup : (Event.startup quietEnv ⟨0, true⟩ .clear).exec zeroHash restartedLater =
      (.ok (), ((Event.startup quietEnv ⟨0, true⟩ .clear).exec zeroHash restartedLater).2) :=
    eq_of_ok (by decide +kernel)
  exact allocation_takes_effect zeroHash quietEnv [allSha1] started requested ⟨rfl, rfl, rfl⟩
    requested_ok refusedClear hbefore (freshRam 0) hcrtm ⟨⟨trivial, nofun⟩, trivial⟩ quietEnv
    ⟨0, true⟩ .clear _ hstartup .sha1

/-- The image after a clear in between. -/
def cleared : Image := ((Event.command quietEnv .clear).exec zeroHash requested).2.file

/-- With a clear in between, the bank is as it was. -/
theorem allocation_lost_with_clear :
    (Event.command quietEnv (.pcrAllocate [allSha1])).exec zeroHash started = (.ok (), requested) ∧
    lastSelection [allSha1] .sha1 = some allSha1 ∧
    (Event.startup quietEnv ⟨0, true⟩ .clear).exec zeroHash (powerOn (freshRam 0) cleared) =
      (.ok (), restarted cleared) ∧
    (restarted cleared).gp.pcrAllocated.find? .sha1 = some (defaultSelection .sha1) ∧
    defaultSelection .sha1 ≠ allSha1 :=
  ⟨requested_ok, by decide, restarted_ok (by decide +kernel), by decide +kernel, by decide⟩

end RfTpm.Pcr
