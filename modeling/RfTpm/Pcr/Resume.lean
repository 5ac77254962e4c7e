import RfTpm.Pcr.Allocation

/-!
# State-saved registers over a resume

`TPM2_Shutdown(TPM_SU_STATE)` saves the state-saved registers that are allocated, and a resume
restores those that are allocated then.  A command that changes such a register clears the orderly
state, so that there is no resume after it.

The invariant is that of a running TPM (`Running`): as long as the orderly state allows a resume, NV
holds the values of the registers (`Saved`), and its allocation has no state-saved register that is
not allocated now.  An allocation after the shutdown is what may break it.  The flag `g_pcrReConfig`
is there to keep the two apart, but it only stops a shutdown after the allocation.
-/

namespace RfTpm.Pcr

open Fallible

/-! ## The invariant -/

/-- A resume is possible from this orderly state. -/
def Resumable (orderlyState : UInt16) : Prop := prevOrderlyStateOf orderlyState = TPM_SU_STATE

instance (orderlyState : UInt16) : Decidable (Resumable orderlyState) :=
  inferInstanceAs (Decidable (_ = _))

/-- Every state-saved register of the first allocation is in the second. -/
def Within (allocation allocation' : Allocation) : Prop :=
  ∀ pcr, pcrIsStateSaved pcr = true → ∀ bank, pcrIsAllocated allocation pcr bank = true →
    pcrIsAllocated allocation' pcr bank = true

/-- The image has the values of the state-saved registers, and allocates no others. -/
structure Saved (allocation : Allocation) (pcrs : PcrValues) (m : Image) : Prop where
  values : ∀ pcr, pcrIsStateSaved pcr = true → ∀ bank,
    pcrIsAllocated allocation pcr bank = true → m.pcrSave bank (saveIndexOf pcr) = pcrs bank pcr
  within : Within m.gp.pcrAllocated allocation

/-- A started TPM during a command. -/
structure Settled (s : Tpm) : Prop where
  started : s.power.initialized = true
  orderly : s.nv.gp.orderlyState = s.gp.orderlyState
  allocation : s.pcrReConfig = false → s.nv.gp.pcrAllocated = s.gp.pcrAllocated
  saved : s.clearOrderly = false → Resumable s.gp.orderlyState →
    Saved s.gp.pcrAllocated s.pcrs s.nv
  written : s.updateNv = false → s.file = s.nv

/-- The TPM with the flags of a command at rest. -/
def Tpm.rest (s : Tpm) : Tpm := { s with clearOrderly := false, updateNv := false }

/-- A started TPM between commands. -/
structure Running (s : Tpm) : Prop where
  settled : Settled s.rest
  working : s.inFailureMode = false

/-- The TPM is running, or it waits for its startup with the allocation of NV. -/
structure Inv (s : Tpm) : Prop where
  running : s.power.initialized = true → Running s
  waiting : s.power.initialized = false → s.inFailureMode = false →
    s.nv.gp.pcrAllocated = s.gp.pcrAllocated

/-! ## Commands keep it -/

lemma not_resumable_none : ¬Resumable SU_NONE_VALUE := by decide

lemma not_resumable_of_not_orderly {orderlyState : UInt16} (h : isOrderly orderlyState = false) :
    ¬Resumable orderlyState := by
  unfold Resumable prevOrderlyStateOf
  rw [if_neg (by simp [h])]
  rintro rfl
  cases h

section

variable {s s' : Tpm}

lemma Settled.touches {P : Set ℕ} (hs : Settled s) (h : Touches P s s')
    (hP : s.clearOrderly = true ∨ ∀ pcr ∈ P, pcrIsStateSaved pcr = false) : Settled s' := by
  rw [h.frame]
  refine { hs with saved := fun hclear hresume => ?_ }
  have hsaved := hs.saved hclear hresume
  refine ⟨fun pcr hpcr bank hallocated => ?_, hsaved.within⟩
  have hnot : pcr ∉ P := by
    intro hmem
    obtain hset | hother := hP
    · exact nomatch hset.symm.trans hclear
    · exact nomatch hpcr.symm.trans (hother pcr hmem)
  exact (hsaved.values pcr hpcr bank hallocated).trans (h.others bank pcr hnot).symm

lemma Settled.clearOrderly (hs : Settled s) : Settled { s with clearOrderly := true } :=
  { hs with saved := nofun }

/-- Between the states of a command that keeps the invariant. -/
def KeepsSettled (s s' : Tpm) : Prop := Settled s → Settled s'

instance : IsPreorder Tpm KeepsSettled where
  refl _ := id
  trans _ _ _ h h' := h' ∘ h

lemma settled_checkStateSaved (pcr : ℕ) : Keeps KeepsSettled (checkStateSaved pcr) :=
  keeps_checkStateSaved (fun _ hs => hs.clearOrderly) pcr

lemma checkStateSaved_ok {pcr : ℕ} {u : Unit} (h : checkStateSaved pcr s = (.ok u, s')) :
    s'.clearOrderly = true ∨ ∀ p ∈ ({pcr} : Set ℕ), pcrIsStateSaved p = false := by
  unfold checkStateSaved at h
  split at h
  case isTrue =>
    unfold returnIfOrderly at h
    rw [gets_bind] at h
    obtain ⟨_, s₁, hstop, h⟩ := bind_ok h
    obtain rfl := modify_ok h
    exact .inl rfl
  case isFalse hsaved =>
    refine .inr ?_
    rintro p rfl
    simpa using hsaved

lemma settled_pcrExtend (h : HashAlg) (locality : UInt8) (pcrHandle : PcrHandle)
    (digests : List (Bank × Bytes)) :
    Keeps KeepsSettled (tpm2PcrExtend h locality pcrHandle digests) := by
  cases pcrHandle with
  | none => exact keeps_pure _
  | some pcr =>
    refine keeps_bind_ok (keeps_bind (keeps_stopIf _ _) fun _ => settled_checkStateSaved pcr) ?_
    intro s u s₁ hcheck hs
    obtain ⟨_, s₂, -, hcheck⟩ := bind_ok hcheck
    exact hs.touches (touches_extendAll h pcr digests s₁) (checkStateSaved_ok hcheck)

lemma settled_pcrReset (locality : UInt8) (pcr : Fin IMPLEMENTATION_PCR) :
    Keeps KeepsSettled (tpm2PcrReset locality pcr) := by
  refine keeps_bind (keeps_stopIf _ _) fun _ => keeps_bind_ok (settled_checkStateSaved pcr) ?_
  intro s u s₁ hcheck hs
  exact hs.touches (touches_pcrReset pcr s₁) (checkStateSaved_ok hcheck)

lemma settled_clear : Keeps KeepsSettled tpm2Clear := by
  refine keeps_bind keeps_returnIfNvIsNotAvailable fun _ => ?_
  refine keeps_bind (keeps_gets _) fun _ => keeps_bind (keeps_stopIf _ _) fun _ => ?_
  intro s hs
  rw [modify_bind, modify_bind]
  have hcounted := touches_pcrChanged ∅ 0 (s.writePersistent fun _ => s.gp)
  rw [hcounted.frame]
  exact ⟨hs.started, rfl, fun _ => rfl, nofun, nofun⟩

lemma settled_clearControl (withLockoutAuth disable : Bool) :
    Keeps KeepsSettled (tpm2ClearControl withLockoutAuth disable) :=
  keeps_bind keeps_returnIfNvIsNotAvailable fun _ =>
    keeps_bind (keeps_stopIf _ _) fun _ =>
      keeps_modify fun _ hs =>
        { hs with
          saved := fun hclear hresume => { hs.saved hclear hresume with }
          written := nofun }

lemma settled_shutdown (shutdownType : Da.ShutdownType) :
    Keeps KeepsSettled (tpm2Shutdown shutdownType) := by
  refine keeps_bind keeps_returnIfNvIsNotAvailable fun _ => ?_
  intro s hs
  rw [gets_bind]
  cases shutdownType with
  | clear =>
    rw [stopIf_bind_of_not (fun h => absurd h.2 (by decide)), modify_bind, if_neg (by decide)]
    have hclear : ¬Resumable (shutdownState s.power Da.ShutdownType.clear.value) := by
      show ¬Resumable TPM_SU_CLEAR
      decide
    exact ⟨hs.started, rfl, hs.allocation, fun _ hresume => absurd hresume hclear, nofun⟩
  | state =>
    by_cases hreconfig : s.pcrReConfig = true
    · rw [stopIf_bind_of ⟨hreconfig, rfl⟩]
      exact hs
    · rw [stopIf_bind_of_not (fun h => hreconfig h.1), modify_bind, if_pos rfl]
      have hsame := hs.allocation (by simpa using hreconfig)
      refine ⟨hs.started, rfl, hs.allocation, fun _ _ => ⟨?_, ?_⟩, nofun⟩
      · intro pcr hpcr bank hallocated
        exact pcrStateSave_saved s hpcr hallocated
      · intro pcr _ bank hallocated
        change pcrIsAllocated s.nv.gp.pcrAllocated pcr bank = true at hallocated
        rw [hsame] at hallocated
        exact hallocated

lemma settled_pcrAllocate {allocate : List Selection} (hs : Settled s)
    (hwithin : Resumable s.gp.orderlyState →
      Within (newAllocate s.gp.pcrAllocated allocate) s.gp.pcrAllocated) :
    Settled (tpm2PcrAllocate allocate s).2 := by
  unfold tpm2PcrAllocate
  rw [returnIfNvIsNotAvailable_bind]
  split
  · exact hs
  · unfold pcrAllocate
    rw [bind_assoc, gets_bind, bind_assoc]
    by_cases hrefused : (!isInSomeBank (newAllocate s.gp.pcrAllocated allocate) DRTM_PCR) = true ∨
        (!isInSomeBank (newAllocate s.gp.pcrAllocated allocate) HCRTM_PCR) = true
    · rw [stopIf_bind_of hrefused]
      exact hs
    · rw [stopIf_bind_of_not hrefused]
      exact ⟨hs.started, hs.orderly, nofun,
        fun hclear hresume => ⟨(hs.saved hclear hresume).values, hwithin hresume⟩, nofun⟩

lemma Settled.apply (hs : Settled s) (effect : Effect) : Settled (effect.apply s) := by
  refine { hs with
    saved := fun hclear => hs.saved ?_
    written := fun hupdate => hs.written ?_ }
  · exact (Bool.or_eq_false_iff.mp hclear).1
  · exact (Bool.or_eq_false_iff.mp hupdate).1

lemma settled_action (h : HashAlg) {c : Command} (hs : Settled s)
    (hallocate : ∀ allocate, c = .pcrAllocate allocate → Resumable s.gp.orderlyState →
      Within (newAllocate s.gp.pcrAllocated allocate) s.gp.pcrAllocated) :
    Settled (c.action h s).2 := by
  cases c with
  | pcrExtend locality pcrHandle digests => exact settled_pcrExtend h locality pcrHandle _ s hs
  | pcrEvent locality pcrHandle eventData => exact settled_pcrExtend h locality pcrHandle _ s hs
  | eventSequenceComplete locality pcrHandle digests =>
    cases digests with
    | none => exact hs
    | some digests => exact settled_pcrExtend h locality pcrHandle _ s hs
  | pcrReset locality pcr => exact settled_pcrReset locality pcr s hs
  | pcrAllocate allocate =>
    have hrequest := settled_pcrAllocate hs (hallocate allocate rfl)
    show Settled ((tpm2PcrAllocate allocate >>= fun _ => (pure () : PcrM Unit)) s).2
    rw [snd_bind_pure]
    exact hrequest
  | clear => exact settled_clear s hs
  | clearControl withLockoutAuth disable => exact settled_clearControl withLockoutAuth disable s hs
  | shutdown shutdownType => exact settled_shutdown shutdownType s hs
  | other effect result => exact hs.apply effect

end

/-! ## What may enter failure mode -/

instance : IsPreorder Tpm (Bumps 0) where
  refl := Bumps.refl
  trans _ _ _ h h' := h.trans h'

lemma bumps_bind {n m : ℕ} {α β : Type} {x : PcrM α} {k : α → PcrM β} (hx : Keeps (Bumps n) x)
    (hk : ∀ a, Keeps (Bumps m) (k a)) : Keeps (Bumps (n + m)) (x >>= k) := by
  intro s
  rw [bind_apply]
  split
  case h_1 a s₁ heq => exact (hx.of_run heq).trans (hk a s₁)
  case h_2 e s₁ heq => exact (hx.of_run heq).mono (Nat.le_add_right n m)

lemma bumps_then {n : ℕ} {α β : Type} {x : PcrM α} {k : α → PcrM β} (hx : Keeps (Bumps 0) x)
    (hk : ∀ a, Keeps (Bumps n) (k a)) : Keeps (Bumps n) (x >>= k) := by
  have hboth := bumps_bind hx hk
  rwa [Nat.zero_add] at hboth

lemma bumps_of_eq {s s' : Tpm} (hcounter : s'.pcrCounter = s.pcrCounter)
    (hmode : s'.inFailureMode = s.inFailureMode) : Bumps 0 s s' :=
  fun _ => ⟨by rw [hcounter]; exact le_rfl, hmode⟩

lemma bumps_checkStateSaved (pcr : ℕ) : Keeps (Bumps 0) (checkStateSaved pcr) :=
  keeps_checkStateSaved (R := Bumps 0) (fun _ => bumps_of_eq rfl rfl) pcr

lemma bumps_tpm2PcrExtend (h : HashAlg) (locality : UInt8) (pcrHandle : PcrHandle)
    (digests : List (Bank × Bytes)) :
    Keeps (Bumps digests.length) (tpm2PcrExtend h locality pcrHandle digests) := by
  cases pcrHandle with
  | none => exact fun s => (Bumps.refl s).mono (Nat.zero_le _)
  | some pcr =>
    exact bumps_then (keeps_bind (keeps_stopIf _ _) fun _ => bumps_checkStateSaved pcr) fun _ =>
      keeps_modify (bumps_extendAll h pcr digests)

namespace Command

/-- How often a command may count the registers as changed. -/
def bumps : Command → ℕ
  | pcrExtend _ _ digests => digests.length
  | pcrEvent _ _ _ => Bank.all.length
  | eventSequenceComplete _ _ _ => Bank.all.length
  | pcrReset _ _ => 1
  | clear => 1
  | _ => 0

/-- A command that does not touch this state does not fail. -/
def Sound : Command → Prop
  | other effect _ => effect.fails = false
  | _ => True

end Command

lemma bumps_pcrReset (locality : UInt8) (pcr : Fin IMPLEMENTATION_PCR) :
    Keeps (Bumps 1) (tpm2PcrReset locality pcr) :=
  bumps_then (keeps_stopIf _ _) fun _ =>
    bumps_then (bumps_checkStateSaved pcr) fun _ =>
      keeps_modify fun s => bumps_pcrChanged pcr (pcrSetValue pcr s)

lemma bumps_clear : Keeps (Bumps 1) tpm2Clear := by
  refine bumps_then keeps_returnIfNvIsNotAvailable fun _ => ?_
  refine bumps_then (keeps_gets _) fun _ => bumps_then (keeps_stopIf _ _) fun _ => ?_
  refine bumps_then (keeps_modify fun _ => bumps_of_eq rfl rfl) fun _ => ?_
  exact bumps_bind (keeps_modify (bumps_pcrChanged 0)) fun _ =>
    keeps_modify fun _ => bumps_of_eq rfl rfl

lemma bumps_shutdown (shutdownType : Da.ShutdownType) :
    Keeps (Bumps 0) (tpm2Shutdown shutdownType) := by
  refine keeps_bind keeps_returnIfNvIsNotAvailable fun _ => ?_
  refine keeps_bind (keeps_gets _) fun _ => keeps_bind (keeps_stopIf _ _) fun _ => ?_
  refine keeps_bind (keeps_modify fun s => ?_) fun _ => keeps_modify fun _ => bumps_of_eq rfl rfl
  split
  · exact bumps_of_eq rfl rfl
  · exact .refl s

lemma bumps_pcrAllocate (allocate : List Selection) :
    Keeps (Bumps 0) (tpm2PcrAllocate allocate) := by
  refine keeps_bind keeps_returnIfNvIsNotAvailable fun _ => ?_
  refine keeps_bind ?_ fun _ => keeps_bind (keeps_modify fun _ => bumps_of_eq rfl rfl) fun _ =>
    keeps_pure _
  refine keeps_bind (keeps_gets _) fun _ => keeps_bind (keeps_stopIf _ _) fun _ => ?_
  exact keeps_bind (keeps_modify fun _ => bumps_of_eq rfl rfl) fun _ => keeps_pure _

lemma bumps_action (h : HashAlg) {c : Command} (hc : c.Sound) :
    Keeps (Bumps c.bumps) (c.action h) := by
  cases c with
  | pcrExtend locality pcrHandle digests => exact bumps_tpm2PcrExtend h locality pcrHandle digests
  | pcrEvent locality pcrHandle eventData =>
    exact bumps_tpm2PcrExtend h locality pcrHandle (Bank.all.map fun hash => (hash, _))
  | eventSequenceComplete locality pcrHandle digests =>
    cases digests with
    | none => exact fun s => (Bumps.refl s).mono (Nat.zero_le _)
    | some digests =>
      exact bumps_tpm2PcrExtend h locality pcrHandle (Bank.all.map fun hash => (hash, _))
  | pcrReset locality pcr => exact bumps_pcrReset locality pcr
  | pcrAllocate allocate =>
    exact keeps_bind (R := Bumps 0) (bumps_pcrAllocate allocate) fun _ => keeps_pure _
  | clear => exact bumps_clear
  | clearControl withLockoutAuth disable =>
    exact keeps_bind (R := Bumps 0) keeps_returnIfNvIsNotAvailable fun _ =>
      keeps_bind (keeps_stopIf _ _) fun _ => keeps_modify fun _ => bumps_of_eq rfl rfl
  | shutdown shutdownType => exact bumps_shutdown shutdownType
  | other effect result =>
    intro s
    have hfails : effect.fails = false := hc
    refine bumps_of_eq rfl ?_
    show (s.inFailureMode || effect.fails) = s.inFailureMode
    rw [hfails, Bool.or_false]

lemma bumps_pcrDrtm (h : HashAlg) (pcr : ℕ) (hash : Bank) (digest : Bytes) (s : Tpm) :
    Bumps 1 s (pcrDrtm h pcr hash digest s) := by
  unfold pcrDrtm
  split
  · exact bumps_pcrExtend h pcr hash digest (s.setPcr hash pcr _)
  · exact (Bumps.refl s).mono (Nat.zero_le 1)

lemma bumps_pcrResetDynamics (s : Tpm) : Bumps 0 s (pcrResetDynamics s) := by
  have hloop := Bumps.foldl (n := 0) (l := List.range IMPLEMENTATION_PCR) (f := resetDynamic)
    (fun _ _ => bumps_of_eq rfl rfl) s
  rw [Nat.mul_zero] at hloop
  exact hloop

lemma bumps_hashEnd (h : HashAlg) (digests : Bank → Bytes) (s : Tpm) :
    Bumps Bank.all.length s (hashEnd h digests s) := by
  have hbegin : Bumps 0 s (beginHashEnd s) := by
    unfold beginHashEnd
    split
    · exact bumps_pcrResetDynamics s
    · exact bumps_of_eq rfl rfl
  have hloop : Bumps (Bank.all.length * 1) (beginHashEnd s) (hashEnd h digests s) :=
    Bumps.foldl (fun s hash => bumps_pcrDrtm h _ hash (digests hash) s) (beginHashEnd s)
  exact hbegin.trans hloop

/-! ## The start and the end of a command -/

section

variable {s : Tpm} {env : Env}

lemma Running.begin (hs : Running s) (env : Env) : Settled (beginCommand env s) :=
  { hs.settled with
    saved := fun _ => hs.settled.saved rfl
    written := fun _ => hs.settled.written rfl }

lemma beginCommand_working (henv : env.Sound) (hs : s.inFailureMode = false) :
    (beginCommand env s).inFailureMode = false := by
  show (s.inFailureMode || env.before.fails) = false
  rw [hs, henv.before]
  rfl

lemma Settled.end (hs : Settled s) (hmode : s.inFailureMode = false) (henv : env.Sound) :
    Running (endCommand env s) := by
  have hafter : (env.after.apply s).inFailureMode = false := by
    show (s.inFailureMode || env.after.fails) = false
    rw [hmode, henv.after]
    rfl
  have hsettled := hs.apply env.after
  unfold endCommand
  generalize env.after.apply s = v at hafter hsettled
  -- the clean-up leaves a state whose saved data does not depend on the flag
  have hclean : Settled { clearOrderlyState v with clearOrderly := false } ∧
      (clearOrderlyState v).inFailureMode = false := by
    unfold clearOrderlyState
    split
    case isTrue =>
      exact ⟨⟨hsettled.started, rfl, hsettled.allocation,
        fun _ hresume => absurd hresume not_resumable_none, nofun⟩, hafter⟩
    case isFalse hnot =>
      refine ⟨⟨hsettled.started, hsettled.orderly, hsettled.allocation, fun _ hresume => ?_,
        hsettled.written⟩, hafter⟩
      cases hclear : v.clearOrderly with
      | false => exact hsettled.saved hclear hresume
      | true =>
        have horderly : isOrderly v.gp.orderlyState = false := by
          simpa [Globals.clearsOrderly, hclear] using hnot
        exact absurd hresume (not_resumable_of_not_orderly horderly)
  obtain ⟨hclean, hworking⟩ := hclean
  generalize clearOrderlyState v = w at hclean hworking
  rw [commit, henv.commitOk, Globals.commit_working hworking]
  refine ⟨⟨hclean.started, hclean.orderly, hclean.allocation, fun _ => hclean.saved rfl,
    fun _ => ?_⟩, hworking⟩
  show (if w.updateNv = false then w.file else w.nv) = w.nv
  split
  case isTrue hupdate => exact hclean.written hupdate
  case isFalse => rfl

lemma endCommand_frame (env : Env) (s : Tpm) :
    (endCommand env s).power = s.power ∧ (endCommand env s).pcrs = s.pcrs ∧
      (endCommand env s).nv.gp.pcrAllocated = s.nv.gp.pcrAllocated := by
  have hclear : (clearOrderlyState (env.after.apply s)).power = s.power ∧
      (clearOrderlyState (env.after.apply s)).pcrs = s.pcrs ∧
      (clearOrderlyState (env.after.apply s)).nv.gp.pcrAllocated = s.nv.gp.pcrAllocated := by
    unfold clearOrderlyState
    split
    all_goals exact ⟨rfl, rfl, rfl⟩
  refine ⟨Globals.commit_power.trans hclear.1, hclear.2.1, Eq.trans ?_ hclear.2.2⟩
  exact congrArg (fun m : Image => m.gp.pcrAllocated) Globals.commit_nv

end

/-! ## Startup -/

/-- A startup that is refused, or that gets no further than `CryptStartup()`. -/
structure Refused (s s' : Tpm) : Prop where
  nv : s'.nv = s.nv
  file : s'.file = s.file
  allocation : s'.gp.pcrAllocated = s.gp.pcrAllocated
  power : s'.power.initialized = s.power.initialized
  resumable : Resumable s'.gp.orderlyState → Resumable s.gp.orderlyState

/-- The state from which `TPM2_Startup()` starts the subsystems. -/
def startingState (i : StartupInput) (startupType : Da.ShutdownType) (s : Tpm) : Tpm :=
  readSaved (startupTypeOf (prevOrderlyStateOf s.gp.orderlyState) startupType.value)
    ({ s with
        power := { s.power with startupLocality3 := startupLocality i s == 3 } }.setOrderlyState
      (prevOrderlyStateOf s.gp.orderlyState))

/-- The registers are started. -/
def startPcrs (i : StartupInput) (startupType : Da.ShutdownType) (s : Tpm) : Tpm :=
  pcrStartup (startupTypeOf (prevOrderlyStateOf s.gp.orderlyState) startupType.value)
    (startupLocality i s)
    { startingState i startupType s with
      power := { (startingState i startupType s).power with initialized := true } }

/-- The end of `TPM2_Startup()`. -/
def endStartup (s : Tpm) : Tpm := (s.setOrderlyState SU_NONE_VALUE).syncOrderlyState

/-- The state after a successful `TPM2_Startup()`. -/
def startedState (i : StartupInput) (startupType : Da.ShutdownType) (s : Tpm) : Tpm :=
  endStartup (startPcrs i startupType s)

lemma readSaved_frame (type : StartupType) (s : Tpm) :
    readSaved type s = { s with
      pcrCounter := (readSaved type s).pcrCounter, pcrSave := (readSaved type s).pcrSave } := by
  cases type
  all_goals rfl

lemma tpm2Startup_cases (i : StartupInput) (startupType : Da.ShutdownType) (s : Tpm) :
    (∃ rc s', tpm2Startup i startupType s = (.error rc, s') ∧ Refused s s') ∨
    (startupCheck s.power.drtmPreStartup (startupLocality i s == 3) s.gp.orderlyState
        startupType.value = TPM_RC_SUCCESS ∧
      tpm2Startup i startupType s = (.ok (), startedState i startupType s)) := by
  unfold tpm2Startup
  rw [returnIfNvIsNotAvailable_bind]
  split
  · exact .inl ⟨_, _, rfl, rfl, rfl, rfl, rfl, id⟩
  by_cases hlocality : i.locality ≠ 0 ∧ i.locality ≠ 3
  · rw [stopIf_bind_of hlocality]
    exact .inl ⟨_, _, rfl, rfl, rfl, rfl, rfl, id⟩
  rw [stopIf_bind_of_not hlocality, gets_bind, modify_bind]
  by_cases hcheck : startupCheck s.power.drtmPreStartup (startupLocality i s == 3)
      s.gp.orderlyState startupType.value = TPM_RC_SUCCESS
  · rw [id, stopIf_bind_of_not (not_not.mpr hcheck), modify_bind]
    unfold startSubsystems
    split
    case isTrue => exact .inr ⟨hcheck, rfl⟩
    case isFalse =>
      have hframe := readSaved_frame (startupTypeOf (prevOrderlyStateOf s.gp.orderlyState)
        startupType.value) ({ s with power := { s.power with
          startupLocality3 := startupLocality i s == 3 } }.setOrderlyState
            (prevOrderlyStateOf s.gp.orderlyState))
      refine .inl ⟨_, _, rfl, ?_⟩
      rw [hframe]
      exact ⟨rfl, rfl, rfl, rfl, fun hresume => absurd hresume not_resumable_none⟩
  · rw [id, stopIf_bind_of hcheck]
    exact .inl ⟨_, _, rfl, rfl, rfl, rfl, rfl, id⟩

lemma startupBody_cases (env : Env) (i : StartupInput) (startupType : Da.ShutdownType) (s : Tpm) :
    (∃ rc s', startupBody env i startupType s = (.error rc, s') ∧ Refused s s') ∨
    (s.power.initialized = false ∧
      startupCheck s.power.drtmPreStartup (startupLocality i s == 3) s.gp.orderlyState
        startupType.value = TPM_RC_SUCCESS ∧
      startupBody env i startupType s = (.ok (), startedState i startupType s)) := by
  unfold startupBody
  rw [gets_bind]
  cases hinitialized : s.power.initialized with
  | true =>
    rw [stopIf_bind_of rfl]
    exact .inl ⟨_, _, rfl, rfl, rfl, rfl, rfl, id⟩
  | false =>
    rw [stopIf_bind_of_not nofun]
    cases env.refused with
    | some rc => exact .inl ⟨_, _, rfl, rfl, rfl, rfl, rfl, id⟩
    | none =>
      obtain hrefused | ⟨hcheck, hstarted⟩ := tpm2Startup_cases i startupType s
      · exact .inl hrefused
      · exact .inr ⟨rfl, hcheck, hstarted⟩

section

variable {i : StartupInput} {startupType : Da.ShutdownType} {s : Tpm}

lemma startingState_frame :
    startingState i startupType s = { s with
      gp := { s.gp with orderlyState := prevOrderlyStateOf s.gp.orderlyState }
      power := { s.power with startupLocality3 := startupLocality i s == 3 }
      pcrCounter := (startingState i startupType s).pcrCounter
      pcrSave := (startingState i startupType s).pcrSave } :=
  readSaved_frame _ _

lemma startPcrs_frame :
    (startPcrs i startupType s).power.initialized = true ∧
      (startPcrs i startupType s).gp.pcrAllocated = s.gp.pcrAllocated ∧
      (startPcrs i startupType s).nv = s.nv := by
  have hloop : Touches _ _ (startPcrs i startupType s) := touches_pcrStartup ..
  rw [hloop.power, hloop.gp, hloop.nv]
  refine ⟨rfl, ?_, ?_⟩
  · show (startingState i startupType s).gp.pcrAllocated = _
    rw [startingState_frame]
  · show (startingState i startupType s).nv = _
    rw [startingState_frame]

lemma settled_endStartup (hstarted : s.power.initialized = true)
    (h : s.nv.gp.pcrAllocated = s.gp.pcrAllocated) : Settled (endStartup s) :=
  ⟨hstarted, rfl, fun _ => h, fun _ hresume => absurd hresume not_resumable_none, nofun⟩

lemma settled_startedState (h : s.nv.gp.pcrAllocated = s.gp.pcrAllocated) :
    Settled (startedState i startupType s) := by
  obtain ⟨hstarted, hallocation, hnv⟩ := startPcrs_frame (s := s) (i := i)
  exact settled_endStartup hstarted (by rw [hallocation, hnv]; exact h)

lemma readSaved_pcrCounter {type : StartupType} (htype : ¬(type ≠ .resume ∧ type ≠ .restart))
    (s : Tpm) : (readSaved type s).pcrCounter = s.nv.pcrCounter := by
  cases type with
  | resume => rfl
  | restart => rfl
  | reset => exact absurd ⟨by decide, by decide⟩ htype

lemma startedState_working (hs : s.inFailureMode = false)
    (hfits : s.nv.pcrCounter.toNat + IMPLEMENTATION_PCR < 2 ^ 32) :
    (startedState i startupType s).inFailureMode = false := by
  have hbumps : Bumps _ _ (startPcrs i startupType s) := bumps_pcrStartup _ _ _
  refine (hbumps ?_).2.trans ?_
  · unfold beginPcrStartup
    dsimp only
    split
    · decide
    · unfold startingState
      rw [readSaved_pcrCounter ‹_›]
      exact hfits
  · rw [startingState_frame]
    exact hs

end

/-! ## Runs -/

/-- The event does not enter failure mode, and it is no allocation that adds a state-saved register
while a resume is possible. -/
def Spares (s : Tpm) : Event → Prop
  | .command env c =>
    env.Sound ∧ c.Sound ∧ s.pcrCounter.toNat + c.bumps < 2 ^ 32 ∧
      ∀ allocate, c = .pcrAllocate allocate → Resumable s.gp.orderlyState →
        Within (newAllocate s.gp.pcrAllocated allocate) s.gp.pcrAllocated
  | .startup env _ _ => env.Sound ∧ s.nv.pcrCounter.toNat + IMPLEMENTATION_PCR < 2 ^ 32
  | .hashEnd _ => s.pcrCounter.toNat + Bank.all.length < 2 ^ 32
  | .powerLoss _ => True

section

variable {h : HashAlg} {s : Tpm}

variable {env : Env} {c : Command} {i : StartupInput} {startupType : Da.ShutdownType}

lemma execute_failed {body : PcrM Unit} (hs : s.inFailureMode = true) :
    (execute env body s).2 = s.rest := by
  unfold execute
  rw [if_pos hs]
  rfl

lemma execute_working {body : PcrM Unit} (hs : s.inFailureMode = false) :
    (execute env body s).2 = endCommand env (body (beginCommand env s)).2 := by
  unfold execute
  rw [if_neg (by simp [hs])]

lemma inv_of_waiting (hstarted : s.power.initialized = false)
    (hallocation : s.inFailureMode = false → s.nv.gp.pcrAllocated = s.gp.pcrAllocated) : Inv s where
  running h := by
    exact nomatch hstarted.symm.trans h
  waiting _ := hallocation

lemma inv_of_running (hs : Running s) : Inv s where
  running _ := hs
  waiting h := by
    have hstarted : s.power.initialized = true := hs.settled.started
    exact nomatch hstarted.symm.trans h

lemma Running.command (hs : Running s) (hspares : Spares s (.command env c)) :
    Running (execute env (commandBody h env c) s).2 := by
  obtain ⟨henv, hc, hfits, hallocate⟩ := hspares
  rw [execute_working hs.working]
  have hbegin := hs.begin env
  have hworking := beginCommand_working henv hs.working
  obtain hstop | ⟨-, -, hbody⟩ := commandBody_cases h env c (beginCommand env s)
  · rw [hstop]
    exact hbegin.end hworking henv
  · rw [hbody]
    have hmode := (bumps_action h hc (beginCommand env s) hfits).2
    exact (settled_action h hbegin hallocate).end (hmode.trans hworking) henv

lemma commandBody_waiting (hs : s.power.initialized = false) : (commandBody h env c s).2 = s := by
  obtain hstop | ⟨hinitialized, -, -⟩ := commandBody_cases h env c s
  · exact hstop
  · exact nomatch hs.symm.trans hinitialized

lemma inv_endCommand (hstarted : s.power.initialized = false)
    (hallocation : s.nv.gp.pcrAllocated = s.gp.pcrAllocated) : Inv (endCommand env s) := by
  refine inv_of_waiting ?_ fun _ => ?_
  · rw [(endCommand_frame _ _).1]
    exact hstarted
  · rw [(endCommand_frame _ _).2.2, endCommand_pcrAllocated]
    exact hallocation

lemma inv_rest (hs : Inv s) (hmode : s.inFailureMode = true) : Inv s.rest := by
  cases hstarted : s.power.initialized with
  | true =>
    have hworking := (hs.running hstarted).working
    exact nomatch hmode.symm.trans hworking
  | false => exact inv_of_waiting hstarted (hs.waiting hstarted)

lemma inv_command (hs : Inv s) (hspares : Spares s (.command env c)) :
    Inv (execute env (commandBody h env c) s).2 := by
  cases hmode : s.inFailureMode with
  | true =>
    rw [execute_failed hmode]
    exact inv_rest hs hmode
  | false =>
    cases hstarted : s.power.initialized with
    | true => exact inv_of_running ((hs.running hstarted).command hspares)
    | false =>
      rw [execute_working hmode, commandBody_waiting (s := beginCommand env s) hstarted]
      exact inv_endCommand hstarted (hs.waiting hstarted hmode)

lemma inv_startup (hs : Inv s) (hspares : Spares s (.startup env i startupType)) :
    Inv (execute env (startupBody env i startupType) s).2 := by
  obtain ⟨henv, hfits⟩ := hspares
  cases hmode : s.inFailureMode with
  | true =>
    rw [execute_failed hmode]
    exact inv_rest hs hmode
  | false =>
    rw [execute_working hmode]
    have hworking := beginCommand_working henv hmode
    cases hstarted : s.power.initialized with
    | true =>
      -- a second startup is refused
      have hstop : (startupBody env i startupType (beginCommand env s)).2 = beginCommand env s := by
        unfold startupBody
        rw [gets_bind, stopIf_bind_of (c := (beginCommand env s).power.initialized = true) hstarted]
      rw [hstop]
      exact inv_of_running (((hs.running hstarted).begin env).end hworking henv)
    | false =>
      have hallocation := hs.waiting hstarted hmode
      obtain ⟨rc, s', hbody, hrefused⟩ | ⟨-, -, hbody⟩ :=
        startupBody_cases env i startupType (beginCommand env s)
      · rw [hbody]
        refine inv_endCommand (hrefused.power.trans hstarted) ?_
        rw [hrefused.nv, hrefused.allocation]
        exact hallocation
      · rw [hbody]
        have hsettled : Settled (startedState i startupType (beginCommand env s)) :=
          settled_startedState hallocation
        exact inv_of_running (hsettled.end (startedState_working hworking hfits) henv)

lemma Touches.rest {P : Set ℕ} {s' : Tpm} (ht : Touches P s s') : Touches P s.rest s'.rest where
  frame := by rw [ht.frame]; rfl
  others := ht.others
  failed := ht.failed

lemma beginHashEnd_initialized (s : Tpm) :
    (beginHashEnd s).power.initialized = s.power.initialized := by
  unfold beginHashEnd
  split
  · rw [(touches_pcrResetDynamics s).power]
  · rfl

lemma hashEnd_initialized (digests : Bank → Bytes) (s : Tpm) :
    (hashEnd h digests s).power.initialized = s.power.initialized := by
  rw [(touches_hashEnd h digests s).power]
  exact beginHashEnd_initialized s

lemma inv_hashEnd {digests : Bank → Bytes} (hs : Inv s)
    (hspares : Spares s (.hashEnd digests)) : Inv (hashEnd h digests s) := by
  have hloop := touches_hashEnd h digests s
  cases hstarted : s.power.initialized with
  | false =>
    refine inv_of_waiting ((hashEnd_initialized digests s).trans hstarted) fun hmode => ?_
    have hsame := sameAllocation_hashEnd h digests s
    rw [hsame.nv, hsame.ram]
    exact hs.waiting hstarted (working_of_hashEnd hmode)
  | true =>
    have hrunning := hs.running hstarted
    have hbegin : beginHashEnd s = pcrResetDynamics s := if_pos hstarted
    rw [hbegin, hstarted, if_pos rfl] at hloop
    have hreset : Settled (pcrResetDynamics s).rest :=
      hrunning.settled.touches (touches_pcrResetDynamics s).rest
        (.inr fun _ hpcr => not_stateSaved_of_dynamic hpcr)
    have hextended : Settled (hashEnd h digests s).rest := by
      refine hreset.touches hloop.rest (.inr ?_)
      rintro pcr rfl
      decide
    exact inv_of_running ⟨hextended, ((bumps_hashEnd h digests s) hspares).2.trans hrunning.working⟩

lemma inv_powerOn (c : PowerCycle) (file : Image) : Inv (powerOn c file) :=
  inv_of_waiting rfl fun hmode => by
    rw [powerOn_ok hmode]
    rfl

lemma inv_step (h : HashAlg) {e : Event} (hs : Inv s) (hspares : Spares s e) :
    Inv (e.exec h s).2 := by
  cases e with
  | command env c => exact inv_command hs hspares
  | startup env i startupType => exact inv_startup hs hspares
  | hashEnd digests => exact inv_hashEnd hs hspares
  | powerLoss c => exact inv_powerOn c s.file

lemma inv_of_reach (hreach : ((pcrSystem h).restrict Spares).Reach s) : Inv s := by
  refine hreach.invariant ?_ ?_
  · rintro s ⟨c, pcrSave, pcrCounter, rfl⟩
    exact inv_powerOn c _
  · intro s e hs he
    exact inv_step h hs he.2

/-! ## From a loss of power to the next startup -/

/-- Power was lost in the state `s`, and the TPM has not been started since. -/
inductive Off (h : HashAlg) (s : Tpm) : Tpm → Prop
  | cut (c : PowerCycle) : Off h s (powerOn c s.file)
  | step {u : Tpm} {e : Event} (hu : Off h s u)
      (he : (e.exec h u).2.power.initialized = false) : Off h s (e.exec h u).2

/-- What NV has if a resume is possible from it. -/
def SavedIf (allocation : Allocation) (pcrs : PcrValues) (m : Image) : Prop :=
  Resumable m.gp.orderlyState → Saved allocation pcrs m

/-- A TPM that waits for its startup, with the values from before the loss of power. -/
structure Kept (allocation : Allocation) (pcrs : PcrValues) (u : Tpm) : Prop where
  file : SavedIf allocation pcrs u.file
  waiting : u.power.initialized = false
  nv : u.inFailureMode = false → SavedIf allocation pcrs u.nv
  resumable : u.inFailureMode = false → Resumable u.gp.orderlyState →
    Resumable u.nv.gp.orderlyState
  allocation : u.inFailureMode = false → u.nv.gp.pcrAllocated = u.gp.pcrAllocated

variable {allocation : Allocation} {pcrs : PcrValues} {u : Tpm}

lemma kept_powerOn {file : Image} (c : PowerCycle) (hfile : SavedIf allocation pcrs file) :
    Kept allocation pcrs (powerOn c file) where
  file := hfile
  waiting := rfl
  nv _ := hfile
  resumable hmode := by
    rw [powerOn_ok hmode]
    exact id
  allocation hmode := by
    rw [powerOn_ok hmode]
    rfl

lemma kept_endCommand (hfile : SavedIf allocation pcrs u.file)
    (hwaiting : u.power.initialized = false) (hnv : SavedIf allocation pcrs u.nv)
    (hresumable : Resumable u.gp.orderlyState → Resumable u.nv.gp.orderlyState)
    (hallocation : u.nv.gp.pcrAllocated = u.gp.pcrAllocated) :
    Kept allocation pcrs (endCommand env u) := by
  have hclear : SavedIf allocation pcrs (clearOrderlyState (env.after.apply u)).nv ∧
      (clearOrderlyState (env.after.apply u)).file = u.file ∧
      (Resumable (clearOrderlyState (env.after.apply u)).gp.orderlyState →
        Resumable (clearOrderlyState (env.after.apply u)).nv.gp.orderlyState) := by
    unfold clearOrderlyState
    split
    · exact ⟨fun hresume => absurd hresume not_resumable_none, rfl, id⟩
    · exact ⟨hnv, rfl, hresumable⟩
  obtain ⟨hsaved, hsame, hresume⟩ := hclear
  have hcommit : ((endCommand env u).file = u.file ∨
      (endCommand env u).file = (clearOrderlyState (env.after.apply u)).nv) ∧
      (endCommand env u).nv = (clearOrderlyState (env.after.apply u)).nv ∧
      (endCommand env u).gp = (clearOrderlyState (env.after.apply u)).gp :=
    ⟨Globals.commit_file.imp_left (·.trans hsame), Globals.commit_nv, rfl⟩
  obtain ⟨hcommitted, hnv', hgp'⟩ := hcommit
  refine ⟨?_, ?_, fun _ => ?_, fun _ => ?_, fun _ => ?_⟩
  · obtain heq | heq := hcommitted
    · rw [heq]
      exact hfile
    · rw [heq]
      exact hsaved
  · rw [(endCommand_frame _ _).1]
    exact hwaiting
  · rw [hnv']
    exact hsaved
  · rw [hnv', hgp']
    exact hresume
  · rw [(endCommand_frame _ _).2.2, endCommand_pcrAllocated]
    exact hallocation

lemma startedState_initialized : (startedState i startupType u).power.initialized = true :=
  (startPcrs_frame (s := u) (i := i)).1

lemma kept_step {e : Event} (hu : Kept allocation pcrs u)
    (hwaiting : (e.exec h u).2.power.initialized = false) :
    Kept allocation pcrs (e.exec h u).2 := by
  have hrest : u.inFailureMode = true → Kept allocation pcrs u.rest := fun hmode =>
    { hu with }
  cases e with
  | command env c =>
    change Kept allocation pcrs (execute env (commandBody h env c) u).2
    cases hmode : u.inFailureMode with
    | true =>
      rw [execute_failed hmode]
      exact hrest hmode
    | false =>
      rw [execute_working hmode, commandBody_waiting (s := beginCommand env u) hu.waiting]
      exact kept_endCommand hu.file hu.waiting (hu.nv hmode) (hu.resumable hmode)
        (hu.allocation hmode)
  | startup env i startupType =>
    change Kept allocation pcrs (execute env (startupBody env i startupType) u).2
    change (execute env (startupBody env i startupType) u).2.power.initialized = false at hwaiting
    cases hmode : u.inFailureMode with
    | true =>
      rw [execute_failed hmode]
      exact hrest hmode
    | false =>
      rw [execute_working hmode] at hwaiting ⊢
      obtain ⟨rc, u', hbody, hrefused⟩ | ⟨-, -, hbody⟩ :=
        startupBody_cases env i startupType (beginCommand env u)
      · rw [hbody]
        refine kept_endCommand ?_ (hrefused.power.trans hu.waiting) ?_ ?_ ?_
        · rw [hrefused.file]
          exact hu.file
        · rw [hrefused.nv]
          exact hu.nv hmode
        · intro hresume
          rw [hrefused.nv]
          exact hu.resumable hmode (hrefused.resumable hresume)
        · rw [hrefused.nv, hrefused.allocation]
          exact hu.allocation hmode
      · rw [hbody, (endCommand_frame _ _).1, startedState_initialized] at hwaiting
        cases hwaiting
  | hashEnd digests =>
    change Kept allocation pcrs (hashEnd h digests u)
    have hsame := sameAllocation_hashEnd h digests u
    have hframe : (hashEnd h digests u).nv = u.nv ∧ (hashEnd h digests u).gp = u.gp := by
      have hbegin : beginHashEnd u =
          { u with power := { u.power with drtmPreStartup := true } } :=
        if_neg (by simp [hu.waiting])
      have hloop := touches_hashEnd h digests u
      rw [hbegin] at hloop
      exact ⟨hloop.nv, hloop.gp⟩
    refine ⟨?_, hwaiting, fun hmode => ?_, fun hmode => ?_, fun hmode => ?_⟩
    · rw [hsame.file]
      exact hu.file
    · rw [hframe.1]
      exact hu.nv (working_of_hashEnd hmode)
    · rw [hframe.1, hframe.2]
      exact hu.resumable (working_of_hashEnd hmode)
    · rw [hframe.1, hframe.2]
      exact hu.allocation (working_of_hashEnd hmode)
  | powerLoss c => exact kept_powerOn c hu.file

lemma kept_of_off (hs : Running s) (hoff : Off h s u) :
    Kept s.gp.pcrAllocated s.pcrs u := by
  induction hoff with
  | cut c =>
    refine kept_powerOn c fun hresume => ?_
    have hfile : s.file = s.nv := hs.settled.written rfl
    have horderly : s.nv.gp.orderlyState = s.gp.orderlyState := hs.settled.orderly
    rw [hfile, horderly] at hresume
    rw [hfile]
    exact hs.settled.saved rfl hresume
  | step hu he ih => exact kept_step ih he

lemma startupTypeOf_state {drtm locality3 : Bool} {orderlyState : UInt16}
    (hcheck : startupCheck drtm locality3 orderlyState Da.ShutdownType.state.value =
      TPM_RC_SUCCESS) :
    Resumable orderlyState ∧
      startupTypeOf (prevOrderlyStateOf orderlyState) Da.ShutdownType.state.value = .resume := by
  have hresume : prevOrderlyStateOf orderlyState = TPM_SU_STATE := by
    by_contra hne
    unfold startupCheck at hcheck
    rw [if_pos (show Da.ShutdownType.state.value = TPM_SU_STATE from rfl), if_pos hne] at hcheck
    cases hcheck
  refine ⟨hresume, ?_⟩
  unfold startupTypeOf
  rw [if_pos hresume, if_pos (show Da.ShutdownType.state.value = TPM_SU_STATE from rfl)]

lemma startPcrs_resumed {pcr : ℕ} {bank : Bank}
    (htype : startupTypeOf (prevOrderlyStateOf u.gp.orderlyState) startupType.value = .resume)
    (hsaved : pcrIsStateSaved pcr = true)
    (hallocated : pcrIsAllocated u.gp.pcrAllocated pcr bank = true) :
    (startPcrs i startupType u).pcrs bank pcr = u.nv.pcrSave bank (saveIndexOf pcr) := by
  unfold startPcrs
  rw [htype, pcrStartup_resumed _ _ hsaved]
  · show (startingState i startupType u).pcrSave bank (saveIndexOf pcr) = _
    unfold startingState
    rw [htype]
    rfl
  · show pcrIsAllocated (startingState i startupType u).gp.pcrAllocated pcr bank = true
    rw [startingState_frame]
    exact hallocated

end

/-- **A resume preserves the state-saved registers** in every run whose events meet the condition.
If power is lost in a started TPM and the next startup is a resume, every state-saved register that
is allocated then was allocated before and has the value it had. -/
theorem resume_preserves_state_saved (h : HashAlg) (s u : Tpm)
    (hreach : ((pcrSystem h).restrict Spares).Reach s) (hstarted : s.power.initialized = true)
    (hoff : Off h s u) (env : Env) (i : StartupInput) (u' : Tpm)
    (hresume : (Event.startup env i .state).exec h u = (.ok (), u')) :
    ∀ pcr, pcrIsStateSaved pcr = true → ∀ bank,
      pcrIsAllocated u'.gp.pcrAllocated pcr bank = true →
        pcrIsAllocated s.gp.pcrAllocated pcr bank = true ∧ u'.pcrs bank pcr = s.pcrs bank pcr := by
  intro pcr hpcr bank hallocated
  have hkept := kept_of_off ((inv_of_reach hreach).running hstarted) hoff
  obtain ⟨hmode, u₁, hbody, rfl⟩ := execute_ok hresume
  obtain ⟨rc, u₂, hrefused, -⟩ | ⟨-, hcheck, hstart⟩ :=
    startupBody_cases env i .state (beginCommand env u)
  · cases hrefused.symm.trans hbody
  obtain rfl : startedState i .state (beginCommand env u) = u₁ :=
    congrArg Prod.snd (hstart.symm.trans hbody)
  obtain ⟨hresumable, htype⟩ := startupTypeOf_state hcheck
  have hsaved := hkept.nv hmode (hkept.resumable hmode hresumable)
  have hwas : pcrIsAllocated u.gp.pcrAllocated pcr bank = true := by
    rw [endCommand_pcrAllocated] at hallocated
    change pcrIsAllocated (startPcrs i .state (beginCommand env u)).gp.pcrAllocated pcr bank = true
      at hallocated
    rw [startPcrs_frame.2.1] at hallocated
    exact hallocated
  have hbefore : pcrIsAllocated s.gp.pcrAllocated pcr bank = true := by
    refine hsaved.within pcr hpcr bank ?_
    rw [hkept.allocation hmode]
    exact hwas
  refine ⟨hbefore, ?_⟩
  have hvalue : (endCommand env (startedState i .state (beginCommand env u))).pcrs =
      (startPcrs i .state (beginCommand env u)).pcrs := (endCommand_frame env _).2.1
  rw [hvalue, startPcrs_resumed htype hpcr hwas]
  exact hsaved.values pcr hpcr bank hbefore

/-! ## An allocation after the shutdown -/

/-- The TPM after `TPM2_Shutdown(TPM_SU_STATE)`. -/
def shutDown : Tpm := ((Event.command quietEnv (.shutdown .state)).exec zeroHash started).2

lemma reach_exec {h : HashAlg} {s : Tpm} {e : Event}
    (hs : ((pcrSystem h).restrict Spares).Reach s) (hspares : Spares s e) :
    ((pcrSystem h).restrict Spares).Reach (e.exec h s).2 := hs.step ⟨trivial, hspares⟩

lemma quietEnv_sound : quietEnv.Sound := ⟨rfl, rfl, rfl⟩

lemma spares_shutdown (s : Tpm) (shutdownType : Da.ShutdownType) :
    Spares s (.command quietEnv (.shutdown shutdownType)) :=
  ⟨quietEnv_sound, trivial, UInt32.toNat_lt _, fun _ h => absurd h (by simp)⟩

lemma reach_shutDown : ((pcrSystem zeroHash).restrict Spares).Reach shutDown := by
  have hinit : ((pcrSystem zeroHash).restrict Spares).Reach (powerOn (freshRam 0xAA)
      (manufactured (fun hash _ => List.replicate hash.digestSize 0) 0)) :=
    .start ⟨_, _, _, rfl⟩
  have hspares : Spares (powerOn (freshRam 0xAA)
      (manufactured (fun hash _ => List.replicate hash.digestSize 0) 0))
      (.startup quietEnv ⟨0, true⟩ .clear) := by
    refine ⟨quietEnv_sound, ?_⟩
    decide
  have hstarted : ((pcrSystem zeroHash).restrict Spares).Reach started := by
    unfold started
    exact reach_exec hinit hspares
  unfold shutDown
  exact reach_exec hstarted (spares_shutdown started .state)

/-- A TPM with an image, started with `TPM2_Startup(TPM_SU_STATE)`. -/
def resumed (file : Image) : Tpm :=
  ((Event.startup quietEnv ⟨0, true⟩ .state).exec zeroHash (powerOn (freshRam 0xBB) file)).2

lemma resumed_ok {file : Image}
    (h : ((Event.startup quietEnv ⟨0, true⟩ .state).exec zeroHash
      (powerOn (freshRam 0xBB) file)).1 = .ok ()) :
    (Event.startup quietEnv ⟨0, true⟩ .state).exec zeroHash (powerOn (freshRam 0xBB) file) =
      (.ok (), resumed file) := by
  unfold resumed
  exact eq_of_ok h

theorem resume_preserves_sha256 :
    pcrIsAllocated shutDown.gp.pcrAllocated 0 .sha256 = true ∧
      (resumed shutDown.file).pcrs .sha256 0 = shutDown.pcrs .sha256 0 :=
  resume_preserves_state_saved zeroHash shutDown (powerOn (freshRam 0xBB) shutDown.file)
    reach_shutDown (by decide +kernel) (.cut (freshRam 0xBB)) quietEnv ⟨0, true⟩
    (resumed shutDown.file) (resumed_ok (by decide +kernel)) 0 (by decide) .sha256
    (by decide +kernel)

/-- The TPM after the allocation of the bank for SHA-1. -/
def reallocated : Tpm :=
  ((Event.command quietEnv (.pcrAllocate [allSha1])).exec zeroHash shutDown).2

/-- With an allocation after the shutdown the resume is accepted, and the registers of the new bank
get what happened to be in the save area. -/
theorem resume_from_unfilled_space :
    ((pcrSystem zeroHash).restrict Spares).Reach shutDown ∧
    ((Event.command quietEnv (.pcrAllocate [allSha1])).exec zeroHash shutDown).1 = .ok () ∧
    ((Event.startup quietEnv ⟨0, true⟩ .state).exec zeroHash
      (powerOn (freshRam 0xBB) reallocated.file)).1 = .ok () ∧
    pcrIsStateSaved 0 = true ∧
    pcrIsAllocated (resumed reallocated.file).gp.pcrAllocated 0 .sha1 = true ∧
    pcrIsAllocated reallocated.gp.pcrAllocated 0 .sha1 = false ∧
    (resumed reallocated.file).pcrs .sha1 0 = List.replicate 20 0xAA :=
  ⟨reach_shutDown, by decide +kernel, by decide +kernel, by decide, by decide +kernel,
    by decide +kernel, by decide +kernel⟩

end RfTpm.Pcr
