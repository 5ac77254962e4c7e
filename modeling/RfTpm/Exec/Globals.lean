import Mathlib.Data.Nat.Notation
import Mathlib.Tactic.Simps.Basic
import Mathlib.Tactic.SplitIfs

/-!
# The variables every command goes through

`ExecuteCommand()` treats a few variables in the same way whatever the command does: the flags
a command raises, the state of NV, failure mode, how the TPM was started, and the NV image with
its committed copy.  The parts of the TPM are modelled with images of their own, so the type of
the image is a parameter.  So is that of `g_updateNV`, of which most parts only see whether it is
`UT_NONE`; that value is the argument `none` below.
-/

namespace RfTpm

/-- A `TPM_RC`. -/
abbrev TpmRc := ℕ

def TPM_RC_SUCCESS : TpmRc := 0
def TPM_RC_FAILURE : TpmRc := 0x101

/-- `SU_NONE_VALUE`: the value of `orderlyState` while the TPM is not orderly. -/
def SU_NONE_VALUE : UInt16 := 0xFFFF

/-- `SU_DA_USED_VALUE`: values of `orderlyState` below it are those of a shutdown. -/
def SU_DA_USED_VALUE : UInt16 := 0xFFFE

/-- `IS_ORDERLY(value)`. -/
def isOrderly (value : UInt16) : Bool := value < SU_DA_USED_VALUE

/-- The variables that record how the TPM was started. -/
structure PowerState where
  /-- `g_initialized`: a `TPM2_Startup()` has been received. -/
  initialized : Bool
  /-- `g_DrtmPreStartup`. -/
  drtmPreStartup : Bool
  /-- `g_StartupLocality3`. -/
  startupLocality3 : Bool
  deriving DecidableEq

/-- The variables `ExecuteCommand()` and `_TPM_Init` work on in every part of the TPM. -/
structure Globals (Image Update : Type) where
  /-- `s_NV`. -/
  nv : Image
  /-- The NV image as last committed by `_plat__NvCommit`. -/
  file : Image
  /-- `g_NvStatus`. -/
  nvStatus : TpmRc
  /-- `g_updateNV`. -/
  updateNv : Update
  /-- `g_clearOrderly`. -/
  clearOrderly : Bool
  /-- `g_inFailureMode`. -/
  inFailureMode : Bool
  /-- How the TPM was started. -/
  power : PowerState
  deriving DecidableEq

namespace Globals

variable {Image Update : Type}

/-- `FAIL`. -/
@[simps]
def fail (g : Globals Image Update) : Globals Image Update := { g with inFailureMode := true }

/-- The flags reset at the start of a command. -/
@[simps]
def resetFlags (none : Update) (g : Globals Image Update) : Globals Image Update :=
  { g with updateNv := none, clearOrderly := false }

/-- `NvCheckState()`: the platform reports `nvStatus`. -/
@[simps]
def nvCheckState (nvStatus : TpmRc) (g : Globals Image Update) : Globals Image Update :=
  { g with nvStatus }

/-- The clean-up is to clear the orderly state. -/
def clearsOrderly (orderlyState : UInt16) (g : Globals Image Update) : Bool :=
  g.clearOrderly && isOrderly orderlyState

/-- The clean-up is to commit the NV writes of the command. -/
def commits [DecidableEq Update] (none : Update) (g : Globals Image Update) : Bool :=
  g.updateNv != none && !g.inFailureMode

/-- `NvCommit()` in the clean-up.  A failure is recorded by `FAIL()`, which returns. -/
def nvCommit (none : Update) (commitOk : Bool) (g : Globals Image Update) :
    Globals Image Update :=
  if commitOk then { g with file := g.nv, updateNv := none }
  else { g.fail with updateNv := none }

/-- The commit at the end of `ExecuteCommand()`. -/
def commit [DecidableEq Update] (none : Update) (commitOk : Bool) (g : Globals Image Update) :
    Globals Image Update :=
  if g.commits none then g.nvCommit none commitOk else g

section Commit

variable [DecidableEq Update] {none : Update} {commitOk : Bool} {g : Globals Image Update}

@[simp]
lemma commit_nv : (g.commit none commitOk).nv = g.nv := by
  unfold commit nvCommit
  split_ifs <;> rfl

@[simp]
lemma commit_power : (g.commit none commitOk).power = g.power := by
  unfold commit nvCommit
  split_ifs <;> rfl

lemma commit_file :
    (g.commit none commitOk).file = g.file ∨ (g.commit none commitOk).file = g.nv := by
  unfold commit nvCommit
  split_ifs
  · exact .inr rfl
  · exact .inl rfl
  · exact .inl rfl

lemma commit_working (hmode : g.inFailureMode = false) :
    g.commit none true =
      { g with file := if g.updateNv = none then g.file else g.nv, updateNv := none } := by
  by_cases hupdate : g.updateNv = none
  · subst hupdate
    simp [commit, commits]
  · simp [commit, commits, nvCommit, hupdate, hmode]

end Commit

/-- `_TPM_Init` with the image `file`. -/
@[simps]
def powerOn (none : Update) (drtm initOk : Bool) (file : Image) : Globals Image Update where
  nv := file
  file := file
  nvStatus := TPM_RC_SUCCESS
  updateNv := none
  clearOrderly := false
  inFailureMode := !initOk
  power := ⟨false, drtm, false⟩

end Globals

end RfTpm
