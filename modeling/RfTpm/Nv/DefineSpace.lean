import RfTpm.Exec.Areas

/-!
# The two ways to define an NV index

`TPM2_NV_DefineSpace()` has its checks written out; `TPM2_NV_DefineSpace2()` converts its public
area to the old form and calls `NvDefineSpace()`, where they are written out again.  The two lists
are kept apart here as they are in the source.  Of the two conversions the one back to the old form
leaves out the handle of an external index.
-/

namespace RfTpm

open TpmaNv

namespace TpmaNv

def PPWRITE : ℕ := 0
def OWNERWRITE : ℕ := 1
def POLICY_DELETE : ℕ := 10
def WRITEALL : ℕ := 12
def GLOBALLOCK : ℕ := 15
def PPREAD : ℕ := 16
def OWNERREAD : ℕ := 17

end TpmaNv

def TPM_RC_2 : TpmRc := 0x200
def TPM_RC_NV_DEFINED : TpmRc := 0x14C

/-- `MemoryRemoveTrailingZeros()`. -/
def Tpm2b.removeTrailingZeros (b : Tpm2b) : Tpm2b :=
  { b with
    size := .ofNat ((b.buffer.take b.size.toNat).reverse.dropWhile (· == 0)).length }

/-- The code of the first check that fails. -/
def firstError : List (Bool × TpmRc) → TpmRc
  | [] => TPM_RC_SUCCESS
  | (failed, rc) :: checks => if failed then rc else firstError checks

section Commands

-- `CryptHashGetDigestSize()`
variable (digestSize : UInt16 → ℕ)

/-- `NvDefineSpace()`. -/
def nvDefineSpace (authHandle : TpmHandle) (auth : Tpm2b) (publicInfo : TpmsNvPublic)
    (blameAuthHandle blameAuth blamePublic : TpmRc) : NvM TpmRc := do
  let phEnableNv ← NvM.gets (·.phEnableNv)
  let nt := publicInfo.attributes.getTpmNt
  let has := publicInfo.attributes.isSet
  let dataSize := publicInfo.dataSize.toNat
  let nameSize := digestSize publicInfo.nameAlg
  let auth := auth.removeTrailingZeros
  let attributesError := TPM_RC_ATTRIBUTES + blamePublic
  let sizeError := TPM_RC_SIZE + blamePublic
  let result := firstError [
    (publicInfo.authPolicy.size != 0 && publicInfo.authPolicy.size.toNat != nameSize, sizeError),
    (nameSize < auth.size.toNat, TPM_RC_SIZE + blameAuth),
    (authHandle == TPM_RH_PLATFORM && !phEnableNv, TPM_RC_HIERARCHY + blameAuthHandle),
    (!([1, 2, 4, 9, 8, 0].contains nt), attributesError),
    (match nt with
      | 0 => decide (dataSize > MAX_NV_INDEX_SIZE)
      | 4 => dataSize != nameSize
      | _ => dataSize != 8, sizeError),
    -- a PIN fail index falls through to the check of a PIN pass index
    (match nt with
      | 1 => has CLEAR_STCLEAR
      | 8 => !has NO_DA || has AUTHWRITE || has GLOBALLOCK || has WRITEDEFINE
      | 9 => has AUTHWRITE || has GLOBALLOCK || has WRITEDEFINE
      | _ => false, attributesError),
    (has WRITTEN || has WRITELOCKED || has READLOCKED, attributesError),
    (!has OWNERREAD && !has PPREAD && !has AUTHREAD && !has POLICYREAD, attributesError),
    (!has OWNERWRITE && !has PPWRITE && !has AUTHWRITE && !has POLICYWRITE, attributesError),
    (has CLEAR_STCLEAR && has WRITEDEFINE, attributesError),
    ((has PLATFORMCREATE && authHandle == TPM_RH_OWNER) ||
      (!has PLATFORMCREATE && authHandle == TPM_RH_PLATFORM),
      TPM_RC_ATTRIBUTES + blameAuthHandle),
    (has POLICY_DELETE && TPM_RH_PLATFORM != authHandle, attributesError),
    (decide (dataSize > MAX_NV_BUFFER_SIZE) && has WRITEALL, sizeError)]
  if result ≠ TPM_RC_SUCCESS then pure result
  else do
    let ref ← nvFindHandle publicInfo.nvIndex
    if ref ≠ 0 then pure TPM_RC_NV_DEFINED else nvDefineIndex publicInfo auth

def RC_NV_DefineSpace_authHandle : TpmRc := TPM_RC_H + TPM_RC_1
def RC_NV_DefineSpace_auth : TpmRc := TPM_RC_P + TPM_RC_1
def RC_NV_DefineSpace_publicInfo : TpmRc := TPM_RC_P + TPM_RC_2

/-- `TPM2_NV_DefineSpace()`. -/
def tpm2NvDefineSpace (authHandle : TpmHandle) (auth : Tpm2b) (publicInfo : TpmsNvPublic) :
    NvM TpmRc := do
  let phEnableNv ← NvM.gets (·.phEnableNv)
  let nt := publicInfo.attributes.getTpmNt
  let has := publicInfo.attributes.isSet
  let dataSize := publicInfo.dataSize.toNat
  let nameSize := digestSize publicInfo.nameAlg
  let auth := auth.removeTrailingZeros
  let attributesError := TPM_RC_ATTRIBUTES + RC_NV_DefineSpace_publicInfo
  let sizeError := TPM_RC_SIZE + RC_NV_DefineSpace_publicInfo
  let result := firstError [
    (publicInfo.authPolicy.size != 0 && publicInfo.authPolicy.size.toNat != nameSize, sizeError),
    (nameSize < auth.size.toNat, TPM_RC_SIZE + RC_NV_DefineSpace_auth),
    (authHandle == TPM_RH_PLATFORM && !phEnableNv, TPM_RC_HIERARCHY + RC_NV_DefineSpace_authHandle),
    (!([1, 2, 4, 9, 8, 0].contains nt), attributesError),
    (match nt with
      | 0 => decide (dataSize > MAX_NV_INDEX_SIZE)
      | 4 => dataSize != nameSize
      | _ => dataSize != 8, sizeError),
    -- a PIN fail index falls through to the check of a PIN pass index
    (match nt with
      | 1 => has CLEAR_STCLEAR
      | 8 => !has NO_DA || has AUTHWRITE || has GLOBALLOCK || has WRITEDEFINE
      | 9 => has AUTHWRITE || has GLOBALLOCK || has WRITEDEFINE
      | _ => false, attributesError),
    (has WRITTEN || has WRITELOCKED || has READLOCKED, attributesError),
    (!has OWNERREAD && !has PPREAD && !has AUTHREAD && !has POLICYREAD, attributesError),
    (!has OWNERWRITE && !has PPWRITE && !has AUTHWRITE && !has POLICYWRITE, attributesError),
    (has CLEAR_STCLEAR && has WRITEDEFINE, attributesError),
    ((has PLATFORMCREATE && authHandle == TPM_RH_OWNER) ||
      (!has PLATFORMCREATE && authHandle == TPM_RH_PLATFORM),
      TPM_RC_ATTRIBUTES + RC_NV_DefineSpace_authHandle),
    (has POLICY_DELETE && TPM_RH_PLATFORM != authHandle, attributesError),
    (decide (dataSize > MAX_NV_BUFFER_SIZE) && has WRITEALL, sizeError)]
  if result ≠ TPM_RC_SUCCESS then pure result
  else do
    let ref ← nvFindHandle publicInfo.nvIndex
    if ref ≠ 0 then pure TPM_RC_NV_DEFINED else nvDefineIndex publicInfo auth

/-- `TPMT_NV_PUBLIC_2`: the handle type, and the public area with the attributes it goes with. -/
inductive NvPublic2 where
  | nvIndex (publicArea : TpmsNvPublic)
  | permanentNv (publicArea : TpmsNvPublic)
  | externalNv (nvIndex : TpmHandle) (nameAlg : UInt16) (attributes : BitVec 64)
      (authPolicy : Tpm2b) (dataSize : UInt16)

/-- `NvPublic2FromNvPublic()`. -/
def nvPublic2FromNvPublic (p : TpmsNvPublic) : Except TpmRc NvPublic2 :=
  if handleGetType p.nvIndex = TPM_HT_NV_INDEX then .ok (.nvIndex p)
  else if handleGetType p.nvIndex = TPM_HT_PERMANENT_NV then .ok (.permanentNv p)
  else if handleGetType p.nvIndex = TPM_HT_EXTERNAL_NV then
    .ok (.externalNv p.nvIndex p.nameAlg (p.attributes.setWidth 64) p.authPolicy p.dataSize)
  else .error TPM_RC_HANDLE

/-- `NvPublicFromNvPublic2()`, with what the structure it fills in held before. -/
def nvPublicFromNvPublic2 (before : TpmsNvPublic) : NvPublic2 → TpmsNvPublic
  | .nvIndex p => p
  | .permanentNv p => p
  | .externalNv _ nameAlg attributes authPolicy dataSize =>
    -- `nvIndex` is not written
    { before with nameAlg, attributes := attributes.setWidth 32, authPolicy, dataSize }

def RC_NV_DefineSpace2_authHandle : TpmRc := TPM_RC_H + TPM_RC_1
def RC_NV_DefineSpace2_auth : TpmRc := TPM_RC_P + TPM_RC_1
def RC_NV_DefineSpace2_publicInfo : TpmRc := TPM_RC_P + TPM_RC_2

/-- `TPM2_NV_DefineSpace2()`.  `legacyPublic` is on the stack. -/
def tpm2NvDefineSpace2 (legacyPublic : TpmsNvPublic) (authHandle : TpmHandle) (auth : Tpm2b)
    (publicInfo : NvPublic2) : NvM TpmRc :=
  let rest := nvDefineSpace digestSize authHandle auth
    (nvPublicFromNvPublic2 legacyPublic publicInfo)
    RC_NV_DefineSpace2_authHandle RC_NV_DefineSpace2_auth RC_NV_DefineSpace2_publicInfo
  match publicInfo with
  | .nvIndex _ => rest
  | .permanentNv _ => pure (TPM_RC_HANDLE + RC_NV_DefineSpace2_publicInfo)
  | .externalNv _ _ attributes _ _ =>
    if attributes &&& 0xFFFFFFFF00000000 != 0 then
      pure (TPM_RC_ATTRIBUTES + RC_NV_DefineSpace2_publicInfo)
    else rest

end Commands

/-- Both commands have the same result and leave the same state, and the conversions are inverse to
each other on the public area. -/
def PathsAgree (digestSize : UInt16 → ℕ) (legacyPublic : TpmsNvPublic) (authHandle : TpmHandle)
    (auth : Tpm2b) (publicInfo : TpmsNvPublic) (s : Nv) : Prop :=
  tpm2NvDefineSpace2 digestSize legacyPublic authHandle auth (.nvIndex publicInfo) s =
      tpm2NvDefineSpace digestSize authHandle auth publicInfo s ∧
    ∀ publicInfo2, nvPublic2FromNvPublic publicInfo = .ok publicInfo2 →
      nvPublicFromNvPublic2 legacyPublic publicInfo2 = publicInfo

/-- They agree unless the index is an external one and its handle was not in the structure
already. -/
theorem nv_definition_paths_agree_iff (digestSize : UInt16 → ℕ) (legacyPublic : TpmsNvPublic)
    (authHandle : TpmHandle) (auth : Tpm2b) (publicInfo : TpmsNvPublic) (s : Nv) :
    PathsAgree digestSize legacyPublic authHandle auth publicInfo s ↔
      (handleGetType publicInfo.nvIndex = TPM_HT_EXTERNAL_NV →
        legacyPublic.nvIndex = publicInfo.nvIndex) := by
  have hexternal : ¬ TPM_HT_EXTERNAL_NV = TPM_HT_NV_INDEX := by decide
  have hpermanent : ¬ TPM_HT_EXTERNAL_NV = TPM_HT_PERMANENT_NV := by decide
  constructor
  · rintro ⟨-, hback⟩ htype
    have h := hback _ (by simp only [nvPublic2FromNvPublic, htype, hexternal, hpermanent]; rfl)
    have hhandle := congrArg TpmsNvPublic.nvIndex h
    exact hhandle
  · intro hindex
    refine ⟨rfl, fun publicInfo2 h => ?_⟩
    unfold nvPublic2FromNvPublic at h
    split_ifs at h with hnv hperm hext
    · obtain rfl := Except.ok.inj h
      rfl
    · obtain rfl := Except.ok.inj h
      rfl
    · obtain rfl := Except.ok.inj h
      simp [nvPublicFromNvPublic2, hindex hext]

/-- The public area of an external index comes back with the handle that was on the stack. -/
theorem external_index_loses_handle :
    let empty : Tpm2b := ⟨0, List.replicate 64 0, by simp⟩
    let publicInfo : TpmsNvPublic := ⟨0x11000001, 0xB, 0, empty, 8⟩
    ∃ publicInfo2, nvPublic2FromNvPublic publicInfo = .ok publicInfo2 ∧
      (nvPublicFromNvPublic2 ⟨0, 0, 0, empty, 0⟩ publicInfo2).nvIndex = 0 := by
  exact ⟨_, rfl, rfl⟩

end RfTpm
