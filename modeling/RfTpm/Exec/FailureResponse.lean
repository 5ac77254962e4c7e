import RfTpm.Exec.FailureMode

/-!
# The responses in failure mode, byte by byte

`TpmFailureMode()` unmarshals the two commands it answers by hand and marshals their responses by
hand.  The property list of `TPM2_GetCapability()` has its count computed from the request while
one property and a value are appended whatever the count is, so a request for no property gets a
list whose count does not fit what follows.
-/

namespace RfTpm

open Bytes Parsing List

def TPM_CC_GetCapability : ℕ := 0x17A
def TPM_CC_GetTestResult : ℕ := 0x17C
def TPM_CAP_TPM_PROPERTIES : ℕ := 6
def FATAL_ERROR_NV_UNRECOVERABLE : ℕ := 8
def TPM_RC_NV_UNINITIALIZED : TpmRc := 0x14A
def PT_FIXED : ℕ := 0x100
def TPM_PT_MANUFACTURER : ℕ := PT_FIXED + 5
def TPM_PT_VENDOR_STRING_1 : ℕ := PT_FIXED + 6
def TPM_PT_VENDOR_STRING_2 : ℕ := PT_FIXED + 7
def TPM_PT_VENDOR_STRING_3 : ℕ := PT_FIXED + 8
def TPM_PT_VENDOR_STRING_4 : ℕ := PT_FIXED + 9
def TPM_PT_VENDOR_TPM_TYPE : ℕ := PT_FIXED + 10
def TPM_PT_FIRMWARE_VERSION_1 : ℕ := PT_FIXED + 11
def TPM_PT_FIRMWARE_VERSION_2 : ℕ := PT_FIXED + 12

/-- What `TpmFail()` has recorded. -/
structure FailureRecord where
  failFunction : UInt32
  failLine : UInt32
  failCode : UInt32

/-- The values of the platform: `_plat__GetManufacturerCapabilityCode()` and its siblings. -/
structure VendorInfo where
  manufacturerCapabilityCode : UInt32
  vendorCapabilityCode : ℕ → UInt32
  tpmType : UInt32
  tpmFirmwareVersionHigh : UInt32
  tpmFirmwareVersionLow : UInt32

/-- The commands that are answered, with what was unmarshaled of them. -/
inductive FailureQuery where
  | getTestResult
  | getCapability (pt count : ℕ)

/-- The tests of `TpmFailureMode()` up to `goto FailureModeReturn`. -/
def failureQuery (request : Bytes) : Except TpmRc FailureQuery := do
  -- a size that is not an `INT32` is negative, so the first read fails
  if INT32_MAX < request.length then throw TPM_RC_FAILURE
  let (tag, buffer) ← (uintUnmarshal 2).run request
  let (size, buffer) ← (uintUnmarshal 4).run buffer
  let (code, buffer) ← (uintUnmarshal 4).run buffer
  if tag ≠ TPM_ST_NO_SESSIONS ∨ size < 10 then throw TPM_RC_FAILURE
  if code = TPM_CC_GetTestResult then
    if size ≠ 10 then throw TPM_RC_FAILURE
    pure .getTestResult
  else if code = TPM_CC_GetCapability then
    if size ≠ 22 then throw TPM_RC_FAILURE
    let (capability, buffer) ← (uintUnmarshal 4).run buffer
    if capability ≠ TPM_CAP_TPM_PROPERTIES then throw TPM_RC_FAILURE
    let (pt, buffer) ← (uintUnmarshal 4).run buffer
    let (count, _) ← (uintUnmarshal 4).run buffer
    pure (.getCapability pt count)
  else throw TPM_RC_FAILURE

/-- The value returned with a property. -/
def VendorInfo.property (v : VendorInfo) (pt : ℕ) : UInt32 :=
  if pt = TPM_PT_MANUFACTURER then v.manufacturerCapabilityCode
  else if pt = TPM_PT_VENDOR_STRING_1 then v.vendorCapabilityCode 1
  else if pt = TPM_PT_VENDOR_STRING_2 then v.vendorCapabilityCode 2
  else if pt = TPM_PT_VENDOR_STRING_3 then v.vendorCapabilityCode 3
  else if pt = TPM_PT_VENDOR_STRING_4 then v.vendorCapabilityCode 4
  else if pt = TPM_PT_VENDOR_TPM_TYPE then v.tpmType
  else if pt = TPM_PT_FIRMWARE_VERSION_1 then v.tpmFirmwareVersionHigh
  else v.tpmFirmwareVersionLow

/-- What is marshaled from `response[10]` on: the bytes, and their number. -/
structure Marshaled where
  bytes : Bytes
  marshalSize : ℕ

/-- `marshalSize += MarshalUint16(value, &buffer)` for two bytes, or `MarshalUint32()` for four. -/
def Marshaled.uint (m : Marshaled) (n value : ℕ) : Marshaled :=
  ⟨m.bytes ++ beBytes n value, m.marshalSize + n⟩

/-- The parameters of the response to each. -/
def failureParameters (f : FailureRecord) (v : VendorInfo) : FailureQuery → Marshaled
  | .getTestResult =>
    (Marshaled.mk [] 0).uint 2 12 |>.uint 4 f.failFunction.toNat |>.uint 4 f.failLine.toNat
      |>.uint 4 f.failCode.toNat
      |>.uint 4 (if f.failCode.toNat = FATAL_ERROR_NV_UNRECOVERABLE
        then TPM_RC_NV_UNINITIALIZED else TPM_RC_FAILURE)
  | .getCapability pt count =>
    let count := if count > 0 then 1 else if pt > TPM_PT_FIRMWARE_VERSION_2 then 0 else count
    let pt := if pt < TPM_PT_MANUFACTURER then TPM_PT_MANUFACTURER else pt
    let value := if count > 0 then (v.property pt).toNat else pt
    (Marshaled.mk [if pt < TPM_PT_FIRMWARE_VERSION_2 then 1 else 0] 1).uint 4 TPM_CAP_TPM_PROPERTIES
      |>.uint 4 count |>.uint 4 pt |>.uint 4 value

/-- `TpmFailureMode()`: the header and the parameters of the response. -/
def tpmFailureMode (f : FailureRecord) (v : VendorInfo) (request : Bytes) : Response × Bytes :=
  match failureQuery request with
  | .ok query =>
    let m := failureParameters f v query
    (⟨TPM_ST_NO_SESSIONS, m.marshalSize + 10, TPM_RC_SUCCESS⟩, m.bytes)
  | .error _ => (⟨TPM_ST_NO_SESSIONS, 10, TPM_RC_FAILURE⟩, [])

/-- The bytes `TpmFailureMode()` leaves in its response buffer. -/
def failureModeBytes (f : FailureRecord) (v : VendorInfo) (request : Bytes) : Bytes :=
  let (header, parameters) := tpmFailureMode f v request
  beBytes 2 header.tag ++ beBytes 4 header.size ++ beBytes 4 header.responseCode ++ parameters

/-! ## The requests that are answered -/

/-- `TPM2_GetTestResult()`. -/
def testResultCommand : Bytes :=
  beBytes 2 TPM_ST_NO_SESSIONS ++ beBytes 4 10 ++ beBytes 4 TPM_CC_GetTestResult

/-- `TPM2_GetCapability()` for `count` properties from `pt` on. -/
def propertiesCommand (pt count : UInt32) : Bytes :=
  beBytes 2 TPM_ST_NO_SESSIONS ++ beBytes 4 22 ++ beBytes 4 TPM_CC_GetCapability ++
    beBytes 4 TPM_CAP_TPM_PROPERTIES ++ beBytes 4 pt.toNat ++ beBytes 4 count.toNat

/-- The size that the header of a request announces. -/
def announcedSize (request : Bytes) : ℕ := beVal ((request.drop 2).take 4)

lemma announcedSize_append {tag : ℕ} (size : ℕ) (rest : Bytes) (h : size < 2 ^ 32) :
    announcedSize (beBytes 2 tag ++ beBytes 4 size ++ rest) = size := by
  unfold announcedSize
  rw [append_assoc, drop_left' (length_beBytes 2 tag), take_left' (length_beBytes 4 size)]
  exact beVal_beBytes h

lemma announcedSize_testResult {request : Bytes} (h : testResultCommand <+: request) :
    announcedSize request = testResultCommand.length := by
  obtain ⟨rest, rfl⟩ := h
  unfold testResultCommand
  rw [append_assoc, announcedSize_append 10 _ (by decide)]
  rfl

lemma announcedSize_properties {request : Bytes} {pt count : UInt32}
    (h : propertiesCommand pt count <+: request) :
    announcedSize request = (propertiesCommand pt count).length := by
  obtain ⟨rest, rfl⟩ := h
  unfold propertiesCommand
  simp only [append_assoc]
  rw [← append_assoc, announcedSize_append 22 _ (by decide)]
  rfl

lemma uintUnmarshal_ok {n v : ℕ} {buffer rest : Bytes}
    (h : (uintUnmarshal n).run buffer = .ok (v, rest)) : buffer = beBytes n v ++ rest :=
  (uintUnmarshal_ok_iff.mp h).2

lemma uintUnmarshal_append {n v : ℕ} (h : v < 256 ^ n) (rest : Bytes) :
    (uintUnmarshal n).run (beBytes n v ++ rest) = .ok (v, rest) :=
  uintUnmarshal_ok_iff.mpr ⟨h, rfl⟩

lemma failureQuery_ok {request : Bytes} {query : FailureQuery}
    (h : failureQuery request = .ok query) :
    request.length ≤ INT32_MAX ∧
      ((query = .getTestResult ∧ testResultCommand <+: request) ∨
        ∃ pt count : UInt32, query = .getCapability pt.toNat count.toNat ∧
          propertiesCommand pt count <+: request) := by
  unfold failureQuery at h
  obtain ⟨hlength, h⟩ := throw_eq_ok h
  obtain ⟨⟨tag, buffer₁⟩, htag, h⟩ := bind_eq_ok h
  obtain ⟨⟨size, buffer₂⟩, hsize, h⟩ := bind_eq_ok h
  obtain ⟨⟨code, buffer₃⟩, hcode, h⟩ := bind_eq_ok h
  obtain ⟨hchecks, h⟩ := throw_eq_ok h
  push Not at hchecks
  dsimp only at h hchecks hsize hcode
  refine ⟨not_lt.mp hlength, ?_⟩
  rw [uintUnmarshal_ok htag, uintUnmarshal_ok hsize, uintUnmarshal_ok hcode, hchecks.1]
  split at h
  · rename_i htest
    obtain ⟨hten, h⟩ := throw_eq_ok h
    obtain rfl := Except.ok.inj h
    rw [not_not.mp hten, htest]
    exact .inl ⟨rfl, buffer₃, by simp [testResultCommand]⟩
  · split at h
    · rename_i hcapabilityCode
      obtain ⟨hsize22, h⟩ := throw_eq_ok h
      obtain ⟨⟨capability, buffer₄⟩, hcapability, h⟩ := bind_eq_ok h
      obtain ⟨hproperties, h⟩ := throw_eq_ok h
      obtain ⟨⟨pt, buffer₅⟩, hpt, h⟩ := bind_eq_ok h
      obtain ⟨⟨count, buffer₆⟩, hcount, h⟩ := bind_eq_ok h
      obtain rfl := Except.ok.inj h
      dsimp only at hproperties hpt hcount
      have hpt' : (UInt32.ofNat pt).toNat = pt :=
        UInt32.toNat_ofNat_of_lt (uintUnmarshal_ok_iff.mp hpt).1
      have hcount' : (UInt32.ofNat count).toNat = count :=
        UInt32.toNat_ofNat_of_lt (uintUnmarshal_ok_iff.mp hcount).1
      refine .inr ⟨.ofNat pt, .ofNat count, by rw [hpt', hcount'], buffer₆, ?_⟩
      rw [uintUnmarshal_ok hcapability, uintUnmarshal_ok hpt, uintUnmarshal_ok hcount,
        not_not.mp hproperties, not_not.mp hsize22, hcapabilityCode, propertiesCommand, hpt',
        hcount']
      simp
    · cases h

lemma failureQuery_testResult {request : Bytes} (hlength : request.length ≤ INT32_MAX)
    (h : testResultCommand <+: request) : failureQuery request = .ok .getTestResult := by
  obtain ⟨rest, rfl⟩ := h
  rw [testResultCommand, append_assoc, append_assoc] at hlength ⊢
  simp only [failureQuery, not_lt.mpr hlength, if_false]
  rw [uintUnmarshal_append (by decide)]
  simp only [bind, Except.bind]
  rw [uintUnmarshal_append (by decide)]
  simp only
  rw [uintUnmarshal_append (by decide)]
  rfl

lemma failureQuery_properties {request : Bytes} (hlength : request.length ≤ INT32_MAX)
    {pt count : UInt32} (h : propertiesCommand pt count <+: request) :
    failureQuery request = .ok (.getCapability pt.toNat count.toNat) := by
  obtain ⟨rest, rfl⟩ := h
  simp only [propertiesCommand, append_assoc] at hlength ⊢
  simp only [failureQuery, not_lt.mpr hlength, if_false]
  rw [uintUnmarshal_append (by decide)]
  simp only [bind, Except.bind]
  rw [uintUnmarshal_append (by decide)]
  simp only
  rw [uintUnmarshal_append (by decide)]
  have hcode : ¬ TPM_CC_GetCapability = TPM_CC_GetTestResult := by decide
  simp only [ne_eq, not_true_eq_false, Nat.reduceLT, or_self, if_false, hcode, if_true]
  rw [uintUnmarshal_append (by decide)]
  simp only [not_true_eq_false, if_false]
  rw [uintUnmarshal_append pt.toNat_lt]
  simp only
  rw [uintUnmarshal_append count.toNat_lt]
  rfl

/-! ## The property -/

/-- The parameters of `TPM2_GetTestResult()`: a sized buffer and a response code. -/
def ParsesTestResult (parameters : Bytes) : Prop :=
  ∃ (outData : Bytes) (testResult : UInt32), outData.length < 2 ^ 16 ∧
    parameters = beBytes 2 outData.length ++ outData ++ beBytes 4 testResult.toNat

/-- The parameters of `TPM2_GetCapability()` with a list of at most `limit` properties. -/
def ParsesProperties (limit : ℕ) (parameters : Bytes) : Prop :=
  ∃ (moreData : Bool) (pairs : List (UInt32 × UInt32)), pairs.length ≤ limit ∧
    parameters = [if moreData then 1 else 0] ++ beBytes 4 TPM_CAP_TPM_PROPERTIES ++
      beBytes 4 pairs.length ++
      pairs.flatMap fun pair => beBytes 4 pair.1.toNat ++ beBytes 4 pair.2.toNat

/-- A request is answered by a success response whose parameters are those of the command, or by
the ten bytes of `TPM_RC_FAILURE` when it is neither of the two commands. -/
structure WellFormedResponse (request response : Bytes) : Prop where
  size : beVal ((response.drop 2).take 4) = response.length
  testResult : request.length ≤ INT32_MAX → testResultCommand <+: request →
    ParsesTestResult (response.drop 10)
  properties : ∀ pt count, request.length ≤ INT32_MAX → propertiesCommand pt count <+: request →
    ParsesProperties count.toNat (response.drop 10)
  other : (request.length ≤ INT32_MAX → ¬ testResultCommand <+: request ∧
      ∀ pt count, ¬ propertiesCommand pt count <+: request) →
    response = beBytes 2 TPM_ST_NO_SESSIONS ++ beBytes 4 10 ++ beBytes 4 TPM_RC_FAILURE

variable {f : FailureRecord} {v : VendorInfo} {request : Bytes}

lemma marshalSize_failureParameters (query : FailureQuery) :
    (failureParameters f v query).marshalSize = (failureParameters f v query).bytes.length ∧
      (failureParameters f v query).marshalSize ≤ 18 := by
  cases query <;> simp [failureParameters, Marshaled.uint]

lemma failureModeBytes_ok {query : FailureQuery} (h : failureQuery request = .ok query) :
    (failureModeBytes f v request).drop 10 = (failureParameters f v query).bytes := by
  simp only [failureModeBytes, tpmFailureMode, h]
  exact drop_left' (by simp)

lemma announcedSize_failureModeBytes :
    announcedSize (failureModeBytes f v request) = (failureModeBytes f v request).length := by
  unfold failureModeBytes tpmFailureMode
  cases failureQuery request with
  | ok query =>
    obtain ⟨hsize, hle⟩ := marshalSize_failureParameters (f := f) (v := v) query
    dsimp only
    rw [append_assoc _ _ (failureParameters f v query).bytes, announcedSize_append _ _ (by omega)]
    simp
    omega
  | error e => exact announcedSize_append 10 _ (by decide)

lemma parsesTestResult : ParsesTestResult (failureParameters f v .getTestResult).bytes := by
  obtain ⟨testResult, hcode⟩ : ∃ testResult : UInt32, testResult.toNat =
      if f.failCode.toNat = FATAL_ERROR_NV_UNRECOVERABLE
        then TPM_RC_NV_UNINITIALIZED else TPM_RC_FAILURE := by
    split
    · exact ⟨.ofNat TPM_RC_NV_UNINITIALIZED, rfl⟩
    · exact ⟨.ofNat TPM_RC_FAILURE, rfl⟩
  refine ⟨beBytes 4 f.failFunction.toNat ++ beBytes 4 f.failLine.toNat ++
    beBytes 4 f.failCode.toNat, testResult, by simp, ?_⟩
  rw [hcode]
  simp [failureParameters, Marshaled.uint]

lemma parsesProperties_iff (pt count : UInt32) :
    ParsesProperties count.toNat
      (failureParameters f v (.getCapability pt.toNat count.toNat)).bytes ↔ count ≠ 0 := by
  constructor
  · rintro ⟨moreData, pairs, hlimit, hparameters⟩ rfl
    have hnil : pairs = [] := length_eq_zero_iff.mp (by simpa using hlimit)
    have hlength := congrArg length hparameters
    simp [failureParameters, Marshaled.uint, hnil] at hlength
  · intro hcount
    have hpos : 0 < count.toNat := by
      rw [Nat.pos_iff_ne_zero]
      exact fun h => hcount (UInt32.toNat_inj.mp h)
    set pt' : UInt32 := if pt.toNat < TPM_PT_MANUFACTURER then .ofNat TPM_PT_MANUFACTURER else pt
      with hpt'
    have hmax : (if pt.toNat < TPM_PT_MANUFACTURER then TPM_PT_MANUFACTURER else pt.toNat) =
        pt'.toNat := by
      rw [hpt']
      split <;> rfl
    refine ⟨decide (pt'.toNat < TPM_PT_FIRMWARE_VERSION_2), [(pt', v.property pt'.toNat)],
      hpos, ?_⟩
    simp [failureParameters, Marshaled.uint, hpos, hmax]

/-- In failure mode the response is well formed unless the request is for no property at all. -/
theorem failure_response_well_formed_iff :
    WellFormedResponse request (failureModeBytes f v request) ↔
      ¬ (request.length ≤ INT32_MAX ∧ ∃ pt, propertiesCommand pt 0 <+: request) := by
  constructor
  · rintro h ⟨hlength, pt, hrequest⟩
    have hparses := h.properties pt 0 hlength hrequest
    rw [failureModeBytes_ok (failureQuery_properties hlength hrequest)] at hparses
    exact (parsesProperties_iff pt 0).mp hparses rfl
  · intro hcount
    refine ⟨announcedSize_failureModeBytes, ?_, ?_, ?_⟩
    · intro hlength hrequest
      rw [failureModeBytes_ok (failureQuery_testResult hlength hrequest)]
      exact parsesTestResult
    · intro pt count hlength hrequest
      rw [failureModeBytes_ok (failureQuery_properties hlength hrequest), parsesProperties_iff]
      rintro rfl
      exact hcount ⟨hlength, pt, hrequest⟩
    · intro hother
      cases hquery : failureQuery request with
      | error e =>
        simp only [failureModeBytes, tpmFailureMode, hquery]
        rfl
      | ok query =>
        obtain ⟨hlength, ⟨-, htest⟩ | ⟨pt, count, -, hproperties⟩⟩ := failureQuery_ok hquery
        · exact absurd htest (hother hlength).1
        · exact absurd hproperties ((hother hlength).2 pt count)

/-- A request for no property is answered by a list of no properties with eight more bytes. -/
theorem failure_list_of_none :
    let f : FailureRecord := ⟨0, 0, 0⟩
    let v : VendorInfo := ⟨0, fun _ => 0, 0, 0, 0⟩
    ((failureModeBytes f v (propertiesCommand 0x105 0)).drop 15).take 4 = [0, 0, 0, 0] ∧
      ((failureModeBytes f v (propertiesCommand 0x105 0)).drop 19).length = 8 ∧
      ¬ WellFormedResponse (propertiesCommand 0x105 0)
        (failureModeBytes f v (propertiesCommand 0x105 0)) := by
  refine ⟨by decide, by decide, fun h => ?_⟩
  have hlength : (propertiesCommand 0x105 0).length ≤ INT32_MAX := by decide
  have hparses := h.properties 0x105 0 hlength (prefix_refl _)
  rw [failureModeBytes_ok (failureQuery_properties hlength (prefix_refl _))] at hparses
  exact (parsesProperties_iff 0x105 0).mp hparses rfl

end RfTpm
