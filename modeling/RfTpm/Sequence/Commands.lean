import RfTpm.Auth.Ticket

/-!
# Hash sequences and their tickets

A hash sequence is a `HASH_OBJECT` in an object slot.  `TPM2_SequenceUpdate()` feeds it and
`TPM2_SequenceComplete()` ends it; a ticket that says that the digest is safe to sign comes with
the digest (`TicketComputeHashCheck()`).  `TPM2_Hash()` does all that in one command, and
`TPM2_Sign()` asks for the ticket when the key is restricted.

What is known about the message is kept in two attribute bits of the object: `firstBlock` says
that data has come in, `ticketSafe` what `TicketIsSafe()` found in the first buffer.  They are
saved and loaded with the object, so the machine below has every saved context, and loads any of
them any number of times.
-/

namespace RfTpm.Sequence

open Bytes Auth Runs

/-- `TPM_GENERATED_VALUE`, with which every structure starts that the TPM makes itself. -/
def TPM_GENERATED_VALUE : ℕ := 0xFF544347

def TPM_ST_HASHCHECK : ℕ := 0x8024


/-- `CryptHashGetAlgByIndex()` -/
def cryptHashGetAlgByIndex (i : ℕ) : UInt16 := [0x4, 0xB, 0xC, 0xD].getD i 0x10

/-! ## Objects -/

/-- `HASH_STATE`: the algorithm and the data so far. -/
structure HashState where
  hashAlg : UInt16
  data : Bytes

/-- `CryptDigestUpdate2B()` -/
def HashState.update (h : HashState) (buffer : Bytes) : HashState :=
  { h with data := h.data ++ buffer }

/-- `CryptHashStart()` -/
def cryptHashStart (hashAlg : UInt16) : HashState := ⟨hashAlg, []⟩

/-- `OBJECT_ATTRIBUTES`, as far as sequences and slots go. -/
structure ObjectAttributes where
  evict : Bool := false
  temporary : Bool := false
  hmacSeq : Bool := false
  hashSeq : Bool := false
  eventSeq : Bool := false
  ticketSafe : Bool := false
  firstBlock : Bool := false
  occupied : Bool := false
  deriving DecidableEq

/-- `HASH_OBJECT`: the attributes and the states of the hashes.  The state of an HMAC begins
with the state of its hash, in the place of the first. -/
structure HashObject where
  attributes : ObjectAttributes
  hashState : ℕ → HashState

/-- `ObjectIsSequence()` -/
def objectIsSequence (o : HashObject) : Bool :=
  o.attributes.hmacSeq || o.attributes.hashSeq || o.attributes.eventSeq

/-- An update of the first hash of an object. -/
def HashObject.update (o : HashObject) (buffer : Bytes) : HashObject :=
  { o with hashState := Function.update o.hashState 0 ((o.hashState 0).update buffer) }

/-! ## Tickets -/

/-- `TicketIsSafe()` -/
def ticketIsSafe (buffer : Bytes) : Bool :=
  if buffer.length < 4 then false
  else if buffer.take 4 = beBytes 4 TPM_GENERATED_VALUE then false
  else true

/-- `TPMT_TK_HASHCHECK`; its tag is fixed. -/
structure HashcheckTicket where
  hierarchy : TpmHandle
  digest : Bytes
  deriving DecidableEq

/-- The string that `TicketComputeHashCheck()` authenticates. -/
def hashcheckData (hashAlg : UInt16) (digest : Bytes) : Bytes :=
  beBytes 2 TPM_ST_HASHCHECK ++ (beBytes 2 hashAlg.toNat ++ digest)

/-- `HierarchyGetProof()`, which returns an error or a proof. -/
structure Proofs where
  hierarchyGetProof : TpmHandle → Except TpmRc Bytes
  ne_success : ∀ hierarchy, hierarchyGetProof hierarchy ≠ .error TPM_RC_SUCCESS

/-- `TicketComputeHashCheck()` -/
def ticketComputeHashCheck (c : Crypto) (proofs : Proofs) (hierarchy : TpmHandle)
    (hashAlg : UInt16) (digest : Bytes) : Except TpmRc HashcheckTicket := do
  let proof ← proofs.hierarchyGetProof hierarchy
  return ⟨hierarchy, c.hmac CONTEXT_INTEGRITY_HASH_ALG proof (hashcheckData hashAlg digest)⟩

/-- The ticket in the output of a command.  The result of the computation is not looked at, and
the output buffer was zero before. -/
def outputTicket (c : Crypto) (proofs : Proofs) (hierarchy : TpmHandle) (hashAlg : UInt16)
    (digest : Bytes) : HashcheckTicket :=
  match ticketComputeHashCheck c proofs hierarchy hashAlg digest with
  | .ok ticket => ticket
  | .error _ => ⟨hierarchy, []⟩

/-! ## Commands on one object -/

/-- `TPM2_SequenceUpdate()` -/
def sequenceUpdate (o : HashObject) (buffer : Bytes) : Except TpmRc HashObject :=
  if !objectIsSequence o then .error (TPM_RC_MODE + rcP 1)
  else if o.attributes.eventSeq then
    .ok { o with hashState := fun i =>
            if i < HASH_COUNT then (o.hashState i).update buffer else o.hashState i }
  else if o.attributes.hashSeq then
    let attributes :=
      if !o.attributes.firstBlock then
        { o.attributes with
          firstBlock := true
          ticketSafe := o.attributes.ticketSafe || ticketIsSafe buffer }
      else o.attributes
    .ok (HashObject.update { o with attributes } buffer)
  else .ok (o.update buffer)

/-- The output of `TPM2_SequenceComplete()` and of `TPM2_Hash()`. -/
structure DigestOut where
  result : Bytes
  validation : HashcheckTicket
  deriving DecidableEq

/-- `TPM2_SequenceComplete()` with the object it leaves.  `macEnd` is the MAC of an HMAC
sequence. -/
def sequenceComplete (c : Crypto) (proofs : Proofs) (macEnd : HashObject → Bytes)
    (o : HashObject) (buffer : Bytes) (hierarchy : TpmHandle) :
    Except TpmRc (DigestOut × HashObject) :=
  if !o.attributes.hashSeq && !o.attributes.hmacSeq then .error (TPM_RC_MODE + rcH 1)
  else if o.attributes.hashSeq then
    let hashAlg := (o.hashState 0).hashAlg
    let fed := o.update buffer
    let result := c.hash hashAlg.toNat (fed.hashState 0).data
    let ticketSafe :=
      o.attributes.ticketSafe || (!o.attributes.firstBlock && ticketIsSafe buffer)
    let validation :=
      if hierarchy = TPM_RH_NULL then ⟨hierarchy, []⟩
      else if !ticketSafe then ⟨TPM_RH_NULL, []⟩
      else outputTicket c proofs hierarchy hashAlg result
    .ok (⟨result, validation⟩,
      { fed with attributes := { o.attributes with ticketSafe, evict := true } })
  else
    let fed := o.update buffer
    .ok (⟨macEnd fed, ⟨TPM_RH_NULL, []⟩⟩,
      { fed with attributes := { o.attributes with evict := true } })

/-- `TPM2_Hash()` -/
def tpm2Hash (c : Crypto) (proofs : Proofs) (data : Bytes) (hashAlg : UInt16)
    (hierarchy : TpmHandle) : DigestOut :=
  let outHash := c.hash hashAlg.toNat data
  let validation :=
    if hierarchy = TPM_RH_NULL then ⟨TPM_RH_NULL, []⟩
    else if 4 ≤ data.length ∧ !ticketIsSafe data then ⟨TPM_RH_NULL, []⟩
    else outputTicket c proofs hierarchy hashAlg outHash
  ⟨outHash, validation⟩

/-! ## Signing -/

/-- `TPMT_SIG_SCHEME`: the scheme and `details.any.hashAlg`. -/
structure SigScheme where
  scheme : UInt16
  hashAlg : UInt16
  deriving DecidableEq

/-- `TPM_ALG_NULL` as an algorithm identifier. -/
def ALG_NULL : UInt16 := 0x10

/-- `CryptIsSplitSign()`: the scheme is ECDAA. -/
def cryptIsSplitSign (scheme : UInt16) : Bool := scheme = 0x1A

/-- What `TPM2_Sign()` reads of the key: `IsSigningObject()`, two attributes, whether it is a
symmetric cipher, and its default scheme. -/
structure SignKey where
  isSigningObject : Bool
  x509sign : Bool
  restricted : Bool
  isSymCipher : Bool
  scheme : SigScheme

/-- `CryptSelectSignScheme()` with the scheme it leaves. -/
def cryptSelectSignScheme (key : SignKey) (scheme : SigScheme) : Option SigScheme :=
  if key.isSymCipher then none
  else if key.scheme.scheme = ALG_NULL then
    if scheme.scheme ≠ ALG_NULL then some scheme else none
  else if scheme.scheme = ALG_NULL then
    if !cryptIsSplitSign key.scheme.scheme then some key.scheme else none
  else if key.scheme.scheme = scheme.scheme ∧ key.scheme.hashAlg = scheme.hashAlg then some scheme
  else none

/-- `Sign_In` without the key. -/
structure SignIn where
  digest : Bytes
  inScheme : SigScheme
  validation : HashcheckTicket

/-- The check of the ticket, or of the size of the digest where there is none to check. -/
def checkValidation (c : Crypto) (proofs : Proofs) (key : SignKey) (i : SignIn)
    (hashAlg : UInt16) : TpmRc :=
  if i.validation.digest.length ≠ 0 ∨ key.restricted then
    match ticketComputeHashCheck c proofs i.validation.hierarchy hashAlg i.digest with
    | .error result => result
    | .ok ticket =>
      if i.validation.digest ≠ ticket.digest then TPM_RC_TICKET + rcP 3 else TPM_RC_SUCCESS
  else if i.digest.length ≠ c.digestSize hashAlg.toNat then TPM_RC_SIZE + rcP 1
  else TPM_RC_SUCCESS

/-- `TPM2_Sign()`; `cryptSign` is the result of the signature operation. -/
def tpm2Sign (c : Crypto) (proofs : Proofs) (cryptSign : SigScheme → TpmRc) (key : SignKey)
    (i : SignIn) : TpmRc :=
  if !key.isSigningObject then TPM_RC_KEY + rcH 1
  else if key.x509sign then TPM_RC_ATTRIBUTES + rcH 1
  else match cryptSelectSignScheme key i.inScheme with
    | none => TPM_RC_SCHEME + rcP 2
    | some scheme =>
      let result := checkValidation c proofs key i scheme.hashAlg
      if result ≠ TPM_RC_SUCCESS then result else cryptSign scheme

/-! ## The machine -/

/-- An HMAC under a proof that the TPM has given out. -/
inductive Issued
  /-- A ticket for the digest of a message. -/
  | hashcheck (proof : Bytes) (hashAlg : UInt16) (message : Bytes)
  /-- A ticket of another kind, or the integrity value of a context. -/
  | other (proof data : Bytes)

/-- The proof of an HMAC and the string under it. -/
def Issued.mac (c : Crypto) : Issued → Bytes × Bytes
  | .hashcheck proof hashAlg message =>
    (proof, hashcheckData hashAlg (c.hash hashAlg.toNat message))
  | .other proof data => (proof, data)

/-- The object slots and the proofs, with the contexts that have been saved and a record of the
HMACs that have been given out. -/
structure Tpm where
  objects : Fin MAX_LOADED_OBJECTS → HashObject
  proofs : Proofs
  contexts : List HashObject
  issued : List Issued

/-- `FindEmptyObjectSlot()` without the clearing. -/
def findEmptyObjectSlot (t : Tpm) : Option (Fin MAX_LOADED_OBJECTS) :=
  (List.finRange MAX_LOADED_OBJECTS).find? fun i => !(t.objects i).attributes.occupied

/-- `ObjectAllocateSlot()`: the first empty slot, with its attributes cleared and marked as
occupied, for `fill` to go on with. -/
def objectAllocateSlot (t : Tpm) (fill : HashObject → HashObject) : TpmRc × Tpm :=
  match findEmptyObjectSlot t with
  | none => (TPM_RC_OBJECT_MEMORY, t)
  | some i =>
    let cleared : HashObject := { t.objects i with attributes := { occupied := true } }
    (TPM_RC_SUCCESS, { t with objects := Function.update t.objects i (fill cleared) })

/-- `ObjectCreateHashSequence()` after the allocation. -/
def hashSequence (hashAlg : UInt16) (o : HashObject) : HashObject where
  attributes := { o.attributes with temporary := true, hashSeq := true }
  hashState := Function.update o.hashState 0 (cryptHashStart hashAlg)

/-- `ObjectCreateHMACSequence()` after the allocation. -/
def hmacSequence (hashAlg : UInt16) (o : HashObject) : HashObject where
  attributes := { o.attributes with temporary := true, hmacSeq := true }
  hashState := Function.update o.hashState 0 (cryptHashStart hashAlg)

/-- `ObjectCreateEventSequence()` after the allocation. -/
def eventSequence (o : HashObject) : HashObject where
  attributes := { o.attributes with temporary := true, eventSeq := true }
  hashState := fun i =>
    if i < HASH_COUNT then cryptHashStart (cryptHashGetAlgByIndex i) else o.hashState i

/-- `TPM2_HashSequenceStart()` -/
def hashSequenceStart (t : Tpm) (hashAlg : UInt16) : TpmRc × Tpm :=
  if hashAlg = ALG_NULL then objectAllocateSlot t eventSequence
  else objectAllocateSlot t (hashSequence hashAlg)

/-- `ObjectCleanupEvict()`, at the end of every command. -/
def objectCleanupEvict (t : Tpm) : Tpm :=
  { t with objects := fun i =>
      let o := t.objects i
      if o.attributes.evict then { o with attributes := { o.attributes with occupied := false } }
      else o }

/-- What a ticket adds to the record. -/
def issue (t : Tpm) (validation : HashcheckTicket) (hashAlg : UInt16) (message : Bytes) :
    Tpm :=
  match t.proofs.hierarchyGetProof validation.hierarchy with
  | .ok proof =>
    if validation.digest ≠ [] then
      { t with issued := .hashcheck proof hashAlg message :: t.issued }
    else t
  | .error _ => t

/-- The commands, and what else happens to the slots and the proofs.  A slot is named by its
number; the environment gives the key of a MAC and an object that is not a sequence. -/
inductive Action
  | hashSequenceStart (hashAlg : UInt16)
  | macStart (hashAlg : UInt16)
  | sequenceUpdate (i : Fin MAX_LOADED_OBJECTS) (buffer : Bytes)
  | sequenceComplete (i : Fin MAX_LOADED_OBJECTS) (buffer : Bytes) (hierarchy : TpmHandle)
  | eventSequenceComplete (i : Fin MAX_LOADED_OBJECTS) (buffer : Bytes)
  | hash (data : Bytes) (hashAlg : UInt16) (hierarchy : TpmHandle)
  | contextSave (i : Fin MAX_LOADED_OBJECTS)
  | contextLoad (saved : HashObject)
  | flushContext (i : Fin MAX_LOADED_OBJECTS)
  /-- A command that loads an object that is not a sequence, persistent ones for the time of the
  command. -/
  | objectLoad (loaded : HashObject)
  /-- `ObjectStartup()` and `ObjectFlushHierarchy()` -/
  | objectFlush (which : Fin MAX_LOADED_OBJECTS → Bool)
  /-- A new proof: `TPM2_Clear()`, `TPM2_ChangeEPS()`, `TPM2_ChangePPS()`, a reset. -/
  | newProofs (proofs : Proofs)
  /-- A ticket of another kind, or the integrity value of a context. -/
  | otherMac (proof data : Bytes)

/-- What has to hold for an action.  A context that is loaded was saved: its integrity value
cannot be forged.  The strings of the other HMACs start differently: a ticket with its own tag,
a context with the eight bytes of the reset counter. -/
def Enabled (t : Tpm) : Action → Prop
  | .contextSave i => (t.objects i).attributes.occupied
  | .contextLoad saved => saved ∈ t.contexts
  | .objectLoad loaded => objectIsSequence loaded = false
  | .otherMac _ data => data.take 2 ≠ beBytes 2 TPM_ST_HASHCHECK
  | _ => True

/-- `TPM2_SequenceComplete()` on a slot, with its response. -/
def completeAt (c : Crypto) (macEnd : HashObject → Bytes) (t : Tpm)
    (i : Fin MAX_LOADED_OBJECTS) (buffer : Bytes) (hierarchy : TpmHandle) :
    Except TpmRc DigestOut × Tpm :=
  match sequenceComplete c t.proofs macEnd (t.objects i) buffer hierarchy with
  | .error result => (.error result, t)
  | .ok (out, o) =>
    let message := (o.hashState 0).data
    let issuing := issue t out.validation (o.hashState 0).hashAlg message
    (.ok out, { issuing with objects := Function.update t.objects i o })

/-- `TPM2_Hash()` with its response. -/
def hashAt (c : Crypto) (t : Tpm) (data : Bytes) (hashAlg : UInt16)
    (hierarchy : TpmHandle) : DigestOut × Tpm :=
  let out := tpm2Hash c t.proofs data hashAlg hierarchy
  (out, issue t out.validation hashAlg data)

/-- The actions.  A command on a slot that is not occupied has been refused. -/
def act (c : Crypto) (macEnd : HashObject → Bytes) (t : Tpm) : Action → Tpm
  | .hashSequenceStart hashAlg => (hashSequenceStart t hashAlg).2
  | .macStart hashAlg => (objectAllocateSlot t (hmacSequence hashAlg)).2
  | .sequenceUpdate i buffer =>
    if (t.objects i).attributes.occupied then
      match sequenceUpdate (t.objects i) buffer with
      | .error _ => t
      | .ok o => { t with objects := Function.update t.objects i o }
    else t
  | .sequenceComplete i buffer hierarchy =>
    if (t.objects i).attributes.occupied then (completeAt c macEnd t i buffer hierarchy).2 else t
  | .eventSequenceComplete i _ =>
    if (t.objects i).attributes.occupied ∧ (t.objects i).attributes.eventSeq then
      let o := t.objects i
      { t with objects := Function.update t.objects i
                { o with attributes := { o.attributes with evict := true } } }
    else t
  | .hash data hashAlg hierarchy => (hashAt c t data hashAlg hierarchy).2
  | .contextSave i => { t with contexts := t.objects i :: t.contexts }
  | .contextLoad saved => (objectAllocateSlot t fun _ => saved).2
  | .flushContext i =>
    { t with objects := Function.update t.objects i { t.objects i with attributes := {} } }
  | .objectLoad loaded => (objectAllocateSlot t fun _ => loaded).2
  | .objectFlush which =>
    { t with objects := fun i =>
        let o := t.objects i
        if which i then { o with attributes := { o.attributes with occupied := false } } else o }
  | .newProofs proofs => { t with proofs }
  | .otherMac proof data => { t with issued := .other proof data :: t.issued }

/-- The machine: it starts with empty slots, and every command ends with the cleanup. -/
def sequenceSystem (c : Crypto) (macEnd : HashObject → Bytes) : System Tpm Action where
  init t := (∀ i, (t.objects i).attributes.occupied = false) ∧ t.contexts = [] ∧ t.issued = []
  enabled := Enabled
  step t a := objectCleanupEvict (act c macEnd t a)

end RfTpm.Sequence
