import RfTpm.Crypt.Commit

/-!
# A commit value is used once

The invariant (`Valid`) is about the set bits of `gr.commitArray`: each of them stands for a commit
among the last 128 that is not used yet.  From it `CryptGenerateR()` finds the count of that commit
and no other (`countOf_eq`).

The saved copy of `gr` has to meet the same invariant, and there it may fail.  A use after
`TPM2_Shutdown(TPM_SU_STATE)` clears a bit in RAM that is still set in the image, and after a power
loss both a resume and a restart bring it back.  In runs in which commits and uses are not given
while a resume is possible, every secret is used at most once.
-/

namespace RfTpm.Commit

open Fallible Runs Orderly
open Pcr (Effect Env Resumable)

/-! ## The arithmetic of counts -/

lemma commitIndex_val (c : UInt16) : (commitIndex c).val = c.toNat % 128 := by
  show (c &&& COMMIT_INDEX_MASK).toNat = _
  rw [UInt16.toNat_and]
  exact Nat.and_two_pow_sub_one_eq_mod c.toNat 7

lemma div_eq_of_and_not_mask {a b : UInt16}
    (h : a &&& ~~~COMMIT_INDEX_MASK = b &&& ~~~COMMIT_INDEX_MASK) :
    a.toNat / 128 = b.toNat / 128 := by
  have hhigh (c : UInt16) : (c &&& ~~~COMMIT_INDEX_MASK).toNat = 2 ^ 7 * (c.toNat / 2 ^ 7) := by
    rw [UInt16.toNat_and]
    exact Bytes.and_high_bits c.toNat_lt (Nat.le_add_right 7 9)
  have hsame := congrArg UInt16.toNat h
  rw [hhigh, hhigh] at hsame
  exact Nat.eq_of_mul_eq_mul_left (Nat.two_pow_pos 7) hsame

lemma toNat_and_high (n : UInt64) :
    (n &&& 0xffffffffffff0000).toNat = 2 ^ 16 * (n.toNat / 2 ^ 16) := by
  rw [UInt64.toNat_and]
  exact Bytes.and_high_bits n.toNat_lt (Nat.le_add_right 16 48)

lemma toNat_high_or (n : UInt64) (c : UInt16) :
    ((n &&& 0xffffffffffff0000) ||| c.toUInt64).toNat = n.toNat / 2 ^ 16 * 2 ^ 16 + c.toNat := by
  rw [UInt64.toNat_or, toNat_and_high, UInt16.toNat_toUInt64,
    ← Nat.two_pow_add_eq_or_of_lt c.toNat_lt, Nat.mul_comm]

lemma index_le_iff (a b : UInt16) :
    a &&& COMMIT_INDEX_MASK ≥ b &&& COMMIT_INDEX_MASK ↔ b.toNat % 128 ≤ a.toNat % 128 := by
  rw [ge_iff_le, UInt16.le_iff_toNat_le]
  show (commitIndex b).val ≤ (commitIndex a).val ↔ _
  rw [commitIndex_val, commitIndex_val]

variable {gr : CommitData} {c : UInt16} {m : UInt64} {s s' : Tpm}

/-- The count that is rebuilt is the one among the last 128 that has the index of `c`, and its low
bits are `c`. -/
lemma countOf_eq (h : countOf gr c = some m) {n : ℕ} (hlt : n < gr.commitCounter.toNat)
    (hle : gr.commitCounter.toNat ≤ n + 128) (hindex : n % 128 = c.toNat % 128) :
    m.toNat = n ∧ n % 2 ^ 16 = c.toNat := by
  unfold countOf at h
  split at h
  · cases h
  dsimp only at h
  have hcounter := gr.commitCounter.toNat_lt
  -- `cur` is the counter, moved to the block of 128 in which the commit was made
  obtain ⟨cur, hcur, hblock⟩ : ∃ cur : UInt64,
      (if c &&& COMMIT_INDEX_MASK ≥ gr.commitCounter.toUInt16 &&& COMMIT_INDEX_MASK then
        gr.commitCounter - (COMMIT_INDEX_MASK + 1).toUInt64 else gr.commitCounter) = cur ∧
      cur.toNat / 128 = n / 128 := by
    refine ⟨_, rfl, ?_⟩
    split
    case isTrue hge =>
      rw [index_le_iff, UInt64.toNat_toUInt16] at hge
      have hsub : (COMMIT_INDEX_MASK + 1).toUInt64 ≤ gr.commitCounter := by
        rw [UInt64.le_iff_toNat_le]
        show 128 ≤ _
        omega
      rw [UInt64.toNat_sub_of_le _ _ hsub]
      show (gr.commitCounter.toNat - 128) / 128 = _
      omega
    case isFalse hnot =>
      rw [index_le_iff, UInt64.toNat_toUInt16] at hnot
      omega
  rw [hcur] at h
  split at h
  · cases h
  case isFalse hhigh =>
    have hdiv := div_eq_of_and_not_mask (not_not.mp hhigh)
    rw [UInt64.toNat_toUInt16] at hdiv
    rw [← Option.some.inj h, toNat_high_or]
    omega

/-! ## The invariant -/

/-- The count of a nonce is not used. -/
def Unused (log : Log) (nonce : Bytes) (n : ℕ) : Prop :=
  ∀ u ∈ log.uses, u.nonce = nonce → u.count.toNat ≠ n

/-- The commit data fits the log: a set bit is that of a commit among the last 128 that is not used
yet, and what was used was committed before. -/
structure Valid (gr : CommitData) (log : Log) : Prop where
  pending : ∀ i, gr.commitArray i = true → ∃ n : ℕ, n < gr.commitCounter.toNat ∧
    gr.commitCounter.toNat ≤ n + 128 ∧ n % 128 = i.val ∧
    (gr.commitNonce, UInt64.ofNat n) ∈ log.commits ∧ Unused log gr.commitNonce n
  used : ∀ u ∈ log.uses, u.nonce = gr.commitNonce → u.count.toNat < gr.commitCounter.toNat
  drawn : gr.commitNonce ∈ log.nonces

/-- No count is used twice, and the uses are those of drawn nonces. -/
structure Logged (log : Log) : Prop where
  once : log.uses.Pairwise fun u v => ¬(u.nonce = v.nonce ∧ u.count = v.count)
  drawn : ∀ u ∈ log.uses, u.nonce ∈ log.nonces

/-- In RAM and, where a resume is possible, in NV. -/
def invariants : Invariants CommitData CommitData Log where
  Logged := Logged
  Live d := Valid d.ram d.log
  Saved nv log := Valid nv log
  Waits _ := True

lemma Valid.pending_of_countOf {log : Log} (h : Valid gr log) (hm : countOf gr c = some m) :
    m.toUInt16 = c ∧ m.toNat < gr.commitCounter.toNat ∧ gr.commitCounter.toNat ≤ m.toNat + 128 ∧
      (gr.commitNonce, m) ∈ log.commits ∧ Unused log gr.commitNonce m.toNat := by
  have hbit : gr.commitArray (commitIndex c) = true := by
    by_contra hnot
    unfold countOf at hm
    rw [if_pos (by simpa using hnot)] at hm
    cases hm
  obtain ⟨n, hlt, hle, hindex, hcommit, hunused⟩ := h.pending _ hbit
  rw [commitIndex_val] at hindex
  obtain ⟨rfl, hlow⟩ := countOf_eq hm hlt hle hindex
  rw [UInt64.ofNat_toNat] at hcommit
  refine ⟨?_, hlt, hle, hcommit, hunused⟩
  apply UInt16.toNat_inj.mp
  rw [UInt64.toNat_toUInt16]
  exact hlow

/-! ## Commits and uses keep it -/

section

variable {gr : CommitData} {log : Log}

lemma Valid.commit (h : Valid gr log) (hwrap : gr.commitCounter.toNat + 1 < 2 ^ 64) :
    Valid gr.commit { log with commits := (gr.commitNonce, gr.commitCounter) :: log.commits } := by
  have hnext : gr.commit.commitCounter.toNat = gr.commitCounter.toNat + 1 := by
    show (gr.commitCounter + 1).toNat = _
    rw [UInt64.toNat_add]
    exact Nat.mod_eq_of_lt hwrap
  refine ⟨fun i hi => ?_, fun u hu hnonce => ?_, h.drawn⟩
  · rw [hnext]
    by_cases hindex : i = commitIndex gr.commitCounter.toUInt16
    · -- the bit of the commit
      refine ⟨gr.commitCounter.toNat, by omega, by omega, ?_, ?_, fun u hu hnonce => ?_⟩
      · rw [hindex, commitIndex_val, UInt64.toNat_toUInt16]
        omega
      · rw [UInt64.ofNat_toNat]
        exact List.mem_cons_self
      · exact Nat.ne_of_lt (h.used u hu hnonce)
    · -- a bit that was set before; its commit is not 128 counts back
      have hbit : gr.commitArray i = true := by
        have : Function.update gr.commitArray (commitIndex gr.commitCounter.toUInt16) true i =
          true := hi
        rwa [Function.update_of_ne hindex] at this
      obtain ⟨n, hlt, hle, hn, hcommit, hunused⟩ := h.pending i hbit
      have hne : n % 128 ≠ gr.commitCounter.toNat % 128 := fun heq => hindex (Fin.ext (by
        rw [commitIndex_val, UInt64.toNat_toUInt16]
        omega))
      exact ⟨n, by omega, by omega, hn, List.mem_cons_of_mem _ hcommit, hunused⟩
  · rw [hnext]
    exact Nat.lt_succ_of_lt (h.used u hu hnonce)

lemma Logged.commit (h : Logged log) (entry : Bytes × UInt64) :
    Logged { log with commits := entry :: log.commits } := ⟨h.once, h.drawn⟩

lemma Valid.endCommit (h : Valid gr log) {c : UInt16} {m : UInt64} (hm : countOf gr c = some m)
    (name : Bytes) :
    Valid (gr.endCommit c) { log with uses := ⟨gr.commitNonce, m, name⟩ :: log.uses } := by
  obtain ⟨hlow, hlt, -, -, -⟩ := h.pending_of_countOf hm
  refine ⟨fun i hi => ?_, fun u hu hnonce => ?_, h.drawn⟩
  · have hset : Function.update gr.commitArray (commitIndex c) false i = true := hi
    have hindex : i ≠ commitIndex c := by
      rintro rfl
      exact nomatch (Function.update_self ..).symm.trans hset
    rw [Function.update_of_ne hindex] at hset
    obtain ⟨n, hn, hle, hni, hcommit, hunused⟩ := h.pending i hset
    refine ⟨n, hn, hle, hni, hcommit, fun u hu hnonce => ?_⟩
    obtain rfl | hu := List.mem_cons.mp hu
    · intro heq
      have hmn : m.toNat = n := heq
      refine hindex (Fin.ext ?_)
      rw [commitIndex_val, ← hlow, UInt64.toNat_toUInt16, ← hni, ← hmn]
      omega
    · exact hunused u hu hnonce
  · obtain rfl | hu := List.mem_cons.mp hu
    · exact hlt
    · exact h.used u hu hnonce

lemma Logged.use (h : Logged log) (hvalid : Valid gr log) {c : UInt16} {m : UInt64}
    (hm : countOf gr c = some m) (name : Bytes) :
    Logged { log with uses := ⟨gr.commitNonce, m, name⟩ :: log.uses } := by
  obtain ⟨-, -, -, -, hunused⟩ := hvalid.pending_of_countOf hm
  refine ⟨List.pairwise_cons.mpr ⟨?_, h.once⟩, ?_⟩
  · rintro u hu ⟨hnonce, hcount⟩
    exact hunused u hu hnonce.symm (congrArg UInt64.toNat hcount.symm)
  · intro u hu
    obtain rfl | hu := List.mem_cons.mp hu
    · exact hvalid.drawn
    · exact h.drawn u hu

end

/-! ## What a command does -/

/-- The TPM after `CryptCommit()`. -/
def committed (s : Tpm) : Tpm := (cryptCommit s).2

/-- The TPM after a use of the commit `c`. -/
def used (c : UInt16) (name : Bytes) (s : Tpm) : Tpm := (cryptEndCommit c name s).2

/-- How many commits a command makes at most. -/
def Command.turns : Command → ℕ
  | commit .. => 1
  | ecEphemeral _ turns => turns
  | _ => 0

/-- A command makes commits, uses one, or leaves the commit data alone. -/
inductive Does (turns : ℕ) (s : Tpm) : Tpm → Prop
  | commits (k : ℕ) (hk : k ≤ turns) : Does turns s (committed^[k] s)
  | uses (c : UInt16) (name : Bytes) (m : UInt64) (hm : countOf s.ram c = some m) :
      Does turns s (used c name s)
  | other (effect : Effect) : Does turns s (s.apply effect)

namespace Does

variable {turns : ℕ} {s : Tpm}

lemma refl (turns : ℕ) (s : Tpm) : Does turns s s := .commits 0 (Nat.zero_le _)

lemma andPure {x : CommitM α} (h : Does turns s (x s).2) :
    Does turns s ((x >>= fun _ => pure ()) s).2 := by
  rw [snd_bind_pure]
  exact h

lemma stopIf {c : Prop} [Decidable c] {e : TpmRc} {f : Unit → CommitM α}
    (h : Does turns s (f () s).2) : Does turns s ((Fallible.stopIf c e >>= f) s).2 := by
  by_cases hc : c
  · rw [stopIf_bind_of hc]
    exact refl _ _
  · rw [stopIf_bind_of_not hc]
    exact h

variable {f : β → CommitM α}

lemma ofExcept {x : Except TpmRc β} (h : ∀ b, x = .ok b → Does turns s (f b s).2) :
    Does turns s ((Fallible.ofExcept x >>= f) s).2 :=
  bind_of_reads (refl _ _) rfl fun b hb => h b (ofExcept_ok hb).1

lemma ofOption {x : Option β} {e : TpmRc} (h : ∀ b, x = some b → Does turns s (f b s).2) :
    Does turns s ((Commit.ofOption x e >>= f) s).2 := by
  refine ofExcept fun b hb => h b ?_
  cases x with
  | none => cases hb
  | some b' => rw [Except.ok.inj hb]

end Does

section

variable (E : Crypto) (s : Tpm)

lemma countOf_of_generateR {E : Crypto} {gr : CommitData} {c curveID : UInt16}
    {name r : Bytes} (h : cryptGenerateR E gr (some c) curveID name = some r) :
    ∃ m, countOf gr c = some m ∧ E.deriveR gr.commitNonce name m curveID = some r :=
  Option.bind_eq_some_iff.mp h

lemma commitP2_reads (key : Key) (p s2 y2 : Bytes) : (commitP2 E key p s2 y2 s).2 = s := by
  have hkeeps : Keeps Eq (commitP2 E key p s2 y2) :=
    keeps_ite (keeps_pure _) <|
      keeps_bind (keeps_stopIf _ _) fun _ => keeps_bind (keeps_ofExcept _) fun _ =>
        keeps_bind (keeps_stopIf _ _) fun _ => keeps_bind (keeps_stopIf _ _) fun _ => keeps_pure _
  exact (hkeeps s).symm

lemma does_commit (key : Key) (p1 : Option (Bytes × Bytes)) (s2 y2 : Bytes) :
    Does 1 s (tpm2Commit E key p1 s2 y2 s).2 := by
  unfold tpm2Commit
  refine .stopIf (.stopIf (.stopIf (.ofOption fun p _ => ?_)))
  rw [gets_bind]
  refine .ofOption fun r _ => bind_of_reads (.refl _ _) (commitP2_reads E s key p s2 y2)
    fun p2 _ => .stopIf (.ofExcept fun points _ => ?_)
  exact .commits 1 le_rfl

lemma ecEphemeralLoop_commits (curveID : UInt16) (turns : ℕ) (counter : UInt16) :
    ∃ k ≤ turns, (ecEphemeralLoop E curveID turns counter s).2 = committed^[k] s := by
  induction turns generalizing s counter with
  | zero => exact ⟨0, le_rfl, rfl⟩
  | succ turns ih =>
    refine bind_of_reads (R := fun s t => ∃ k ≤ turns + 1, t = committed^[k] s)
      ⟨0, Nat.zero_le _, rfl⟩ rfl fun gr _ => ?_
    refine bind_of_reads (R := fun s t => ∃ k ≤ turns + 1, t = committed^[k] s)
      ⟨0, Nat.zero_le _, rfl⟩ rfl fun r _ => ?_
    cases E.pointMultiply curveID r with
    | ok point => exact ⟨1, by omega, rfl⟩
    | error rc =>
      by_cases hrc : rc = TPM_RC_NO_RESULT
      · obtain ⟨k, hk, hloop⟩ := ih (committed s) s.ram.commitCounter.toUInt16
        refine ⟨k + 1, by omega, ?_⟩
        rw [Function.iterate_succ_apply, ← hloop]
        dsimp only
        rw [if_pos hrc]
        rfl
      · refine ⟨0, Nat.zero_le _, ?_⟩
        dsimp only
        rw [if_neg hrc]
        rfl

lemma does_ecEphemeral (curveID : UInt16) (turns : ℕ) :
    Does turns s (tpm2EcEphemeral E curveID turns s).2 := by
  obtain ⟨k, hk, h⟩ := ecEphemeralLoop_commits E s curveID turns 0
  unfold tpm2EcEphemeral
  rw [h]
  exact .commits k hk

lemma does_sign (key : Key) (count : UInt16) (digest rand : Bytes) (turns : ℕ) :
    Does turns s (tpmEccSignEcdaa E key count digest rand s).2 := by
  unfold tpmEccSignEcdaa
  rw [gets_bind]
  refine .ofOption fun r hr => .ofExcept fun signature _ => ?_
  obtain ⟨m, hm, -⟩ := countOf_of_generateR hr
  exact .uses count key.name m hm

lemma does_zGen2Phase (keyA : Key) (i : ZGenIn) (turns : ℕ) :
    Does turns s (tpm2ZGen2Phase E keyA i s).2 := by
  unfold tpm2ZGen2Phase
  refine .stopIf (.stopIf (.stopIf (.ofOption fun scheme _ => .stopIf (.stopIf ?_))))
  rw [gets_bind]
  refine .ofOption fun r hr => bind_of_reads (.refl _ _) rfl fun z _ => ?_
  obtain ⟨m, hm, -⟩ := countOf_of_generateR hr
  exact .uses i.counter [] m hm

end

lemma does_action (E : Crypto) (c : Command) (s : Tpm) : Does c.turns s (c.action E s).2 := by
  cases c with
  | commit key p1 s2 y2 => exact (does_commit E s key p1 s2 y2).andPure
  | ecEphemeral curveID turns => exact (does_ecEphemeral E s curveID turns).andPure
  | sign key count digest rand => exact (does_sign E s key count digest rand 0).andPure
  | zGen2Phase keyA i => exact (does_zGen2Phase E s keyA i 0).andPure
  | other effect result => exact .other effect

/-! ## The invariant over runs -/

lemma acts_setRam (s : Tpm) (gr : CommitData) (log : Log) :
    Acts s { s with ram := gr, log := log } :=
  ⟨rfl, rfl, rfl, rfl, id, fun h => ⟨h, rfl⟩⟩

lemma acts_committed (s : Tpm) : Acts s (committed s) := acts_setRam s _ _

lemma acts_of_does {turns : ℕ} (h : Does turns s s') : Acts s s' := by
  cases h with
  | commits k hk =>
    clear hk
    induction k generalizing s with
    | zero => exact refl s
    | succ k ih => exact IsTrans.trans _ _ _ (acts_committed s) (ih (s := committed s))
  | uses c name m hm => exact acts_setRam s _ _
  | other effect => exact acts_apply effect s

lemma valid_committed (k : ℕ) (hwrap : s.ram.commitCounter.toNat + k < 2 ^ 64)
    (hlog : Logged s.log) (h : Valid s.ram s.log) :
    Logged (committed^[k] s).log ∧ Valid (committed^[k] s).ram (committed^[k] s).log := by
  induction k generalizing s with
  | zero => exact ⟨hlog, h⟩
  | succ k ih =>
    refine ih (s := committed s) ?_ (hlog.commit _) (h.commit (by omega))
    show (s.ram.commitCounter + 1).toNat + k < 2 ^ 64
    rw [UInt64.toNat_add, Nat.mod_eq_of_lt (by show _ + 1 < _; omega)]
    show s.ram.commitCounter.toNat + 1 + k < 2 ^ 64
    omega

lemma used_log (hm : countOf s.ram c = some m) (name : Bytes) :
    (used c name s).log =
      { s.log with uses := ⟨s.ram.commitNonce, m, name⟩ :: s.log.uses } := by
  show { s.log with uses := (useOf s.ram c name).toList ++ s.log.uses } = _
  rw [useOf, hm]
  rfl

lemma valid_of_does {turns : ℕ} (h : Does turns s s')
    (hwrap : s.ram.commitCounter.toNat + turns < 2 ^ 64) (hlog : Logged s.log)
    (hvalid : Valid s.ram s.log) : Logged s'.log ∧ Valid s'.ram s'.log := by
  cases h with
  | commits k hk => exact valid_committed k (by omega) hlog hvalid
  | uses c name m hm =>
    rw [used_log hm]
    exact ⟨hlog.use hvalid hm name, hvalid.endCommit hm name⟩
  | other effect => exact ⟨hlog, hvalid⟩

/-- A commit or a use is given while no resume is possible, and the counter does not wrap. -/
def Allowed (orderlyState : UInt16) (gr : CommitData) : Command → Prop
  | .other _ _ => True
  | c => ¬Resumable orderlyState ∧ gr.commitCounter.toNat + c.turns < 2 ^ 64

instance (orderlyState : UInt16) (gr : CommitData) (c : Command) :
    Decidable (Allowed orderlyState gr c) :=
  match c with
  | .other _ _ => .isTrue trivial
  | .commit .. | .ecEphemeral .. | .sign .. | .zGen2Phase .. =>
    inferInstanceAs (Decidable (_ ∧ _))

lemma Allowed.cases {orderlyState : UInt16} {c : Command} (h : Allowed orderlyState gr c) :
    (∃ effect result, c = .other effect result) ∨
      (¬Resumable orderlyState ∧ gr.commitCounter.toNat + c.turns < 2 ^ 64) := by
  cases c with
  | other effect result => exact .inl ⟨effect, result, rfl⟩
  | commit key p1 s2 y2 => exact .inr h
  | ecEphemeral curveID turns => exact .inr h
  | sign key count digest rand => exact .inr h
  | zGen2Phase keyA i => exact .inr h

lemma valid_cryptStartup {type : StartupType} {nonce : Bytes}
    {d : Cell CommitData CommitData Log} (hfresh : nonce ∉ d.log.nonces) (hlog : Logged d.log)
    (hsaved : type ≠ .reset → Valid d.nv d.log) :
    Logged ((part E).restart type nonce d).log ∧
      Valid ((part E).restart type nonce d).ram ((part E).restart type nonce d).log := by
  have hreset : Logged { d.log with nonces := nonce :: d.log.nonces } ∧
      Valid ⟨0, nonce, fun _ => false⟩ { d.log with nonces := nonce :: d.log.nonces } := by
    refine ⟨⟨hlog.once, fun u hu => List.mem_cons_of_mem _ (hlog.drawn u hu)⟩,
      fun i hi => Bool.noConfusion hi, fun u hu hnonce => ?_, List.mem_cons_self⟩
    exact absurd (hlog.drawn u hu) (hnonce ▸ hfresh)
  cases type with
  | reset => exact hreset
  | restart => exact ⟨hlog, hsaved (by decide)⟩
  | resume => exact ⟨hlog, hsaved (by decide)⟩

lemma Valid.draw {log : Log} (h : Valid gr log) (nonces : List Bytes) :
    Valid gr { log with nonces := nonces ++ log.nonces } :=
  ⟨h.pending, h.used, List.mem_append_right _ h.drawn⟩

lemma upholds (E : Crypto) :
    (part E).Upholds invariants (fun log nonce => nonce ∉ log.nonces) (fun _ => Allowed)
      (fun _ _ _ => True) where
  load_live _ _ _ := trivial
  load_waits _ _ _ := trivial
  lose _ _ h := ⟨h, fun _ => trivial⟩
  lose_saved _ _ h := h
  readBack _ _ _ := trivial
  save _ h := ⟨h, h⟩
  acts c s := acts_of_does (does_action E c s)
  action_live _ c s hallowed hlog hlive := by
    obtain ⟨effect, result, rfl⟩ | ⟨-, hwrap⟩ := hallowed.cases
    · exact ⟨hlog, fun _ => hlive⟩
    · obtain ⟨hlog', hlive'⟩ := valid_of_does (does_action E c s) hwrap hlog hlive
      exact ⟨hlog', fun _ => hlive'⟩
  action_saved _ c s hallowed _ hresume hsaved := by
    obtain ⟨effect, result, rfl⟩ | ⟨hnot, -⟩ := hallowed.cases
    · exact .inl ⟨hsaved, hsaved⟩
    · exact absurd hresume hnot
  start _ _ _ hfresh hlog _ hsaved := valid_cryptStartup hfresh hlog hsaved
  start_saved _ type nonce d _ := by
    refine .inr fun nv hsaved => ?_
    cases type with
    | reset => exact Valid.draw hsaved [nonce]
    | restart => exact hsaved
    | resume => exact hsaved

/-! ## Used once -/

/-- No two uses are of the same secret, and `CryptGenerateR()` finds a secret for a counter only as
that of a commit that returned the counter and is not used. -/
structure UsedOnce (E : Crypto) (s : Tpm) : Prop where
  uses : s.log.uses.Nodup
  generateR : s.inFailureMode = false → s.power.initialized = true →
    ∀ c curveID name r, cryptGenerateR E s.ram (some c) curveID name = some r →
      ∃ n, n.toUInt16 = c ∧ (s.ram.commitNonce, n) ∈ s.log.commits ∧
        (∀ u ∈ s.log.uses, ¬(u.nonce = s.ram.commitNonce ∧ u.count = n)) ∧
        E.deriveR s.ram.commitNonce name n curveID = some r

/-- The condition on runs: commits and uses are given while no resume is possible. -/
def Timely : Tpm → Event CommitData Command Bytes → Prop :=
  Part.Condition (fun _ => Allowed) fun _ _ _ => True

lemma usedOnce_of_inv {E : Crypto} (h : Inv invariants s) : UsedOnce E s := by
  refine ⟨h.logged.once.imp ?_, ?_⟩
  · rintro u v hne rfl
    exact hne ⟨rfl, rfl⟩
  intro hworking hstarted c curveID name r hr
  obtain ⟨m, hm, hderive⟩ := countOf_of_generateR hr
  have hvalid : Valid s.ram s.log := (h.settled hworking).live hstarted
  obtain ⟨hlow, -, -, hcommit, hunused⟩ := hvalid.pending_of_countOf hm
  refine ⟨m, hlow, hcommit, ?_, hderive⟩
  rintro u hu ⟨hnonce, hcount⟩
  exact hunused u hu hnonce (congrArg UInt64.toNat hcount)

/-- **A commit value is used once**, in runs in which commits and uses are given while no resume is
possible. -/
theorem commit_used_once (E : Crypto) (s : Tpm) (h : ((system E).restrict Timely).Reach s) :
    UsedOnce E s := by
  refine usedOnce_of_inv ((upholds E).inv_reach ?_ (fun _ _ _ => trivial) h)
  exact ⟨List.Pairwise.nil, fun u hu => absurd hu List.not_mem_nil⟩

/-! ## A run in which it is used twice -/

/-- Computations that always succeed. -/
def plainCrypto : Crypto where
  deriveR _ _ _ _ := some [1]
  curvePrime _ := some [7]
  hashBlock _ _ := [1]
  divideB _ _ := some [1]
  isPointOnCurve _ _ := true
  commitCompute _ _ _ _ _ := .ok []
  pointMultiply _ _ := .ok []
  signLoop _ _ _ _ := .ok []
  keyExchange _ _ _ _ _ _ := .ok []

/-- A key with an anonymous scheme. -/
def daaKey : Key := ⟨true, false, false, false, true, some 0x1A, 3, 0x0B, [0xAB], [5]⟩

/-- What is in RAM after a power loss. -/
def blankData : CommitData := ⟨0, [], fun _ => false⟩

/-- The TPM after its first power-on. -/
def firstPowerOn : Tpm := (part plainCrypto).powerOn blankData true 0 ⟨TPM_SU_CLEAR, blankData⟩
  ⟨[], [], []⟩

/-- The first startup and a commit. -/
def commitRun : List (Event CommitData Command Bytes) :=
  [.startup Pcr.quietEnv ⟨0, true⟩ .clear [1], .command Pcr.quietEnv (.commit daaKey none [] [])]

/-- The commit is used, and then the state is saved and resumed. -/
def earlyUse : List (Event CommitData Command Bytes) :=
  [.command Pcr.quietEnv (.sign daaKey 0 [1] []), .shutdown Pcr.quietEnv false .state,
    .powerLoss blankData true, .startup Pcr.quietEnv ⟨0, true⟩ .state [2]]

/-- The state is saved, and the commit is used before the power is lost. -/
def lateUse : List (Event CommitData Command Bytes) :=
  [.shutdown Pcr.quietEnv false .state, .command Pcr.quietEnv (.sign daaKey 0 [1] []),
    .powerLoss blankData true, .startup Pcr.quietEnv ⟨0, true⟩ .state [2]]

/-- The commit is used with another digest. -/
def secondUse : List (Event CommitData Command Bytes) :=
  [.command Pcr.quietEnv (.sign daaKey 0 [2] [])]

instance (s : Tpm) (e : Event CommitData Command Bytes) :
    Decidable ((system plainCrypto).enabled s e) :=
  Part.decidableEnabled _ _ _ _ s e

instance (s : Tpm) (e : Event CommitData Command Bytes) :
    Decidable (((system plainCrypto).restrict Timely).enabled s e) :=
  have : Decidable (Timely s e) :=
    inferInstanceAs (Decidable (Part.Condition (fun _ => Allowed) (fun _ _ _ => True) s e))
  inferInstanceAs (Decidable (_ ∧ _))

lemma init_firstPowerOn : (system plainCrypto).init firstPowerOn :=
  ⟨blankData, true, 0, blankData, trivial, rfl⟩

theorem commit_used_once_early :
    UsedOnce plainCrypto ((commitRun ++ earlyUse).foldl (system plainCrypto).step firstPowerOn) :=
  commit_used_once plainCrypto _ <|
    System.Reach.path (S := (system plainCrypto).restrict Timely) (.start init_firstPowerOn) _
      (by decide +kernel)

/-- **The same secret twice.**  The commit that was used after `TPM2_Shutdown(TPM_SU_STATE)` is
pending again after the resume, with the same nonce and the same count. -/
theorem commit_used_twice :
    ∃ s, (system plainCrypto).Reach s ∧
      s.log.uses = [⟨[1], 0, [0xAB]⟩, ⟨[1], 0, [0xAB]⟩] ∧ ¬UsedOnce plainCrypto s := by
  have huses : ((commitRun ++ lateUse ++ secondUse).foldl (system plainCrypto).step
      firstPowerOn).log.uses = [⟨[1], 0, [0xAB]⟩, ⟨[1], 0, [0xAB]⟩] := by decide +kernel
  have hpath : (system plainCrypto).Path firstPowerOn (commitRun ++ lateUse ++ secondUse) := by
    decide +kernel
  refine ⟨_, .path (.start init_firstPowerOn) _ hpath, huses, fun h => ?_⟩
  have hnodup := h.uses
  rw [huses] at hnodup
  exact absurd hnodup (by decide)

end RfTpm.Commit
