import RfTpm.Lib.Chain
import RfTpm.Crypt.Sym

/-!
# The modes as chains of blocks

A mode is a step on the IV and a block of data (`ctrStep` and so on).  The loops over the bytes of a
block do one step, from the place `dIn` to the place `dOut` (`Does`); for that the two are the same
or apart.  The loop over the blocks then does the chain of steps (`forBlocks_does`).
-/

namespace RfTpm.Sym

open Bytes Mem Chain List
open Cbc (mix)

/-! ## Bytes -/

section Bytes

lemma mix_concat {a b : Bytes} (h : a.length = b.length) (x y : UInt8) :
    mix (a ++ [x]) (b ++ [y]) = mix a b ++ [x ^^^ y] :=
  Cbc.mix_append h

lemma length_mix_read (m m' : Mem) (p p' k : ℕ) :
    (mix (read m p k) (read m' p' k)).length = k := by
  rw [Cbc.length_mix (by simp), length_read]

lemma write_mix_succ (m a b : Mem) (p q r k : ℕ) :
    write m p (mix (read a q (k + 1)) (read b r (k + 1))) =
      Function.update (write m p (mix (read a q k) (read b r k))) (p + k)
        (a (q + k) ^^^ b (r + k)) := by
  rw [read_succ, read_succ, mix_concat (by simp), write_concat, length_mix_read]

lemma write_read_succ (m a : Mem) (p q k : ℕ) :
    write m p (read a q (k + 1)) =
      Function.update (write m p (read a q k)) (p + k) (a (q + k)) := by
  rw [read_succ, write_concat, length_read]

variable {s : Regs}

variable {k : ℕ}

lemma iterate_eq {f : Regs → Regs} {g : ℕ → Regs} (hzero : s = g 0)
    (hsucc : ∀ j < k, f (g j) = g (j + 1)) : f^[k] s = g k := by
  induction k with
  | zero => exact hzero
  | succ k ih =>
    rw [Function.iterate_succ_apply', ih fun j hj => hsucc j (Nat.lt_succ_of_lt hj)]
    exact hsucc k (Nat.lt_succ_self k)

lemma xorTmp_iterate (h : SameOrApart s.dIn s.dOut k) :
    xorTmp^[k] s = { s with
      mem := write s.mem s.dOut (mix (read s.mem s.dIn k) (read s.tmp s.pT k))
      dIn := s.dIn + k, dOut := s.dOut + k, pT := s.pT + k } := by
  apply iterate_eq
  · simp [mix]
  intro j hj
  unfold xorTmp
  dsimp only
  rw [h.write_next hj (length_mix_read ..).le, write_mix_succ]
  rfl

lemma xorIv_iterate (h : SameOrApart s.dIn s.dOut k) :
    xorIv^[k] s = { s with
      mem := write s.mem s.dOut (mix (read s.iv s.pIv k) (read s.mem s.dIn k))
      dIn := s.dIn + k, dOut := s.dOut + k, pIv := s.pIv + k } := by
  apply iterate_eq
  · simp [mix]
  intro j hj
  unfold xorIv
  dsimp only
  rw [h.write_next hj (length_mix_read ..).le, write_mix_succ]
  rfl

lemma xorIntoIv_iterate (k : ℕ) :
    xorIntoIv^[k] s = { s with
      iv := write s.iv s.pIv (mix (read s.iv s.pIv k) (read s.mem s.dIn k))
      dIn := s.dIn + k, pIv := s.pIv + k } := by
  apply iterate_eq
  · simp [mix]
  intro j _
  unfold xorIntoIv
  dsimp only
  rw [write_of_ge (by rw [length_mix_read]), write_mix_succ]
  rfl

lemma copyIv_iterate (k : ℕ) :
    copyIv^[k] s = { s with
      mem := write s.mem s.dOut (read s.iv s.pIv k)
      dOut := s.dOut + k, pIv := s.pIv + k } := by
  apply iterate_eq
  · simp
  intro j _
  unfold copyIv
  dsimp only
  rw [write_read_succ]
  rfl

lemma xorThroughIv_iterate (h : SameOrApart s.dIn s.dOut k) :
    xorThroughIv^[k] s = { s with
      iv := write s.iv s.pIv (mix (read s.iv s.pIv k) (read s.mem s.dIn k))
      mem := write s.mem s.dOut (mix (read s.iv s.pIv k) (read s.mem s.dIn k))
      dIn := s.dIn + k, dOut := s.dOut + k, pIv := s.pIv + k } := by
  apply iterate_eq
  · simp [mix]
  intro j hj
  unfold xorThroughIv
  dsimp only
  rw [h.write_next hj (length_mix_read ..).le,
    write_of_ge (by rw [length_mix_read]), write_mix_succ, write_mix_succ]
  rfl

lemma copyToTmp_iterate (k : ℕ) :
    copyToTmp^[k] s = { s with
      tmp := write s.tmp s.pT (read s.mem s.dIn k)
      dIn := s.dIn + k, pT := s.pT + k } := by
  apply iterate_eq
  · simp
  intro j _
  unfold copyToTmp
  dsimp only
  rw [write_read_succ]
  rfl

lemma xorIvAndShift_iterate (k : ℕ) :
    xorIvAndShift^[k] s = { s with
      mem := write s.mem s.dOut (mix (read s.mem s.dOut k) (read s.iv s.pIv k))
      iv := write s.iv s.pIv (read s.tmp s.pT k)
      dOut := s.dOut + k, pIv := s.pIv + k, pT := s.pT + k } := by
  apply iterate_eq
  · simp [mix]
  intro j _
  unfold xorIvAndShift
  dsimp only
  rw [write_of_ge (by rw [length_mix_read]), write_of_ge (by rw [length_read]), write_mix_succ,
    write_read_succ]
  rfl

lemma xorTmpAndKeep_iterate (h : SameOrApart s.dIn s.dOut k) :
    xorTmpAndKeep^[k] s = { s with
      iv := write s.iv s.pIv (read s.mem s.dIn k)
      mem := write s.mem s.dOut (mix (read s.tmp s.pT k) (read s.mem s.dIn k))
      dIn := s.dIn + k, dOut := s.dOut + k, pIv := s.pIv + k, pT := s.pT + k } := by
  apply iterate_eq
  · simp [mix]
  intro j hj
  unfold xorTmpAndKeep
  dsimp only
  rw [h.write_next hj (length_mix_read ..).le, write_mix_succ, write_read_succ]
  rfl

lemma zeroIv_iterate (k : ℕ) :
    zeroIv^[k] s = { s with
      iv := write s.iv s.pIv (List.replicate k 0), pIv := s.pIv + k } := by
  apply iterate_eq
  · simp
  intro j _
  unfold zeroIv
  dsimp only
  rw [replicate_succ', write_concat, length_replicate]
  rfl

end Bytes

/-! ## Blocks -/

section Steps

variable (E : Cbc.BlockCipher)

/-- The encrypted IV. -/
def pad (iv : Mem) : Bytes := E.encryptBlock (read iv 0 E.size)

def ctrStep : Step Mem UInt8 := fun iv c => (mix c (pad E iv), increment E.size iv)

def ofbStep : Step Mem UInt8 := fun iv c => (mix (pad E iv) c, write iv 0 (pad E iv))

def cbcEncryptStep : Step Mem UInt8 := fun iv c =>
  (E.encryptBlock (mix (read iv 0 E.size) c),
    write iv 0 (E.encryptBlock (mix (read iv 0 E.size) c)))

def cbcDecryptStep : Step Mem UInt8 := fun iv c =>
  (mix (E.decryptBlock c) (read iv 0 E.size), write iv 0 c)

/-- The IV with a block of ciphertext, padded with zeros. -/
def keep (iv : Mem) (c : Bytes) : Mem :=
  write iv 0 (c ++ List.replicate (E.size - c.length) 0)

def cfbEncryptStep : Step Mem UInt8 := fun iv c =>
  (mix (pad E iv) c, keep E iv (mix (pad E iv) c))

def cfbDecryptStep : Step Mem UInt8 := fun iv c => (mix (pad E iv) c, keep E iv c)

def ecbEncryptStep : Step Mem UInt8 := fun iv c => (E.encryptBlock c, iv)

def ecbDecryptStep : Step Mem UInt8 := fun iv c => (E.decryptBlock c, iv)

/-- The `i` bytes at `dIn` are processed to `dOut`. -/
structure Does (f : Step Mem UInt8) (i : ℕ) (s s' : Regs) : Prop where
  mem : s'.mem = write s.mem s.dOut (f s.iv (read s.mem s.dIn i)).1
  iv : s'.iv = (f s.iv (read s.mem s.dIn i)).2
  dIn : s'.dIn = s.dIn + i
  dOut : s'.dOut = s.dOut + i

variable {E} {s : Regs} {i : ℕ}

lemma length_pad (iv : Mem) : (pad E iv).length = E.size :=
  E.length_encryptBlock _ (length_read ..)

lemma encryptBlock_read (iv : Mem) : E.encryptBlock (read iv 0 E.size) = pad E iv := rfl

lemma read_write_take {m : Mem} {p : ℕ} {l : Bytes} (hi : i ≤ l.length) :
    read (write m p l) p i = l.take i := by
  rw [← take_read _ _ _ _ hi, (hasAt_write m p l).read]

variable {a b c : Bytes} {iv : Mem}

lemma mix_take_left (h : b.length = i) : mix (a.take i) b = mix a b := by
  have hle : (mix a b).length ≤ i := by
    unfold mix
    rw [length_zipWith]
    omega
  rw [← take_of_length_le hle, mix, mix, take_zipWith, take_of_length_le h.le]

lemma mix_take_right (h : a.length = i) : mix a (b.take i) = mix a b := by
  rw [Cbc.mix_comm, mix_take_left h, Cbc.mix_comm]

lemma ctrBlock_does (hi : i ≤ E.size) (h : SameOrApart s.dIn s.dOut i) :
    Does (ctrStep E) i s (ctrBlock E i s) := by
  unfold ctrBlock encryptIvToTmp
  dsimp only
  rw [xorTmp_iterate (by exact h)]
  refine ⟨?_, rfl, rfl, rfl⟩
  dsimp only
  rw [encryptBlock_read, read_write_take (hi.trans_eq (length_pad s.iv).symm),
    mix_take_right (length_read ..)]
  rfl

lemma ofbBlock_does (hi : i ≤ E.size) (h : SameOrApart s.dIn s.dOut i) :
    Does (ofbStep E) i s (ofbBlock E i s) := by
  unfold ofbBlock encryptIv
  dsimp only
  rw [xorIv_iterate (by exact h)]
  refine ⟨?_, rfl, rfl, rfl⟩
  dsimp only
  rw [encryptBlock_read, read_write_take (hi.trans_eq (length_pad s.iv).symm),
    mix_take_left (length_read ..)]
  rfl

lemma cbcEncryptBlock_does : Does (cbcEncryptStep E) E.size s (cbcEncryptBlock E i s) := by
  have hblock : (mix (read s.iv 0 E.size) (read s.mem s.dIn E.size)).length = E.size :=
    length_mix_read ..
  have hout := E.length_encryptBlock _ hblock
  unfold cbcEncryptBlock encryptIv
  dsimp only
  rw [xorIntoIv_iterate, copyIv_iterate]
  dsimp only
  rw [read_write_take hblock.ge, take_of_length_le hblock.le, read_write_take hout.ge,
    take_of_length_le hout.le, write_write (by omega)]
  exact ⟨rfl, rfl, rfl, rfl⟩

lemma cbcDecryptBlock_does : Does (cbcDecryptStep E) E.size s (cbcDecryptBlock E i s) := by
  have hblock : (read s.mem s.dIn E.size).length = E.size := length_read ..
  have hout := E.length_decryptBlock _ hblock
  unfold cbcDecryptBlock
  dsimp only
  rw [copyToTmp_iterate, xorIvAndShift_iterate]
  dsimp only
  rw [read_write_take hblock.ge, take_of_length_le hblock.le, read_write_take hout.ge,
    take_of_length_le hout.le, write_write]
  · exact ⟨rfl, rfl, rfl, rfl⟩
  · rw [Cbc.length_mix (hout.trans (length_read ..).symm)]

lemma ecbEncryptBlock_does : Does (ecbEncryptStep E) E.size s (ecbEncryptBlock E i s) :=
  ⟨rfl, rfl, rfl, rfl⟩

lemma ecbDecryptBlock_does : Does (ecbDecryptStep E) E.size s (ecbDecryptBlock E i s) :=
  ⟨rfl, rfl, rfl, rfl⟩

lemma length_mix_pad (hc : c.length ≤ E.size) : (mix (pad E iv) c).length = c.length := by
  unfold mix
  rw [length_zipWith, length_pad]
  omega

lemma write_zeros (hc : c.length = i) :
    write (write iv 0 c) (0 + i) (List.replicate (-((i : ℤ) - E.size)).toNat 0) = keep E iv c := by
  unfold keep
  rw [write_append, hc]
  congr 2
  omega

lemma cfbEncryptBlock_does (hi : i ≤ E.size) (h : SameOrApart s.dIn s.dOut i) :
    Does (cfbEncryptStep E) i s (padIv (i - E.size, cfbEncryptBlock E i s)) := by
  have hout : (mix (pad E s.iv) (read s.mem s.dIn i)).length = i := by
    rw [length_mix_pad (by simpa using hi), length_read]
  unfold cfbEncryptBlock encryptIv padIv
  dsimp only
  rw [xorThroughIv_iterate (by exact h), zeroIv_iterate]
  dsimp only
  rw [encryptBlock_read, read_write_take (hi.trans_eq (length_pad s.iv).symm),
    mix_take_left (length_read ..), write_zeros hout]
  refine ⟨rfl, ?_, rfl, rfl⟩
  -- the encrypted IV is covered by the ciphertext and the padding
  unfold cfbEncryptStep keep
  dsimp only
  refine write_write ?_
  rw [length_pad, length_append, length_replicate]
  omega

lemma cfbDecryptBlock_does (hi : i ≤ E.size) (h : SameOrApart s.dIn s.dOut i) :
    Does (cfbDecryptStep E) i s (padIv (i - E.size, cfbDecryptBlock E i s)) := by
  unfold cfbDecryptBlock encryptIvToTmp padIv
  dsimp only
  rw [xorTmpAndKeep_iterate (by exact h), zeroIv_iterate]
  dsimp only
  rw [encryptBlock_read, read_write_take (hi.trans_eq (length_pad s.iv).symm),
    mix_take_left (length_read ..), write_zeros (length_read ..)]
  exact ⟨rfl, rfl, rfl, rfl⟩

end Steps

/-! ## The loop over the blocks -/

section Loop

variable {size : ℕ} {body : ℕ → Regs → Regs} {s : Regs}

lemma blockLoop_of_le (hsize : 0 < size) {n m : ℕ} {d : ℤ} (hn : d.toNat ≤ n) (hm : d.toNat ≤ m) :
    blockLoop size body n d s = blockLoop size body m d s := by
  induction n generalizing m d s with
  | zero =>
    cases m with
    | zero => rfl
    | succ m =>
      unfold blockLoop
      rw [if_neg (by omega)]
  | succ n ih =>
    cases m with
    | zero =>
      unfold blockLoop
      rw [if_neg (by omega)]
    | succ m =>
      unfold blockLoop
      split
      · exact ih (by omega) (by omega)
      · rfl

lemma forBlocks_pos (hsize : 0 < size) {d : ℤ} (hd : 0 < d) :
    forBlocks size body d s = forBlocks size body (d - size) (body (min d size).toNat s) := by
  obtain ⟨n, hn⟩ := Nat.exists_eq_succ_of_ne_zero (show d.toNat ≠ 0 by omega)
  unfold forBlocks
  rw [hn, blockLoop, if_pos hd]
  exact blockLoop_of_le hsize (by omega) le_rfl

lemma forBlocks_nonpos {d : ℤ} (hd : d ≤ 0) : forBlocks size body d s = (d, s) := by
  unfold forBlocks
  rw [Int.toNat_of_nonpos hd]
  rfl

/-- The loop over the blocks does the chain of steps, if a turn for a whole block does a step, and
the last turn does so with what comes after the loop. -/
lemma forBlocks_does (hsize : 0 < size) {f : Step Mem UInt8} {finish : ℤ × Regs → Regs}
    {whole : Prop} (hlength : ∀ iv c, Fits whole size c → (f iv c).1.length = c.length)
    (hend : ∀ s, finish (0, s) = s)
    (hlast : ∀ i s, i ≤ size → (whole → i = size) → SameOrApart s.dIn s.dOut i →
      Does f i s (finish ((i : ℤ) - size, body i s)))
    (n : ℕ) (hn : whole → size ∣ n) (hplaces : SameOrApart s.dIn s.dOut n) :
    Does (run f size) n s (finish (forBlocks size body n s)) := by
  induction n using Nat.strong_induction_on generalizing s with
  | _ n ih =>
    obtain rfl | hpos := Nat.eq_zero_or_pos n
    · rw [Nat.cast_zero, forBlocks_nonpos le_rfl, hend]
      exact ⟨by simp, by simp, rfl, rfl⟩
    have hdata : read s.mem s.dIn n ≠ [] := by
      rw [← length_pos_iff, length_read]
      exact hpos
    rw [forBlocks_pos hsize (by omega)]
    by_cases hle : n ≤ size
    · -- the last turn
      have hmin : (min (n : ℤ) size).toNat = n := by omega
      rw [hmin, forBlocks_nonpos (by omega)]
      have hdoes := hlast n s hle (fun h => Nat.le_antisymm hle (Nat.le_of_dvd hpos (hn h))) hplaces
      have hrun := run_piece hsize (f := f) (s := s.iv) hdata (by rw [length_read]; exact hle)
      refine ⟨?_, ?_, hdoes.dIn, hdoes.dOut⟩
      · rw [hrun]
        exact hdoes.mem
      · rw [hrun]
        exact hdoes.iv
    · have hmin : (min (n : ℤ) size).toNat = size := by omega
      have hcast : (n : ℤ) - size = ((n - size : ℕ) : ℤ) := by omega
      have hfirst := hlast size s le_rfl (fun _ => rfl) (hplaces.of_le (by omega))
      rw [sub_self, hend] at hfirst
      rw [hmin, hcast]
      have hfits : Fits whole size (read s.mem s.dIn size) :=
        ⟨(length_read ..).le, fun _ => length_read ..⟩
      have hlen := (hlength s.iv _ hfits).trans (length_read ..)
      have hplaces' : SameOrApart (body size s).dIn (body size s).dOut (n - size) := by
        rw [hfirst.dIn, hfirst.dOut]
        exact hplaces.shift (by omega)
      have hrest := ih (n - size) (by omega) (s := body size s)
        (fun h => Nat.dvd_sub (hn h) (Nat.dvd_refl size)) hplaces'
      -- what the rest reads is what was there before
      have hread : read (body size s).mem (body size s).dIn (n - size) =
          read s.mem (s.dIn + size) (n - size) := by
        rw [hfirst.mem, hfirst.dIn]
        exact hplaces.read_rest hlen.le
      have hrun := run_of_ne_nil hsize (f := f) (s := s.iv) hdata
      rw [take_read _ _ _ _ (by omega), drop_read _ _ _ _ (by omega)] at hrun
      obtain ⟨hmem, hiv, hdIn, hdOut⟩ := hrest
      rw [hread, hfirst.iv] at hmem hiv
      refine ⟨?_, ?_, ?_, ?_⟩
      · rw [hmem, hrun, hfirst.mem, hfirst.dOut, write_append, hlen]
      · rw [hiv, hrun]
      · rw [hdIn, hfirst.dIn]
        omega
      · rw [hdOut, hfirst.dOut]
        omega

end Loop

/-! ## The modes -/

section Modes

variable {E : Cbc.BlockCipher} {mode : SymMode} {s : Regs}

/-- The modes whose data consists of whole blocks. -/
def SymMode.whole (mode : SymMode) : Prop := mode = .cbc ∨ mode = .ecb

def encryptStep (E : Cbc.BlockCipher) : SymMode → Step Mem UInt8
  | .ctr => ctrStep E
  | .ofb => ofbStep E
  | .cbc => cbcEncryptStep E
  | .cfb => cfbEncryptStep E
  | .ecb => ecbEncryptStep E
  | .other => fun iv c => (c, iv)

def decryptStep (E : Cbc.BlockCipher) : SymMode → Step Mem UInt8
  | .ctr => ctrStep E
  | .ofb => ofbStep E
  | .cbc => cbcDecryptStep E
  | .cfb => cfbDecryptStep E
  | .ecb => ecbDecryptStep E
  | .other => fun iv c => (c, iv)

variable {c : Bytes} {n : ℕ}

lemma length_encryptStep (iv : Mem) (c : Bytes) (hc : Fits mode.whole E.size c) :
    (encryptStep E mode iv c).1.length = c.length := by
  cases mode with
  | ctr =>
    show (mix c (pad E iv)).length = c.length
    rw [Cbc.mix_comm, length_mix_pad hc.1]
  | ofb => exact length_mix_pad hc.1
  | cbc =>
    have hblock := hc.2 (.inl rfl)
    refine (E.length_encryptBlock _ ?_).trans hblock.symm
    rw [Cbc.length_mix ((length_read ..).trans hblock.symm), length_read]
  | cfb => exact length_mix_pad hc.1
  | ecb => exact (E.length_encryptBlock _ (hc.2 (.inr rfl))).trans (hc.2 (.inr rfl)).symm
  | other => rfl

lemma length_decryptStep (iv : Mem) (c : Bytes) (hc : Fits mode.whole E.size c) :
    (decryptStep E mode iv c).1.length = c.length := by
  cases mode with
  | ctr | ofb => exact (length_encryptStep iv c hc :)
  | cbc =>
    have hblock := hc.2 (.inl rfl)
    have hout := E.length_decryptBlock _ hblock
    exact (Cbc.length_mix (hout.trans (length_read ..).symm)).trans (hout.trans hblock.symm)
  | cfb => exact length_mix_pad hc.1
  | ecb => exact (E.length_decryptBlock _ (hc.2 (.inr rfl))).trans (hc.2 (.inr rfl)).symm
  | other => rfl

lemma mix_mix_of_le {a b : Bytes} (h : a.length ≤ b.length) : mix (mix a b) b = a := by
  have htake : (b.take a.length).length = a.length := by
    rw [length_take]
    omega
  rw [← mix_take_right (a := a) rfl, ← mix_take_right (a := mix a _) (Cbc.length_mix htake.symm)]
  exact Cbc.mix_mix htake.symm

lemma decryptStep_encryptStep (iv : Mem) (hc : Fits mode.whole E.size c) :
    decryptStep E mode iv (encryptStep E mode iv c).1 = (c, (encryptStep E mode iv c).2) := by
  have hpad : c.length ≤ (pad E iv).length := hc.1.trans_eq (length_pad iv).symm
  have hmixed : mix (pad E iv) (mix (pad E iv) c) = c := by
    rw [Cbc.mix_comm (pad E iv), Cbc.mix_comm (pad E iv), mix_mix_of_le hpad]
  cases mode with
  | ctr => exact Prod.ext (mix_mix_of_le hpad) rfl
  | ofb => exact Prod.ext hmixed rfl
  | cbc =>
    have hblock := hc.2 (.inl rfl)
    refine Prod.ext ?_ rfl
    show mix (E.decryptBlock (E.encryptBlock (mix (read iv 0 E.size) c))) (read iv 0 E.size) = c
    rw [E.decryptBlock_encryptBlock, Cbc.mix_comm (read iv 0 E.size) c,
      mix_mix_of_le (hc.1.trans_eq (length_read ..).symm)]
    rw [Cbc.length_mix ((length_read ..).trans hblock.symm), length_read]
  | cfb => exact Prod.ext hmixed rfl
  | ecb => exact Prod.ext (E.decryptBlock_encryptBlock c (hc.2 (.inr rfl))) rfl
  | other => rfl

lemma not_whole (h : mode ≠ .cbc) (h' : mode ≠ .ecb) : ¬mode.whole := by
  rintro (heq | heq)
  · exact h heq
  · exact h' heq

lemma forBlocks_snd_does (hsize : 0 < E.size) {f : Step Mem UInt8}
    {body : ℕ → Regs → Regs} {whole : Prop}
    (hlength : ∀ iv c, Fits whole E.size c → (f iv c).1.length = c.length)
    (hbody : ∀ i s, i ≤ E.size → (whole → i = E.size) → SameOrApart s.dIn s.dOut i →
      Does f i s (body i s)) (hn : whole → E.size ∣ n) (hplaces : SameOrApart s.dIn s.dOut n) :
    Does (run f E.size) n s (forBlocks E.size body n s).2 := by
  have hdoes : Does (run f E.size) n s (Prod.snd (forBlocks E.size body n s)) :=
    forBlocks_does hsize hlength (fun _ => rfl) hbody n hn hplaces
  exact hdoes

lemma forBlocks_whole_does (hsize : 0 < E.size) {f : Step Mem UInt8} {body : ℕ → Regs → Regs}
    (hwhole : mode.whole)
    (hlength : ∀ iv c, Fits mode.whole E.size c → (f iv c).1.length = c.length)
    (hbody : ∀ i s, Does f E.size s (body i s)) (hn : mode.whole → E.size ∣ n)
    (hplaces : SameOrApart s.dIn s.dOut n) :
    ∃ s', (if (n : ℤ) % E.size ≠ 0 then .error TPM_RC_SIZE
        else .ok (forBlocks E.size body n s).2 : Except TpmRc Regs) = .ok s' ∧
      Does (run f E.size) n s s' := by
  have hmod := Int.emod_eq_zero_of_dvd (Int.natCast_dvd_natCast.mpr (hn hwhole))
  refine ⟨_, if_neg (not_not.mpr hmod), forBlocks_snd_does hsize hlength ?_ hn hplaces⟩
  intro i s _ hi _
  obtain rfl := hi hwhole
  exact hbody _ s

/-- A loop that does the chain of the steps of its mode. -/
def DoesModes (loop : Cbc.BlockCipher → SymMode → ℤ → Regs → Except TpmRc Regs)
    (step : Cbc.BlockCipher → SymMode → Step Mem UInt8) : Prop :=
  ∀ E mode s n, 0 < E.size → mode ≠ .other → (mode.whole → E.size ∣ n) →
    SameOrApart s.dIn s.dOut n →
    ∃ s', loop E mode (n : ℕ) s = .ok s' ∧ Does (run (step E mode) E.size) n s s'

lemma encryptMode_does : DoesModes encryptMode encryptStep := by
  intro E mode s n hsize hmode hn hplaces
  have hlength := @length_encryptStep E mode
  cases mode with
  | ctr =>
    exact ⟨_, rfl,
      forBlocks_snd_does hsize hlength (fun _ _ hi _ h => ctrBlock_does hi h) hn hplaces⟩
  | ofb =>
    exact ⟨_, rfl,
      forBlocks_snd_does hsize hlength (fun _ _ hi _ h => ofbBlock_does hi h) hn hplaces⟩
  | cbc =>
    exact forBlocks_whole_does hsize (.inl rfl) hlength (fun _ _ => cbcEncryptBlock_does) hn hplaces
  | cfb =>
    exact ⟨_, rfl, forBlocks_does hsize hlength (fun _ => rfl)
      (fun _ _ hi _ h => cfbEncryptBlock_does hi h) n hn hplaces⟩
  | ecb =>
    exact forBlocks_whole_does hsize (.inr rfl) hlength (fun _ _ => ecbEncryptBlock_does) hn hplaces
  | other => exact absurd rfl hmode

lemma decryptMode_does : DoesModes decryptMode decryptStep := by
  intro E mode s n hsize hmode hn hplaces
  have hlength := @length_decryptStep E mode
  cases mode with
  | ctr | ofb => exact encryptMode_does E _ s n hsize hmode hn hplaces
  | cbc =>
    exact forBlocks_whole_does hsize (.inl rfl) hlength (fun _ _ => cbcDecryptBlock_does) hn hplaces
  | cfb =>
    exact ⟨_, rfl, forBlocks_does hsize hlength (fun _ => rfl)
      (fun _ _ hi _ h => cfbDecryptBlock_does hi h) n hn hplaces⟩
  | ecb =>
    exact forBlocks_whole_does hsize (.inr rfl) hlength (fun _ _ => ecbDecryptBlock_does) hn hplaces
  | other => exact absurd rfl hmode

end Modes

/-! ## The functions -/

/-- The algorithm, the mode and the length of the data go together. -/
structure Admits (algorithm : SymAlgorithm) (keySizeInBits : ℕ) (mode : SymMode) (n : ℕ) :
    Prop where
  blockSize : 0 < cryptGetSymmetricBlockSize algorithm keySizeInBits
  known : mode ≠ .other
  whole : mode.whole → cryptGetSymmetricBlockSize algorithm keySizeInBits ∣ n

section Functions

variable {C : Ciphers} {algorithm : SymAlgorithm} {keySizeInBits : ℕ} {key : Bytes}
  {mode : SymMode} {ivInOut : Option Iv} {mem : Mem} {dIn dOut n k : ℕ}
  {loop : Cbc.BlockCipher → SymMode → ℤ → Regs → Except TpmRc Regs}
  {step : Cbc.BlockCipher → SymMode → Step Mem UInt8}

lemma blockSize_other : cryptGetSymmetricBlockSize .other keySizeInBits = 0 := rfl

/-- The chain of the steps, for the data in memory. -/
abbrev chained (step : Cbc.BlockCipher → SymMode → Step Mem UInt8) (C : Ciphers)
    (algorithm : SymAlgorithm) (keySizeInBits : ℕ) (key : Bytes) (mode : SymMode)
    (iv : Mem) (data : Bytes) : Bytes × Mem :=
  run (step (C.cipher algorithm keySizeInBits key) mode)
    (cryptGetSymmetricBlockSize algorithm keySizeInBits) iv data

lemma cryptSymmetric_eq (hloop : DoesModes loop step) (hn : n ≠ 0)
    (h : Admits algorithm keySizeInBits mode n) (hplaces : SameOrApart dIn dOut n) :
    cryptSymmetric loop C mem dOut algorithm keySizeInBits key ivInOut mode n dIn =
      ⟨TPM_RC_SUCCESS,
        write mem dOut (chained step C algorithm keySizeInBits key mode (ivBuffer mode ivInOut)
          (read mem dIn n)).1,
        ivResult mode (cryptGetSymmetricBlockSize algorithm keySizeInBits) ivInOut
          (chained step C algorithm keySizeInBits key mode (ivBuffer mode ivInOut)
            (read mem dIn n)).2⟩ := by
  have hsize := C.size_cipher algorithm keySizeInBits key
  have halgorithm : algorithm ≠ .other := by
    rintro rfl
    exact absurd h.blockSize (by rw [blockSize_other]; exact Nat.lt_irrefl 0)
  obtain ⟨s', hok, hdoes⟩ := hloop (C.cipher algorithm keySizeInBits key) mode
    (initialRegs mem (ivBuffer mode ivInOut) dIn dOut) n (hsize ▸ h.blockSize) h.known
    (hsize ▸ h.whole) hplaces
  unfold cryptSymmetric
  dsimp only
  rw [if_neg (by exact_mod_cast hn), if_neg h.blockSize.ne', if_neg halgorithm, hok]
  dsimp only
  rw [hdoes.mem, hdoes.iv, hsize]
  rfl

lemma cryptSymmetric_zero :
    cryptSymmetric loop C mem dOut algorithm keySizeInBits key ivInOut mode (0 : ℕ) dIn =
      ⟨TPM_RC_SUCCESS, mem, ivInOut⟩ := rfl

variable {data : Bytes} {iv : Mem}

lemma length_chained
    (hlength : ∀ E iv c, Fits mode.whole E.size c → (step E mode iv c).1.length = c.length)
    (h : Admits algorithm keySizeInBits mode data.length) :
    (chained step C algorithm keySizeInBits key mode iv data).1.length = data.length := by
  refine length_run h.blockSize (fun iv c hc => hlength _ iv c ?_) _ h.whole
  rw [C.size_cipher]
  exact hc

lemma decrypt_chained (h : Admits algorithm keySizeInBits mode data.length) :
    chained decryptStep C algorithm keySizeInBits key mode iv
        (chained encryptStep C algorithm keySizeInBits key mode iv data).1 =
      (data, (chained encryptStep C algorithm keySizeInBits key mode iv data).2) := by
  have hsize := C.size_cipher algorithm keySizeInBits key
  exact run_inverse h.blockSize (fun iv c hc => length_encryptStep iv c (hsize.symm ▸ hc))
    (fun iv c hc => decryptStep_encryptStep iv (hsize.symm ▸ hc)) h.whole

lemma chained_ecb_iv (hstep : ∀ E iv c, (step E .ecb iv c).2 = iv)
    (hsize : 0 < cryptGetSymmetricBlockSize algorithm keySizeInBits) :
    (chained step C algorithm keySizeInBits key .ecb iv data).2 = iv := by
  unfold chained
  induction hn : data.length using Nat.strong_induction_on generalizing data iv with
  | _ n ih =>
    by_cases hnil : data = []
    · subst hnil
      rfl
    · have hpos := length_pos_iff.mpr hnil
      rw [run_of_ne_nil hsize hnil]
      dsimp only
      rw [ih _ (by rw [length_drop]; omega) rfl, hstep]

lemma ivBuffer_ivResult {blockSize : ℕ} (hpassed : mode = .ecb ∨ ivInOut.isSome)
    (hecb : mode = .ecb → iv = ivBuffer mode ivInOut) :
    ivBuffer mode (ivResult mode blockSize ivInOut iv) = iv := by
  by_cases hmode : mode = .ecb
  · subst hmode
    exact (hecb rfl).symm
  · obtain ⟨old, rfl⟩ := Option.isSome_iff_exists.mp (hpassed.resolve_left hmode)
    cases mode <;> first | rfl | exact absurd rfl hmode

lemma ivResult_ivResult {blockSize : ℕ} {iv' : Mem} :
    ivResult mode blockSize (ivResult mode blockSize ivInOut iv) iv' =
      ivResult mode blockSize ivInOut iv' := by
  cases mode <;> cases ivInOut <;> rfl

lemma cryptSymmetric_chains (hloop : DoesModes loop step)
    (hlength : ∀ E iv c, Fits mode.whole E.size c → (step E mode iv c).1.length = c.length)
    (hecb : ∀ E iv c, (step E .ecb iv c).2 = iv) (h : Admits algorithm keySizeInBits mode n)
    (hplaces : SameOrApart dIn dOut n) (hk : k ≤ n)
    (hcut : cryptGetSymmetricBlockSize algorithm keySizeInBits ∣ k)
    (hpassed : mode = .ecb ∨ ivInOut.isSome) :
    let first := cryptSymmetric loop C mem dOut algorithm keySizeInBits key ivInOut mode k dIn
    first.rc = TPM_RC_SUCCESS ∧
      cryptSymmetric loop C first.mem (dOut + k) algorithm keySizeInBits key first.iv mode
          (n - k : ℕ) (dIn + k) =
        cryptSymmetric loop C mem dOut algorithm keySizeInBits key ivInOut mode n dIn := by
  obtain rfl | hk₀ := Nat.eq_zero_or_pos k
  · exact ⟨rfl, rfl⟩
  have hfirst : Admits algorithm keySizeInBits mode k := ⟨h.blockSize, h.known, fun _ => hcut⟩
  rw [cryptSymmetric_eq hloop hk₀.ne' hfirst (hplaces.of_le hk)]
  refine ⟨rfl, ?_⟩
  dsimp only
  have hread : (read mem dIn k).length = k := length_read ..
  have hlen : (chained step C algorithm keySizeInBits key mode (ivBuffer mode ivInOut)
      (read mem dIn k)).1.length = k :=
    (length_chained hlength (hread.symm ▸ hfirst)).trans hread
  obtain rfl | hlt := Nat.eq_or_lt_of_le hk
  · rw [Nat.sub_self, cryptSymmetric_zero, cryptSymmetric_eq hloop hk₀.ne' h hplaces]
  have hrest : Admits algorithm keySizeInBits mode (n - k) :=
    ⟨h.blockSize, h.known, fun hw => Nat.dvd_sub (h.whole hw) hcut⟩
  have hiv : ivBuffer mode
      (ivResult mode (cryptGetSymmetricBlockSize algorithm keySizeInBits) ivInOut
      (chained step C algorithm keySizeInBits key mode (ivBuffer mode ivInOut)
        (read mem dIn k)).2) =
      (chained step C algorithm keySizeInBits key mode (ivBuffer mode ivInOut)
        (read mem dIn k)).2 := by
    refine ivBuffer_ivResult hpassed ?_
    rintro rfl
    exact chained_ecb_iv hecb h.blockSize
  rw [cryptSymmetric_eq hloop (by omega) hrest (hplaces.shift hk),
    cryptSymmetric_eq hloop (by omega) h hplaces, hiv, hplaces.read_rest hlen.le, ivResult_ivResult]
  have hwhole : read mem dIn n = read mem dIn k ++ read mem (dIn + k) (n - k) := by
    rw [← read_add, Nat.add_sub_cancel' hk]
  unfold chained at hlen ⊢
  rw [hwhole, run_append h.blockSize (by rw [hread]; exact hcut)]
  dsimp only
  rw [write_append, hlen]

end Functions

/-- A function for which data can be split at a block boundary: two calls that pass the IV on give
the same memory, the same IV and the same response code as one. -/
def Chains
    (crypt : Ciphers → Mem → ℕ → SymAlgorithm → ℕ → Bytes → Option Iv → SymMode → ℤ →
      ℕ → SymResult)
    (C : Ciphers) (algorithm : SymAlgorithm) (keySizeInBits : ℕ) (key : Bytes)
    (mode : SymMode) (ivInOut : Option Iv) (mem : Mem) (dIn dOut n : ℕ) : Prop :=
  ∀ k ≤ n, cryptGetSymmetricBlockSize algorithm keySizeInBits ∣ k →
    let first := crypt C mem dOut algorithm keySizeInBits key ivInOut mode k dIn
    first.rc = TPM_RC_SUCCESS ∧
      crypt C first.mem (dOut + k) algorithm keySizeInBits key first.iv mode (n - k : ℕ) (dIn + k) =
        crypt C mem dOut algorithm keySizeInBits key ivInOut mode n dIn

/-- For every mode and all data that it admits, in place or not: encryption succeeds, decryption
with the same IV undoes it and leaves the same IV, and both can be split between blocks if the IV is
passed on. -/
theorem symmetric_modes_invert_and_chain (C : Ciphers) (algorithm : SymAlgorithm)
    (keySizeInBits : ℕ) (key : Bytes) (mode : SymMode) (ivInOut : Option Iv)
    (mem : Mem) (dIn dOut n : ℕ) (hadmits : Admits algorithm keySizeInBits mode n)
    (hplaces : SameOrApart dIn dOut n) :
    let e := cryptSymmetricEncrypt C mem dOut algorithm keySizeInBits key ivInOut mode n dIn
    e.rc = TPM_RC_SUCCESS ∧
      (∀ dOut', SameOrApart dOut dOut' n →
        let d := cryptSymmetricDecrypt C e.mem dOut' algorithm keySizeInBits key ivInOut mode n dOut
        d.rc = TPM_RC_SUCCESS ∧ read d.mem dOut' n = read mem dIn n ∧ d.iv = e.iv) ∧
      (mode = .ecb ∨ ivInOut.isSome →
        Chains cryptSymmetricEncrypt C algorithm keySizeInBits key mode ivInOut mem dIn dOut n ∧
        Chains cryptSymmetricDecrypt C algorithm keySizeInBits key mode ivInOut mem dIn dOut
          n) := by
  refine ⟨?_, fun dOut' hplaces' => ?_, fun hpassed => ⟨fun k hk hcut => ?_, fun k hk hcut => ?_⟩⟩
  · obtain rfl | hn := Nat.eq_zero_or_pos n
    · rfl
    · rw [cryptSymmetricEncrypt, cryptSymmetric_eq encryptMode_does hn.ne' hadmits hplaces]
  · obtain rfl | hn := Nat.eq_zero_or_pos n
    · exact ⟨rfl, rfl, rfl⟩
    have hread : (read mem dIn n).length = n := length_read ..
    have hadmits' : Admits algorithm keySizeInBits mode (read mem dIn n).length :=
      hread.symm ▸ hadmits
    have hlen : (chained encryptStep C algorithm keySizeInBits key mode (ivBuffer mode ivInOut)
        (read mem dIn n)).1.length = n :=
      (length_chained (fun _ => length_encryptStep) hadmits').trans hread
    unfold cryptSymmetricEncrypt cryptSymmetricDecrypt
    rw [cryptSymmetric_eq encryptMode_does hn.ne' hadmits hplaces,
      cryptSymmetric_eq decryptMode_does hn.ne' hadmits hplaces']
    dsimp only
    rw [(hasAt_write ..).read' hlen.symm, decrypt_chained hadmits']
    exact ⟨rfl, (hasAt_write ..).read' hread.symm, rfl⟩
  · exact cryptSymmetric_chains encryptMode_does (fun _ => length_encryptStep)
      (fun _ _ _ => rfl) hadmits hplaces hk hcut hpassed
  · exact cryptSymmetric_chains decryptMode_does (fun _ => length_decryptStep)
      (fun _ _ _ => rfl) hadmits hplaces hk hcut hpassed

/-- Ciphers that turn a block round. -/
def reversing : Ciphers where
  cipher algorithm keySizeInBits _ :=
    ⟨cryptGetSymmetricBlockSize algorithm keySizeInBits, List.reverse, List.reverse,
      fun _ h => (length_reverse).trans h, fun _ h => (length_reverse).trans h,
      fun b _ => reverse_reverse b⟩
  size_cipher _ _ _ := rfl

theorem cfb_in_place_inverts :
    let e := cryptSymmetricEncrypt reversing UInt8.ofNat 0 .aes 128 [] (some ⟨0, UInt8.ofNat⟩) .cfb
      (20 : ℕ) 0
    read e.mem 0 20 ≠ read UInt8.ofNat 0 20 ∧
      read (cryptSymmetricDecrypt reversing e.mem 0 .aes 128 [] (some ⟨0, UInt8.ofNat⟩) .cfb
        (20 : ℕ) 0).mem 0 20 = read UInt8.ofNat 0 20 := by
  have hadmits : Admits .aes 128 .cfb 20 :=
    ⟨by decide, by decide, fun h => absurd h (not_whole (by decide) (by decide))⟩
  have hinverts := symmetric_modes_invert_and_chain reversing .aes 128 [] .cfb
    (some ⟨0, UInt8.ofNat⟩) UInt8.ofNat 0 0 20 hadmits (.inl rfl)
  exact ⟨by decide +kernel, (hinverts.2.1 0 (.inl rfl)).2.1⟩

end RfTpm.Sym
