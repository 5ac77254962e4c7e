import RfTpm.Lib.Bytes

/-!
# Cipher block chaining

A block cipher is a pair of functions on byte strings of one length, the second undoing the
first.  `encrypt` and `decrypt` chain it over a string of whole blocks: every block is mixed
with the ciphertext of the block before it, the first one with the initialisation vector.
-/

namespace RfTpm.Cbc

/-- A block cipher under a fixed key. -/
structure BlockCipher where
  size : ℕ
  encryptBlock : Bytes → Bytes
  decryptBlock : Bytes → Bytes
  length_encryptBlock : ∀ b, b.length = size → (encryptBlock b).length = size
  length_decryptBlock : ∀ b, b.length = size → (decryptBlock b).length = size
  decryptBlock_encryptBlock : ∀ b, b.length = size → decryptBlock (encryptBlock b) = b

/-- Two strings of one length, mixed byte by byte. -/
def mix (a b : Bytes) : Bytes :=
  List.zipWith (· ^^^ ·) a b

variable {a b data iv : Bytes} {n : ℕ}

lemma length_mix (h : a.length = b.length) : (mix a b).length = a.length := by
  simp [mix, h]

lemma mix_mix (h : a.length = b.length) : mix (mix a b) b = a := by
  induction a generalizing b with
  | nil => simp [mix]
  | cons x xs ih =>
    cases b with
    | nil => simp at h
    | cons y ys =>
      have htail : mix (mix xs ys) ys = xs := ih (by simpa using h)
      simp only [mix, List.zipWith_cons_cons, List.cons.injEq] at htail ⊢
      exact ⟨by rw [UInt8.xor_assoc, UInt8.xor_self, UInt8.xor_zero], htail⟩

lemma mix_append {a' b' : Bytes} (hlen : a.length = b.length) :
    mix (a ++ a') (b ++ b') = mix a b ++ mix a' b' :=
  List.zipWith_append hlen

lemma mix_comm (a b : Bytes) : mix a b = mix b a :=
  List.zipWith_comm_of_comm UInt8.xor_comm

lemma mix_replicate_zero (a : Bytes) : mix a (List.replicate a.length 0) = a := by
  induction a with
  | nil => rfl
  | cons x xs ih =>
    show (x ^^^ 0) :: mix xs (List.replicate xs.length 0) = x :: xs
    rw [ih, UInt8.xor_zero]

variable (E : BlockCipher)

/-- Encryption of the first `n` blocks. -/
def encrypt (iv : Bytes) : ℕ → Bytes → Bytes
  | 0, _ => []
  | n + 1, data =>
    let c := E.encryptBlock (mix (data.take E.size) iv)
    c ++ encrypt c n (data.drop E.size)

/-- Decryption of the first `n` blocks. -/
def decrypt (iv : Bytes) : ℕ → Bytes → Bytes
  | 0, _ => []
  | n + 1, data =>
    mix (E.decryptBlock (data.take E.size)) iv ++
      decrypt (data.take E.size) n (data.drop E.size)

variable {E}

lemma length_take_block (hdata : data.length = (n + 1) * E.size) :
    (data.take E.size).length = E.size := by
  rw [List.length_take, hdata, Nat.min_eq_left (Nat.le_mul_of_pos_left _ n.succ_pos)]

lemma length_drop_block (hdata : data.length = (n + 1) * E.size) :
    (data.drop E.size).length = n * E.size := by
  rw [List.length_drop, hdata, Nat.succ_mul, Nat.add_sub_cancel]

lemma length_first_block (hiv : iv.length = E.size) (hdata : data.length = (n + 1) * E.size) :
    (mix (data.take E.size) iv).length = E.size := by
  have htake := length_take_block hdata
  rw [length_mix (htake.trans hiv.symm), htake]

lemma length_encrypt (hiv : iv.length = E.size) (hdata : data.length = n * E.size) :
    (encrypt E iv n data).length = n * E.size := by
  induction n generalizing iv data with
  | zero => simp [encrypt]
  | succ n ih =>
    have hblock := E.length_encryptBlock _ (length_first_block hiv hdata)
    rw [encrypt, List.length_append, hblock, ih hblock (length_drop_block hdata), Nat.succ_mul,
      Nat.add_comm]

lemma length_decrypt (hiv : iv.length = E.size) (hdata : data.length = n * E.size) :
    (decrypt E iv n data).length = n * E.size := by
  induction n generalizing iv data with
  | zero => simp [decrypt]
  | succ n ih =>
    have htake := length_take_block hdata
    have hblock := E.length_decryptBlock _ htake
    rw [decrypt, List.length_append, length_mix (hblock.trans hiv.symm), hblock,
      ih htake (length_drop_block hdata), Nat.succ_mul, Nat.add_comm]

lemma decrypt_encrypt (hiv : iv.length = E.size) (hdata : data.length = n * E.size) :
    decrypt E iv n (encrypt E iv n data) = data := by
  induction n generalizing iv data with
  | zero =>
    have hnil : data = [] := List.length_eq_zero_iff.mp (by simpa using hdata)
    rw [hnil]
    rfl
  | succ n ih =>
    have hmixed := length_first_block hiv hdata
    have hblock := E.length_encryptBlock _ hmixed
    have htake : (data.take E.size).length = iv.length :=
      (length_take_block hdata).trans hiv.symm
    -- the ciphertext splits into its first block, which is the next chaining value, and the rest
    simp only [encrypt, decrypt]
    rw [List.take_left' hblock, List.drop_left' hblock, ih hblock (length_drop_block hdata),
      E.decryptBlock_encryptBlock _ hmixed, mix_mix htake, List.take_append_drop]

end RfTpm.Cbc
