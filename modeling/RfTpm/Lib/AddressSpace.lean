import Mathlib

/-!
# Copies between address spaces that can fault

An address space maps 64-bit addresses to bytes; addresses wrap around, as `uintptr_t`
does.  A `Transfer` copies from some fixed space into the one it is given, and says
whether it got through: an access to a page that is not there stops it midway.

Transfers are built from one constructor, `Transfer.unit`, which moves a fixed number of bytes or
none at all, and composed by `Transfer.andThen`, `Transfer.times` and, where all reads come before
the first write, `Transfer.loaded`.  What all of them have in common is `Transfer.Moves`: the
transfer gets through exactly when every address it must touch is accessible, it then has copied
everything, and otherwise it has copied some initial part, short of the whole.
-/

namespace RfTpm.AddressSpace

/-- A 64-bit address space. -/
abbrev Space := UInt64 → UInt8

namespace Space

/-- The `n` bytes starting at `a`. -/
def read (m : Space) (a : UInt64) (n : ℕ) : List UInt8 :=
  (List.range n).map fun i => m (a + .ofNat i)

/-- Store the byte string `bs` at `a`. -/
def write (m : Space) (a : UInt64) (bs : List UInt8) : Space :=
  fun x => (bs[(x - a).toNat]?).getD (m x)

@[simp] lemma length_read (m : Space) (a : UInt64) (n : ℕ) : (m.read a n).length = n := by
  simp [read]

@[simp] lemma read_zero (m : Space) (a : UInt64) : m.read a 0 = [] := rfl

@[simp] lemma write_nil (m : Space) (a : UInt64) : m.write a [] = m := by
  funext x
  simp [write]

lemma read_add (m : Space) (a : UInt64) (n k : ℕ) :
    m.read a (n + k) = m.read a n ++ m.read (a + .ofNat n) k := by
  simp [read, List.range_add, Function.comp_def, UInt64.add_assoc]

lemma toNat_sub_add (x a : UInt64) (n : ℕ) (h : n ≤ 2 ^ 64) :
    (x - (a + .ofNat n)).toNat =
      if n ≤ (x - a).toNat then (x - a).toNat - n else (x - a).toNat + 2 ^ 64 - n := by
  have hd := (x - a).toNat_lt
  have heq : x - (a + .ofNat n) = (x - a) - .ofNat n := by grind
  rw [heq, UInt64.toNat_sub, UInt64.toNat_ofNat']
  split <;> omega

lemma write_append (m : Space) (a : UInt64) {xs ys : List UInt8}
    (h : xs.length + ys.length ≤ 2 ^ 64) :
    m.write a (xs ++ ys) = (m.write a xs).write (a + .ofNat xs.length) ys := by
  funext x
  simp only [write, toNat_sub_add x a xs.length (by omega)]
  have hd := (x - a).toNat_lt
  split
  · case _ hle =>
    rw [List.getElem?_append_right hle, List.getElem?_eq_none hle]
    rfl
  · case _ hlt =>
    have hout : ys.length ≤ (x - a).toNat + 2 ^ 64 - xs.length := by omega
    rw [List.getElem?_append_left (by omega), List.getElem?_eq_none hout]
    rfl

lemma write_of_le (m : Space) {a x : UInt64} {bs : List UInt8} (h : bs.length ≤ (x - a).toNat) :
    m.write a bs x = m x := by
  simp [write, List.getElem?_eq_none h]

lemma toNat_add_sub (a : UInt64) {i : ℕ} (h : i < 2 ^ 64) :
    (a + .ofNat i - a : UInt64).toNat = i := by
  have hsub : (a + .ofNat i - a : UInt64) = .ofNat i := by grind
  rw [hsub, UInt64.toNat_ofNat', Nat.mod_eq_of_lt h]

lemma read_write (m : Space) (a : UInt64) {bs : List UInt8} (h : bs.length ≤ 2 ^ 64) :
    (m.write a bs).read a bs.length = bs := by
  apply List.ext_getElem
  · simp
  · intro i _ hi
    have hindex := toNat_add_sub a (show i < 2 ^ 64 by omega)
    simp only [read, write, List.getElem_map, List.getElem_range, hindex]
    rw [List.getElem?_eq_getElem hi]
    rfl

lemma read_write_of_length (m : Space) (a : UInt64) {bs : List UInt8} {n : ℕ}
    (hlength : bs.length = n) (hn : n ≤ 2 ^ 64) : (m.write a bs).read a n = bs := by
  subst hlength
  exact read_write m a hn

end Space

/-! ## Transfers -/

/-- A copy into the space it is given: destination, source and space to whether it got
through and the space it leaves. -/
abbrev Transfer := UInt64 → UInt64 → Space → Bool × Space

/-- Every one of the `n` addresses from `a` on is accessible. -/
def accessibleAll (accessible : UInt64 → Bool) (a : UInt64) (n : ℕ) : Bool :=
  (List.range n).all fun i => accessible (a + .ofNat i)

lemma accessibleAll_add (accessible : UInt64 → Bool) (a : UInt64) (n k : ℕ) :
    accessibleAll accessible a (n + k) =
      (accessibleAll accessible a n && accessibleAll accessible (a + .ofNat n) k) := by
  simp [accessibleAll, List.range_add, Function.comp_def, UInt64.add_assoc]

lemma accessibleAll_eq_true_iff {accessible : UInt64 → Bool} {a : UInt64} {n : ℕ} :
    accessibleAll accessible a n = true ↔ ∀ i < n, accessible (a + .ofNat i) = true := by
  simp [accessibleAll]

lemma accessibleAll_mono {accessible : UInt64 → Bool} {a : UInt64} {n k : ℕ} (hle : n ≤ k)
    (h : accessibleAll accessible a k = true) : accessibleAll accessible a n = true :=
  accessibleAll_eq_true_iff.mpr fun i hi => accessibleAll_eq_true_iff.mp h i (hi.trans_le hle)

@[simp]
lemma accessibleAll_true (a : UInt64) (n : ℕ) : accessibleAll (fun _ => true) a n = true := by
  simp [accessibleAll]

namespace Transfer

/-- Move `size` bytes of `origin`, or none if one of them cannot be read or has no place. -/
def unit (origin : Space) (readable writable : UInt64 → Bool) (size : ℕ) : Transfer :=
  fun dst src m =>
    if accessibleAll readable src size && accessibleAll writable dst size then
      (true, m.write dst (origin.read src size))
    else (false, m)

/-- The transfer `f` of `size` bytes, begun only when all of them have been read. -/
def loaded (readable : UInt64 → Bool) (size : ℕ) (f : Transfer) : Transfer := fun dst src m =>
  if accessibleAll readable src size then f dst src m else (false, m)

/-- The transfer `f` of `len` bytes, and `g` behind it if `f` got through. -/
def andThen (f : Transfer) (len : ℕ) (g : Transfer) : Transfer := fun dst src m =>
  match f dst src m with
  | (true, m) => g (dst + .ofNat len) (src + .ofNat len) m
  | (false, m) => (false, m)

/-- The transfer `f` of `size` bytes, `n` times in a row. -/
def times (f : Transfer) (size : ℕ) : ℕ → Transfer
  | 0 => fun _ _ m => (true, m)
  | n + 1 => f.andThen size (f.times size n)

/-- The transfer copies `len` bytes of `origin`, as far as they can be read and written. -/
structure Moves (origin : Space) (readable writable : UInt64 → Bool) (len : ℕ)
    (f : Transfer) : Prop where
  through : ∀ dst src m,
    (f dst src m).1 = (accessibleAll readable src len && accessibleAll writable dst len)
  done : ∀ dst src m, (f dst src m).1 = true → (f dst src m).2 = m.write dst (origin.read src len)
  part : ∀ dst src m, ∃ k ≤ len, ((f dst src m).1 = false → k < len) ∧
    (f dst src m).2 = m.write dst (origin.read src k)

variable {origin : Space} {readable writable : UInt64 → Bool} {f g : Transfer} {n k : ℕ}

lemma moves_unit (size : ℕ) :
    Moves origin readable writable size (unit origin readable writable size) where
  through dst src m := by
    unfold unit
    split <;> simp_all
  done dst src m h := by
    unfold unit at h ⊢
    split at h <;> simp_all
  part dst src m := by
    unfold unit
    split
    · exact ⟨size, le_rfl, nofun, rfl⟩
    · rename_i hfault
      refine ⟨0, Nat.zero_le _, fun _ => Nat.pos_of_ne_zero ?_, by simp⟩
      rintro rfl
      exact hfault rfl

lemma Moves.loaded (hf : Moves origin readable writable n f) :
    Moves origin readable writable n (f.loaded readable n) where
  through dst src m := by
    unfold Transfer.loaded
    split
    · exact hf.through dst src m
    · simp_all
  done dst src m h := by
    unfold Transfer.loaded at h ⊢
    split at h
    · rename_i hread
      rw [if_pos hread]
      exact hf.done dst src m h
    · cases h
  part dst src m := by
    unfold Transfer.loaded
    split
    · exact hf.part dst src m
    · rename_i hfault
      refine ⟨0, Nat.zero_le _, fun _ => Nat.pos_of_ne_zero ?_, by simp⟩
      rintro rfl
      exact hfault rfl

lemma write_read_add (m : Space) (dst src : UInt64) (h : n + k ≤ 2 ^ 64) :
    (m.write dst (origin.read src n)).write (dst + .ofNat n) (origin.read (src + .ofNat n) k) =
      m.write dst (origin.read src (n + k)) := by
  rw [Space.read_add, Space.write_append _ _ (by simpa using h), Space.length_read]

lemma Moves.andThen (hf : Moves origin readable writable n f)
    (hg : Moves origin readable writable k g) (h : n + k ≤ 2 ^ 64) :
    Moves origin readable writable (n + k) (f.andThen n g) where
  through dst src m := by
    have hsplit : (accessibleAll readable src (n + k) && accessibleAll writable dst (n + k)) =
        ((f dst src m).1 && (accessibleAll readable (src + .ofNat n) k &&
          accessibleAll writable (dst + .ofNat n) k)) := by
      rw [accessibleAll_add, accessibleAll_add, hf.through dst src m]
      ac_rfl
    rw [hsplit]
    unfold Transfer.andThen
    split
    · case _ m' heq => rw [hg.through, heq, Bool.true_and]
    · case _ m' heq => rw [heq, Bool.false_and]
  done dst src m hthrough := by
    unfold Transfer.andThen at hthrough ⊢
    split at hthrough
    · case _ m' heq =>
      have hm' : m' = m.write dst (origin.read src n) := by
        have := hf.done dst src m (by rw [heq])
        rwa [heq] at this
      rw [hg.done _ _ _ hthrough, hm', write_read_add m dst src h]
    · cases hthrough
  part dst src m := by
    unfold Transfer.andThen
    split
    · case _ m' heq =>
      have hm' : m' = m.write dst (origin.read src n) := by
        have := hf.done dst src m (by rw [heq])
        rwa [heq] at this
      obtain ⟨j, hj, hfault, hpart⟩ := hg.part (dst + .ofNat n) (src + .ofNat n) m'
      refine ⟨n + j, by omega, fun h => Nat.add_lt_add_left (hfault h) n, ?_⟩
      rw [hpart, hm', write_read_add m dst src (by omega)]
    · case _ m' heq =>
      obtain ⟨j, hj, hfault, hpart⟩ := hf.part dst src m
      rw [heq] at hfault hpart
      exact ⟨j, by omega, fun h => Nat.lt_add_right k (hfault h), hpart⟩

lemma Moves.times {size : ℕ} (hf : Moves origin readable writable size f)
    (h : size * n ≤ 2 ^ 64) :
    Moves origin readable writable (size * n) (f.times size n) := by
  induction n with
  | zero =>
    exact ⟨fun _ _ _ => rfl, fun _ _ _ _ => by simp [Transfer.times],
      fun _ _ _ => ⟨0, le_rfl, nofun, by simp [Transfer.times]⟩⟩
  | succ n ih =>
    rw [Nat.mul_succ, Nat.add_comm] at h ⊢
    exact hf.andThen (ih (by omega)) h

/-- The bytes behind the last one that was copied are as before, and a transfer that did not get
through leaves at least one of its own. -/
lemma Moves.last_of_fault (hf : Moves origin readable writable n f) (hn : n ≤ 2 ^ 64)
    (dst src : UInt64) (m : Space) (h : (f dst src m).1 = false) :
    0 < n ∧ (f dst src m).2 (dst + .ofNat (n - 1)) = m (dst + .ofNat (n - 1)) := by
  obtain ⟨k, -, hlt, hpart⟩ := hf.part dst src m
  have hk := hlt h
  refine ⟨by omega, ?_⟩
  rw [hpart]
  refine Space.write_of_le m ?_
  rw [Space.length_read, Space.toNat_add_sub _ (by omega)]
  omega

end Transfer

end RfTpm.AddressSpace
