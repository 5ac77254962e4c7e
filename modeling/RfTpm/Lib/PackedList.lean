import RfTpm.Lib.Bytes

/-!
# Packed lists and the loops that walk them

A packed list is a sequence of self-delimiting records laid one after the other
in a byte memory.  This module has the two halves every such list needs.

*Layout.*  `flat enc es` is the byte string of the records `es`, `size enc es`
its length, and `nodes enc a es` lists each record with the address it starts
at.  Removing one record from the middle and overwriting one in place are the
splits `flat_split` and `size_split`.

*Walking.*  Code reads such a list through an iterator: a stateful procedure that
reads the record at an address and returns it with the address of the next one.
`walk` is the loop `while (n = next(iter)) if (p n) break`, `loop` the loop
`while (n = next(iter)) body(n)`.  Both are fuelled.  `Chain next s a ns e` says
that the iterator, started at `a` in state `s`, yields exactly `ns`, stops at `e`
and never changes the state; `walk_chain` and `loop_rule` are the two rules the
list proofs use, so no proof about a list unfolds a loop.
-/

namespace RfTpm.Packed

/-! ## Layout -/

section Layout

variable {ε : Type*} (enc : ε → Bytes)

/-- The bytes of a list of records. -/
def flat (es : List ε) : Bytes := es.flatMap enc

/-- The number of bytes a list of records takes. -/
def size (es : List ε) : ℕ := (flat enc es).length

/-- Each record with the address it starts at, the first one at `a`. -/
def nodes : ℕ → List ε → List (ℕ × ε)
  | _, [] => []
  | a, e :: es => (a, e) :: nodes (a + (enc e).length) es

@[simp]
lemma flat_nil : flat enc [] = [] := rfl

@[simp]
lemma flat_cons (e : ε) (es : List ε) : flat enc (e :: es) = enc e ++ flat enc es := rfl

@[simp]
lemma flat_append (xs ys : List ε) : flat enc (xs ++ ys) = flat enc xs ++ flat enc ys := by
  simp [flat]

@[simp]
lemma length_flat (es : List ε) : (flat enc es).length = size enc es := rfl

@[simp]
lemma size_nil : size enc [] = 0 := rfl

@[simp]
lemma size_cons (e : ε) (es : List ε) :
    size enc (e :: es) = (enc e).length + size enc es :=
  List.length_append

@[simp]
lemma size_append (xs ys : List ε) : size enc (xs ++ ys) = size enc xs + size enc ys := by
  rw [← length_flat, flat_append, List.length_append, length_flat, length_flat]

@[simp]
lemma map_snd_nodes (a : ℕ) (es : List ε) : (nodes enc a es).map Prod.snd = es := by
  induction es generalizing a with
  | nil => rfl
  | cons e es ih => simp [nodes, ih]

@[simp]
lemma length_nodes (a : ℕ) (es : List ε) : (nodes enc a es).length = es.length := by
  rw [← List.length_map, map_snd_nodes]

lemma nodes_append (a : ℕ) (xs ys : List ε) :
    nodes enc a (xs ++ ys) = nodes enc a xs ++ nodes enc (a + size enc xs) ys := by
  induction xs generalizing a with
  | nil => simp [nodes]
  | cons x xs ih => simp [nodes, ih, Nat.add_assoc]

/-- Records are at least `k` bytes long, so a list of them is at least `k` times
its length. -/
lemma mul_length_le_size {k : ℕ} {es : List ε} (h : ∀ e ∈ es, k ≤ (enc e).length) :
    k * es.length ≤ size enc es := by
  induction es with
  | nil => simp
  | cons e es ih =>
    have hhead := h e (by simp)
    have htail := ih fun x hx => h x (by simp [hx])
    rw [List.length_cons, size_cons, Nat.mul_succ]
    omega

/-- The records of a list are those its nodes name, each where the records before
it end. -/
lemma mem_nodes {a : ℕ} {es : List ε} {n : ℕ × ε} :
    n ∈ nodes enc a es ↔ ∃ pre post, es = pre ++ n.2 :: post ∧ n.1 = a + size enc pre := by
  constructor
  · intro h
    induction es generalizing a with
    | nil => simp [nodes] at h
    | cons e es ih =>
      rw [nodes, List.mem_cons] at h
      rcases h with rfl | h
      · exact ⟨[], es, rfl, rfl⟩
      · obtain ⟨pre, post, rfl, ha⟩ := ih h
        exact ⟨e :: pre, post, rfl, by rw [ha, size_cons, Nat.add_assoc]⟩
  · rintro ⟨pre, post, rfl, ha⟩
    rw [nodes_append, nodes, ← ha]
    simp

lemma foldl_count {γ : Type*} (p : γ → Bool) (L : List γ) (n : ℕ) :
    L.foldl (fun n l => if p l then n + 1 else n) n = n + L.countP p := by
  induction L generalizing n with
  | nil => rfl
  | cons l L ih =>
    rw [List.foldl_cons, ih, List.countP_cons]
    split <;> omega

end Layout

/-! ## Walking -/

section Walk

variable {σ ν α : Type*}

/-- An iterator: from an address, the record there and the address of the next
one, or `none` at the end of the list. -/
abbrev Iter (σ ν : Type*) := ℕ → σ → Option (ν × ℕ) × σ

/-- `while ((n = next(iter)) != 0) if (p n) break;`: the first record satisfying
`p`, with the iterator as the loop leaves it. -/
def walk (next : Iter σ ν) (p : ν → Bool) : ℕ → ℕ → σ → (Option ν × ℕ) × σ
  | 0, a, s => ((none, a), s)
  | fuel + 1, a, s =>
    match next a s with
    | (none, s) => ((none, a), s)
    | (some (n, b), s) => if p n then ((some n, b), s) else walk next p fuel b s

/-- `while ((n = next(iter)) != 0) body(n);` with an accumulator.  The body's
Boolean is `false` when it leaves the loop. -/
def loop (next : Iter σ ν) (body : ν → α → σ → (α × Bool) × σ) : ℕ → ℕ → α → σ → α × σ
  | 0, _, x, s => (x, s)
  | fuel + 1, a, x, s =>
    match next a s with
    | (none, s) => (x, s)
    | (some (n, b), s) =>
      match body n x s with
      | ((x, true), s) => loop next body fuel b x s
      | ((x, false), s) => (x, s)

/-- The iterator that skips the records not satisfying `p`. -/
def Iter.filter (next : Iter σ ν) (p : ν → Bool) (fuel : ℕ) : Iter σ ν := fun a s =>
  match walk next p fuel a s with
  | ((some n, b), s) => (some (n, b), s)
  | ((none, _), s) => (none, s)

/-- Started at `a` in state `s`, the iterator yields exactly `ns` (each record with
the address after it), stops at `e`, and leaves the state alone. -/
inductive Chain (next : Iter σ ν) (s : σ) : ℕ → List (ν × ℕ) → ℕ → Prop where
  | nil {a : ℕ} (h : next a s = (none, s)) : Chain next s a [] a
  | cons {a b e : ℕ} {n : ν} {ns : List (ν × ℕ)} (h : next a s = (some (n, b), s))
      (tail : Chain next s b ns e) : Chain next s a ((n, b) :: ns) e

variable {next : Iter σ ν} {s : σ} {a e fuel : ℕ} {ns : List (ν × ℕ)}

/-- Searching a chain finds its first record satisfying `p`; otherwise the
iterator is left at the end of the list. -/
lemma walk_chain (h : Chain next s a ns e) (p : ν → Bool) (hf : ns.length < fuel) :
    walk next p fuel a s =
      (match ns.find? fun n => p n.1 with
        | some (n, b) => (some n, b)
        | none => (none, e), s) := by
  induction h generalizing fuel with
  | nil h =>
    cases fuel with
    | zero => simp at hf
    | succ fuel => simp [walk, h]
  | @cons a b e n ns h tail ih =>
    cases fuel with
    | zero => simp at hf
    | succ fuel =>
      have hlt : ns.length < fuel := by simpa using hf
      by_cases hp : p n
      · simp [walk, h, hp]
      · simp [walk, h, hp, ih hlt]

lemma walk_chain_none (h : Chain next s a ns e) {p : ν → Bool} (hf : ns.length < fuel)
    (hp : ∀ n ∈ ns, p n.1 = false) : walk next p fuel a s = ((none, e), s) := by
  have hnone : ns.find? (fun n => p n.1) = none := by
    simpa [List.find?_eq_none] using hp
  rw [walk_chain h p hf, hnone]

lemma walk_chain_some (pre : List (ν × ℕ)) {post : List (ν × ℕ)} {n : ν} {b : ℕ}
    (h : Chain next s a (pre ++ (n, b) :: post) e) {p : ν → Bool}
    (hf : (pre ++ (n, b) :: post).length < fuel) (hpre : ∀ x ∈ pre, p x.1 = false)
    (hp : p n = true) : walk next p fuel a s = ((some n, b), s) := by
  have hnone : pre.find? (fun n => p n.1) = none := by
    simpa [List.find?_eq_none] using hpre
  rw [walk_chain h p hf, List.find?_append, hnone]
  simp [hp]

lemma Chain.filter (h : Chain next s a ns e) (p : ν → Bool) (hf : ns.length < fuel) :
    ∃ e', Chain (next.filter p fuel) s a (ns.filter fun n => p n.1) e' := by
  induction h with
  | @nil a h =>
    refine ⟨a, ?_⟩
    have hw := walk_chain_none (Chain.nil h) (p := p) hf (by simp)
    exact Chain.nil (by simp [Iter.filter, hw])
  | @cons a b e n ns h tail ih =>
    have hlt : ns.length < fuel := by
      rw [List.length_cons] at hf
      omega
    obtain ⟨e', ih⟩ := ih hlt
    by_cases hp : p n
    · refine ⟨e', ?_⟩
      have hw : walk next p fuel a s = ((some n, b), s) :=
        walk_chain_some [] (Chain.cons h tail) hf (by simp) hp
      rw [List.filter_cons_of_pos (by simpa using hp)]
      exact Chain.cons (by simp [Iter.filter, hw]) ih
    · rw [List.filter_cons_of_neg (by simpa using hp)]
      -- skipping `n` is the same search started one record later
      have hw : next.filter p fuel a s = next.filter p fuel b s := by
        have h1 := walk_chain (Chain.cons h tail) p hf
        have h2 := walk_chain tail p hlt
        rw [List.find?_cons_of_neg (by simpa using hp)] at h1
        simp only [Iter.filter, h1, h2]
      generalize ns.filter (fun n => p n.1) = kept at ih ⊢
      cases ih with
      | nil hstop => exact ⟨a, Chain.nil (hw.trans hstop)⟩
      | cons hnext htail => exact ⟨_, Chain.cons (hw.trans hnext) htail⟩

/-- A loop whose body leaves the state alone and never breaks is a fold over
whatever `L` the records are computed from. -/
lemma loop_chain {γ : Type*} {L : List γ} {g : γ → ν × ℕ} (h : Chain next s a (L.map g) e)
    (body : ν → α → σ → (α × Bool) × σ) (f : α → γ → α)
    (hbody : ∀ l ∈ L, ∀ x, body (g l).1 x s = ((f x l, true), s)) (hf : L.length < fuel) (x : α) :
    loop next body fuel a x s = (L.foldl f x, s) := by
  induction L generalizing fuel a x with
  | nil =>
    cases fuel with
    | zero => simp at hf
    | succ fuel =>
      cases h with
      | nil h => simp [loop, h]
  | cons l L ih =>
    cases fuel with
    | zero => simp at hf
    | succ fuel =>
      have hlt : L.length < fuel := by simpa using hf
      have hb := hbody l (by simp) x
      have hrest := fun m (hm : m ∈ L) => hbody m (by simp [hm])
      rw [List.map_cons] at h
      rcases hg : g l with ⟨n, b⟩
      rw [hg] at h hb
      cases h with
      | cons hnext htail =>
        simp only [loop, hnext, hb, List.foldl_cons]
        exact ih htail hrest hlt _

/-- The invariant rule for a loop that changes what it walks over.  `I gs a x s`
holds with the records `gs` still to be visited from address `a`; each turn either
continues with one record fewer or breaks with the postcondition. -/
lemma loop_rule {γ : Type*} {body : ν → α → σ → (α × Bool) × σ}
    (I : List γ → ℕ → α → σ → Prop) (Post : α → σ → Prop)
    (done : ∀ a x s, I [] a x s → next a s = (none, s) ∧ Post x s)
    (step : ∀ g gs a x s, I (g :: gs) a x s → ∃ n b, next a s = (some (n, b), s) ∧
      ((body n x s).1.2 = true ∧ I gs b (body n x s).1.1 (body n x s).2 ∨
        (body n x s).1.2 = false ∧ Post (body n x s).1.1 (body n x s).2))
    {gs : List γ} {fuel a : ℕ} {x : α} {s : σ} (hf : gs.length < fuel) (hI : I gs a x s) :
    Post (loop next body fuel a x s).1 (loop next body fuel a x s).2 := by
  induction gs generalizing fuel a x s with
  | nil =>
    obtain ⟨hn, hp⟩ := done a x s hI
    cases fuel with
    | zero => simp at hf
    | succ fuel => simpa [loop, hn] using hp
  | cons g gs ih =>
    obtain ⟨n, b, hn, hstep⟩ := step g gs a x s hI
    cases fuel with
    | zero => simp at hf
    | succ fuel =>
      have hlt : gs.length < fuel := by simpa using hf
      rcases hbody : body n x s with ⟨⟨x', c⟩, s'⟩
      simp only [hbody] at hstep
      rcases hstep with ⟨rfl, hI'⟩ | ⟨rfl, hpost⟩
      · simpa only [loop, hn, hbody] using ih hlt hI'
      · simpa only [loop, hn, hbody] using hpost

end Walk

end RfTpm.Packed
