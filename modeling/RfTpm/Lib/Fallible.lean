import Mathlib

/-!
# Computations that change a state and may stop

A `Fallible` computation returns a value or stops with an error, and in both cases leaves
the state it has reached: what was done before the error is not undone.  A successful
computation is taken apart with `bind_ok` and its companions.  `Keeps` says that a relation
holds between the state before and the state after, however the computation ends; for a
reflexive and transitive relation it follows from its parts.
-/

namespace RfTpm

/-- A computation over the states `σ` with errors `ε`. -/
def Fallible (ε σ α : Type) : Type := σ → Except ε α × σ

namespace Fallible

variable {ε σ α β : Type}

instance : Monad (Fallible ε σ) where
  pure a := fun s => (.ok a, s)
  bind x f := fun s =>
    match x s with
    | (.ok a, s') => f a s'
    | (.error e, s') => (.error e, s')

/-- Stop with an error. -/
def stop (e : ε) : Fallible ε σ α := fun s => (.error e, s)

/-- Stop with an error if a condition holds. -/
def stopIf (c : Prop) [Decidable c] (e : ε) : Fallible ε σ Unit := if c then stop e else pure ()

/-- A value read from the state. -/
def gets (f : σ → α) : Fallible ε σ α := fun s => (.ok (f s), s)

/-- A change of the state. -/
def modify (f : σ → σ) : Fallible ε σ Unit := fun s => (.ok (), f s)

/-- A step that always returns. -/
def run (f : σ → α × σ) : Fallible ε σ α := fun s => (.ok (f s).1, (f s).2)

/-- An outcome that is already there. -/
def ofExcept (x : Except ε α) : Fallible ε σ α := fun s => (x, s)

/-- Replace the error of a computation. -/
def mapError (f : ε → ε) (x : Fallible ε σ α) : Fallible ε σ α := fun s =>
  ((x s).1.mapError f, (x s).2)

/-! ## Sequences -/

lemma bind_apply (x : Fallible ε σ α) (f : α → Fallible ε σ β) (s : σ) :
    (x >>= f) s = match x s with
      | (.ok a, s') => f a s'
      | (.error e, s') => (.error e, s') := rfl

lemma pure_apply (a : α) (s : σ) : (pure a : Fallible ε σ α) s = (.ok a, s) := rfl

lemma gets_bind (f : σ → α) (k : α → Fallible ε σ β) (s : σ) :
    (gets f >>= k) s = k (f s) s := rfl

lemma modify_bind (f : σ → σ) (k : Unit → Fallible ε σ β) (s : σ) :
    (modify f >>= k) s = k () (f s) := rfl

variable {c : Prop} {x : Fallible ε σ α}

lemma stopIf_bind_of [Decidable c] (hc : c) (e : ε) (k : Unit → Fallible ε σ β) (s : σ) :
    (stopIf c e >>= k) s = (.error e, s) := by
  rw [stopIf, if_pos hc]
  rfl

lemma stopIf_bind_of_not [Decidable c] (hc : ¬c) (e : ε) (k : Unit → Fallible ε σ β) (s : σ) :
    (stopIf c e >>= k) s = k () s := by
  rw [stopIf, if_neg hc]
  rfl

lemma snd_bind_pure (x : Fallible ε σ α) (b : β) (s : σ) :
    ((x >>= fun _ => pure b) s).2 = (x s).2 := by
  rw [bind_apply]
  cases hx : x s with
  | mk outcome s' => cases outcome <;> rfl

lemma id_map_eq (x : Fallible ε σ α) : id <$> x = x := by
  funext s
  change (match x s with
    | (.ok a, s') => (.ok (id a), s')
    | (.error e, s') => (.error e, s')) = x s
  split
  · case _ h => exact h.symm
  · case _ h => exact h.symm

lemma bind_assoc_eq {γ : Type} (x : Fallible ε σ α) (f : α → Fallible ε σ β)
    (g : β → Fallible ε σ γ) : x >>= f >>= g = x >>= fun a => f a >>= g := by
  funext s
  simp only [bind_apply]
  cases hx : x s with
  | mk outcome s' => cases outcome <;> rfl

instance : LawfulMonad (Fallible ε σ) :=
  LawfulMonad.mk' _ id_map_eq (fun _ _ => rfl) bind_assoc_eq

lemma mapError_bind (h : ε → ε) (x : Fallible ε σ α) (f : α → Fallible ε σ β) :
    (x >>= f).mapError h = x.mapError h >>= fun a => (f a).mapError h := by
  funext s
  simp only [mapError, bind_apply]
  cases hx : x s with
  | mk outcome s' => cases outcome <;> rfl

@[simp]
lemma mapError_pure (h : ε → ε) (a : α) :
    (pure a : Fallible ε σ α).mapError h = pure a := rfl

/-! ## What a successful computation has done -/

section Success

variable {s s' : σ} {a a' : α} {b : β} {u : Unit}

variable {x : Fallible ε σ α} {f : α → Fallible ε σ β}

lemma bind_ok (h : (x >>= f) s = (.ok b, s')) :
    ∃ a s₁, x s = (.ok a, s₁) ∧ f a s₁ = (.ok b, s') := by
  change (match x s with
    | (.ok a, s') => f a s'
    | (.error e, s') => (.error e, s')) = _ at h
  split at h
  case h_1 a s₁ hx => exact ⟨a, s₁, hx, h⟩
  case h_2 e s₁ hx => cases h

lemma bind_of_ok (h : x s = (.ok a, s')) : (x >>= f) s = f a s' := by
  change (match x s with
    | (.ok a, s') => f a s'
    | (.error e, s') => (.error e, s')) = _
  rw [h]

lemma bind_of_error {e : ε} (h : x s = (.error e, s')) : (x >>= f) s = (.error e, s') := by
  rw [bind_apply, h]

lemma pure_ok (h : (pure a : Fallible ε σ α) s = (.ok a', s')) : a = a' ∧ s = s' :=
  ⟨Except.ok.inj (congrArg Prod.fst h), congrArg Prod.snd h⟩

lemma stopIf_ok {c : Prop} [Decidable c] {e : ε} (h : stopIf c e s = (.ok u, s')) :
    ¬c ∧ s = s' := by
  unfold stopIf at h
  split at h
  · cases h
  · exact ⟨‹¬c›, (pure_ok h).2⟩

lemma gets_ok {f : σ → α} (h : (gets f : Fallible ε σ α) s = (.ok a, s')) :
    f s = a ∧ s = s' :=
  ⟨Except.ok.inj (congrArg Prod.fst h), congrArg Prod.snd h⟩

lemma modify_ok {f : σ → σ} (h : (modify f : Fallible ε σ Unit) s = (.ok u, s')) : f s = s' :=
  congrArg Prod.snd h

lemma run_ok {f : σ → α × σ} (h : (run f : Fallible ε σ α) s = (.ok a, s')) : f s = (a, s') := by
  obtain ⟨hfst, hsnd⟩ := Prod.mk.inj h
  exact Prod.ext (Except.ok.inj hfst) hsnd

lemma ofExcept_ok {x : Except ε α} (h : ofExcept x s = (.ok a, s')) : x = .ok a ∧ s = s' :=
  ⟨congrArg Prod.fst h, congrArg Prod.snd h⟩

lemma mapError_ok {f : ε → ε} (h : x.mapError f s = (.ok a, s')) : x s = (.ok a, s') := by
  obtain ⟨hfst, hsnd⟩ := Prod.mk.inj h
  cases hx : x s with
  | mk outcome s₁ =>
    rw [hx] at hfst hsnd
    cases outcome with
    | error e => cases hfst
    | ok a' =>
      obtain rfl : a' = a := by simpa [Except.mapError] using hfst
      rw [← hsnd]

end Success

/-! ## Computations that do not stop -/

/-- The computation returns a value from every state. -/
def Returns (x : Fallible ε σ α) : Prop := ∀ s, ∃ a s', x s = (.ok a, s')

lemma returns_pure (a : α) : Returns (pure a : Fallible ε σ α) := fun s => ⟨a, s, rfl⟩

lemma returns_gets (f : σ → α) : Returns (gets f : Fallible ε σ α) := fun s => ⟨f s, s, rfl⟩

lemma returns_run (f : σ → α × σ) : Returns (run f : Fallible ε σ α) :=
  fun s => ⟨(f s).1, (f s).2, rfl⟩

lemma returns_ite [Decidable c] {y : Fallible ε σ α} (hx : Returns x) (hy : Returns y) :
    Returns (if c then x else y) := by
  split
  · exact hx
  · exact hy

lemma returns_bind {f : α → Fallible ε σ β} (hx : Returns x) (hf : ∀ a, Returns (f a)) :
    Returns (x >>= f) := by
  intro s
  obtain ⟨a, s₁, h⟩ := hx s
  obtain ⟨b, s₂, h'⟩ := hf a s₁
  exact ⟨b, s₂, (bind_of_ok h).trans h'⟩

lemma Returns.mapError_eq (hx : Returns x) (f : ε → ε) : x.mapError f = x := by
  funext s
  obtain ⟨a, s', h⟩ := hx s
  rw [mapError, h]
  rfl

/-! ## The errors of a computation -/

/-- The errors with which the computation stops are among `E`. -/
def Stops (E : ε → Prop) (x : Fallible ε σ α) : Prop := ∀ s e s', x s = (.error e, s') → E e

section Stops

variable {E : ε → Prop} {x : Fallible ε σ α}

lemma Returns.stops (hx : Returns x) : Stops E x := by
  intro s e s' h
  obtain ⟨a, s₁, hok⟩ := hx s
  cases hok.symm.trans h

lemma stops_bind {f : α → Fallible ε σ β} (hx : Stops E x) (hf : ∀ a, Stops E (f a)) :
    Stops E (x >>= f) := by
  intro s e s' h
  rw [bind_apply] at h
  split at h
  case h_1 a s₁ heq => exact hf a s₁ e s' h
  case h_2 e₁ s₁ heq =>
    cases h
    exact hx s _ _ heq

lemma stops_ofExcept {x : Except ε α} (h : ∀ e, x = .error e → E e) :
    Stops E (ofExcept x : Fallible ε σ α) :=
  fun _ e _ heq => h e (congrArg Prod.fst heq)

lemma stops_stopIf {c : Prop} [Decidable c] {e : ε} (h : c → E e) :
    Stops E (stopIf c e : Fallible ε σ Unit) := by
  intro s e' s' heq
  unfold stopIf at heq
  split at heq
  · cases heq
    exact h ‹c›
  · cases heq

end Stops

/-! ## What every computation keeps -/

/-- However the computation ends, the state after it is related to the state before. -/
def Keeps (R : σ → σ → Prop) (x : Fallible ε σ α) : Prop := ∀ s, R s (x s).2

section Keeps

variable {R : σ → σ → Prop}

variable {x : Fallible ε σ α} {f : α → Fallible ε σ β}

lemma Keeps.of_run (h : Keeps R x) {s s' : σ} {o : Except ε α} (hrun : x s = (o, s')) :
    R s s' := by
  have hs := h s
  rwa [hrun] at hs

lemma keeps_mapError {f : ε → ε} (h : Keeps R x) : Keeps R (x.mapError f) := h

lemma keeps_ite {c : Prop} [Decidable c] {y : Fallible ε σ α} (hx : Keeps R x) (hy : Keeps R y) :
    Keeps R (if c then x else y) := by
  split
  · exact hx
  · exact hy

lemma bind_of_reads {s : σ} (hrefl : R s s) (hx : (x s).2 = s)
    (hf : ∀ a, x s = (.ok a, s) → R s (f a s).2) : R s ((x >>= f) s).2 := by
  rw [bind_apply]
  split
  case h_1 a s₁ heq =>
    rw [heq] at hx
    obtain rfl : s₁ = s := hx
    exact hf a heq
  case h_2 e s₁ heq =>
    rw [heq] at hx
    obtain rfl : s₁ = s := hx
    exact hrefl

variable [IsPreorder σ R]

lemma keeps_of_eq (h : ∀ s, (x s).2 = s) : Keeps R x := by
  intro s
  rw [h s]
  exact refl s

lemma keeps_pure (a : α) : Keeps R (pure a : Fallible ε σ α) := keeps_of_eq fun _ => rfl

lemma keeps_stop (e : ε) : Keeps R (stop e : Fallible ε σ α) := keeps_of_eq fun _ => rfl

lemma keeps_stopIf (c : Prop) [Decidable c] (e : ε) :
    Keeps R (stopIf c e : Fallible ε σ Unit) := by
  unfold stopIf
  split
  · exact keeps_stop e
  · exact keeps_pure ()

lemma keeps_gets (f : σ → α) : Keeps R (gets f : Fallible ε σ α) := keeps_of_eq fun _ => rfl

lemma keeps_ofExcept (x : Except ε α) : Keeps R (ofExcept x : Fallible ε σ α) :=
  keeps_of_eq fun _ => rfl

lemma keeps_bind_ok (hx : Keeps R x) (hf : ∀ s a s₁, x s = (.ok a, s₁) → R s₁ (f a s₁).2) :
    Keeps R (x >>= f) := by
  intro s
  rw [bind_apply]
  split
  case h_1 a s₁ heq => exact IsTrans.trans _ _ _ (hx.of_run heq) (hf s a s₁ heq)
  case h_2 e s₁ heq => exact hx.of_run heq

lemma keeps_bind (hx : Keeps R x) (hf : ∀ a, Keeps R (f a)) : Keeps R (x >>= f) :=
  keeps_bind_ok hx fun _ a s₁ _ => hf a s₁

end Keeps

end Fallible

end RfTpm
