import Mathlib.Logic.Basic

/-!
# Computations That Fail and Keep Their Effects

Go functions of the engine mutate shared maps and hosts and return an `error`; an error
does not roll back what was already done ("prior successful mutations remain reflected
in `currentState`"). `Exec σ α` models such a function: from a state it computes either a
value or an error message, together with the state it leaves behind in both cases.

Every Go function of the model is written in `do` notation over `Exec`; the lemmas here
say how one step of such a block runs, so that later proofs never unfold the monad.
Four kinds of statement are built from them, one rule per monad operation: what every
run keeps (`Stable`), which states every run stays among (`Preserves`), what a run from a
good state returns and leaves (`Triple`), and how a run that returns a value is carried to
another start (`Transports`).
-/

namespace Flexkube

/-- Runs of the model are compared by `decide`: equality of `Except` values is decidable. -/
instance exceptDecidableEq {ε α : Type} [DecidableEq ε] [DecidableEq α] : DecidableEq (Except ε α)
  | .ok a, .ok b => decidable_of_iff (a = b) ⟨congrArg _, Except.ok.inj⟩
  | .error a, .error b => decidable_of_iff (a = b) ⟨congrArg _, Except.error.inj⟩
  | .ok _, .error _ => isFalse fun h => Except.noConfusion h
  | .error _, .ok _ => isFalse fun h => Except.noConfusion h

/-- A Go function over the state `σ`: a value or an error, and the state left behind. -/
def Exec (σ α : Type) := σ → Except String α × σ

namespace Exec

variable {σ α β : Type}

instance : Monad (Exec σ) where
  pure a := fun s => (.ok a, s)
  bind x f := fun s => match x s with
    | (.ok a, s') => f a s'
    | (.error e, s') => (.error e, s')

/-- Read the state. -/
def get : Exec σ σ := fun s => (.ok s, s)

/-- Change the state. -/
def modify (f : σ → σ) : Exec σ Unit := fun s => (.ok (), f s)

/-- Return an error, keeping the state. -/
def fail (e : String) : Exec σ α := fun s => (.error e, s)

/-- Go's `fmt.Errorf(msg + "%w", err)`: prefix the error of `x`, if any. -/
def wrap (msg : String) (x : Exec σ α) : Exec σ α := fun s => match x s with
  | (.ok a, s') => (.ok a, s')
  | (.error e, s') => (.error (msg ++ e), s')

/-! ## Running one step -/

@[simp] theorem bind_apply (x : Exec σ α) (f : α → Exec σ β) (s : σ) :
    (x >>= f) s = match x s with
      | (.ok a, s') => f a s'
      | (.error e, s') => (.error e, s') := rfl

@[simp] theorem pure_apply (a : α) (s : σ) : (pure a : Exec σ α) s = (.ok a, s) := rfl

@[simp] theorem get_apply (s : σ) : (get : Exec σ σ) s = (.ok s, s) := rfl

@[simp] theorem modify_apply (f : σ → σ) (s : σ) : modify f s = (.ok (), f s) := rfl

@[simp] theorem fail_apply (e : String) (s : σ) : (fail e : Exec σ α) s = (.error e, s) := rfl

@[simp] theorem wrap_apply (msg : String) (x : Exec σ α) (s : σ) :
    wrap msg x s = match x s with
      | (.ok a, s') => (.ok a, s')
      | (.error e, s') => (.error (msg ++ e), s') := rfl

@[simp] theorem ite_apply (c : Prop) [Decidable c] (x y : Exec σ α) (s : σ) :
    (if c then x else y) s = if c then x s else y s := by
  split <;> rfl

/-- `wrap` changes no state and keeps success: it only renames the error. -/
theorem wrap_snd (msg : String) (x : Exec σ α) (s : σ) : (wrap msg x s).2 = (x s).2 := by
  simp only [wrap_apply]; split <;> simp_all

theorem wrap_ok {msg : String} {x : Exec σ α} {s s' : σ} {a : α} :
    wrap msg x s = (.ok a, s') ↔ x s = (.ok a, s') := by
  simp only [wrap_apply]; split <;> simp_all

/-- A block that returns a value ran its first step to a value. -/
theorem bind_eq_ok {x : Exec σ α} {f : α → Exec σ β} {s s'' : σ} {b : β}
    (h : (x >>= f) s = (.ok b, s'')) : ∃ a s', x s = (.ok a, s') ∧ f a s' = (.ok b, s'') := by
  rw [bind_apply] at h
  rcases hx : x s with ⟨_ | a, s'⟩ <;> rw [hx] at h
  · cases h
  · exact ⟨a, s', rfl, h⟩

/-- What holds where a block ends holds where its first step failed, or where the rest
ended from where the first step returned. -/
theorem bind_snd {P : σ → Prop} {x : Exec σ α} {f : α → Exec σ β} {s : σ} (h : P ((x >>= f) s).2) :
    (∃ e, (x s).1 = .error e ∧ P (x s).2) ∨ ∃ a s', x s = (.ok a, s') ∧ P (f a s').2 := by
  rw [bind_apply] at h
  rcases hx : x s with ⟨_ | a, s'⟩ <;> rw [hx] at h
  · exact .inl ⟨_, rfl, h⟩
  · exact .inr ⟨a, s', rfl, h⟩

/-- The converse: what holds where the first step fails, and where the rest ends from every
state the first step returns in, holds where the block ends. -/
theorem bind_snd_of {P : σ → Prop} {x : Exec σ α} {f : α → Exec σ β} {s : σ}
    (hx : ∀ e, (x s).1 = .error e → P (x s).2) (hf : ∀ a s', x s = (.ok a, s') → P (f a s').2) :
    P ((x >>= f) s).2 := by
  rw [bind_apply]
  rcases h : x s with ⟨_ | a, s'⟩
  · simpa [h] using hx _ (by rw [h])
  · exact hf a s' h

/-! ## What every run keeps -/

/-- Every run of `x`, failed runs included, ends in a state related by `R` to the one it
started from. -/
def Stable (R : σ → σ → Prop) (x : Exec σ α) : Prop := ∀ s, R s (x s).2

namespace Stable

variable {R : σ → σ → Prop} {x : Exec σ α}

/-- The relation between the states of a run that ended with `res`. -/
theorem frame (hx : Stable R x) {s s' : σ} {res : Except String α} (h : x s = (res, s')) :
    R s s' := by
  simpa [h] using hx s

theorem pure (hrefl : ∀ s, R s s) (a : α) : Stable R (Pure.pure a : Exec σ α) := hrefl

theorem get (hrefl : ∀ s, R s s) : Stable R (Exec.get : Exec σ σ) := hrefl

theorem fail (hrefl : ∀ s, R s s) (e : String) : Stable R (Exec.fail e : Exec σ α) := hrefl

theorem modify {f : σ → σ} (hf : ∀ s, R s (f s)) : Stable R (Exec.modify f) := hf

theorem bind (htrans : ∀ s₁ s₂ s₃, R s₁ s₂ → R s₂ s₃ → R s₁ s₃) {f : α → Exec σ β}
    (hx : Stable R x) (hf : ∀ a, Stable R (f a)) : Stable R (x >>= f) := fun s => by
  simp only [bind_apply]
  split <;> rename_i h
  · exact htrans _ _ _ (hx.frame h) (hf _ _)
  · exact hx.frame h

theorem forM (hrefl : ∀ s, R s s) (htrans : ∀ s₁ s₂ s₃, R s₁ s₂ → R s₂ s₃ → R s₁ s₃)
    {β : Type} {f : β → Exec σ Unit} (hf : ∀ b, Stable R (f b)) :
    ∀ l : List β, Stable R (l.forM f)
  | [] => pure hrefl ()
  | b :: l => bind htrans (hf b) fun _ => forM hrefl htrans hf l

theorem wrap (msg : String) (hx : Stable R x) : Stable R (Exec.wrap msg x) := fun s => by
  rw [wrap_snd]; exact hx s

theorem ite {c : Prop} [Decidable c] {y : Exec σ α} (hx : Stable R x) (hy : Stable R y) :
    Stable R (if c then x else y) := by
  split <;> assumption

end Stable

/-- Every run of `x` from a state satisfying `I`, failed runs included, ends in a state
satisfying `I`. Unlike `Stable`, the rest of a block may rely on `I` of the state it read. -/
def Preserves (I : σ → Prop) (x : Exec σ α) : Prop := ∀ s, I s → I (x s).2

namespace Preserves

variable {I : σ → Prop} {x : Exec σ α}

theorem pure (a : α) : Preserves I (Pure.pure a : Exec σ α) := fun _ h => h

theorem fail (e : String) : Preserves I (Exec.fail e : Exec σ α) := fun _ h => h

theorem modify {f : σ → σ} (hf : ∀ s, I s → I (f s)) : Preserves I (Exec.modify f) := hf

/-- A block whose first step keeps `I` from the one state it starts in. -/
theorem bind_at {f : α → Exec σ β} {s : σ} (hx : I (x s).2) (hf : ∀ a, Preserves I (f a)) :
    I ((x >>= f) s).2 := by
  rw [bind_apply]
  rcases h : x s with ⟨_ | a, s'⟩ <;> rw [h] at hx
  · exact hx
  · exact hf a s' hx

theorem bind {f : α → Exec σ β} (hx : Preserves I x) (hf : ∀ a, Preserves I (f a)) :
    Preserves I (x >>= f) := fun s hs => bind_at (hx s hs) hf

/-- Reading the state: the rest of the block may assume `I` of what it read. -/
theorem get_bind {g : σ → Exec σ β} (hg : ∀ s, I s → Preserves I (g s)) :
    Preserves I (Exec.get >>= g) := fun s hs => hg s hs s hs

theorem wrap (msg : String) (hx : Preserves I x) : Preserves I (Exec.wrap msg x) := fun s hs => by
  rw [wrap_snd]; exact hx s hs

theorem ite {c : Prop} [Decidable c] {y : Exec σ α} (hx : Preserves I x) (hy : Preserves I y) :
    Preserves I (if c then x else y) := by
  split <;> assumption

/-- A function that never changes the state. -/
theorem of_snd (hx : ∀ s, (x s).2 = s) : Preserves I x := fun s hs => by rw [hx]; exact hs

theorem and {J : σ → Prop} (hI : Preserves I x) (hJ : Preserves J x) :
    Preserves (fun s => I s ∧ J s) x := fun s h => ⟨hI s h.1, hJ s h.2⟩

end Preserves

/-! ## Runs that succeed -/

/-- From a state satisfying `P`, `x` returns a value, with no error, and `Q` holds of the
value and of the state it leaves. -/
def Triple (P : σ → Prop) (x : Exec σ α) (Q : α → σ → Prop) : Prop :=
  ∀ s, P s → ∃ a, (x s).1 = .ok a ∧ Q a (x s).2

namespace Triple

variable {P P' : σ → Prop} {Q Q' : α → σ → Prop} {x : Exec σ α}

theorem pure {a : α} (h : ∀ s, P s → Q a s) : Triple P (Pure.pure a) Q :=
  fun s hs => ⟨a, rfl, h s hs⟩

theorem modify {f : σ → σ} {Q : Unit → σ → Prop} (h : ∀ s, P s → Q () (f s)) :
    Triple P (Exec.modify f) Q :=
  fun s hs => ⟨(), rfl, h s hs⟩

theorem get {Q : σ → σ → Prop} (h : ∀ s, P s → Q s s) : Triple P Exec.get Q :=
  fun s hs => ⟨s, rfl, h s hs⟩

theorem bind {R : β → σ → Prop} {f : α → Exec σ β} (hx : Triple P x Q)
    (hf : ∀ a, Triple (Q a) (f a) R) : Triple P (x >>= f) R := fun s hs => by
  obtain ⟨a, ha, hq⟩ := hx s hs
  obtain ⟨b, hb, hr⟩ := hf a _ hq
  have hxs : x s = (.ok a, (x s).2) := Prod.ext ha rfl
  exact ⟨b, by rw [bind_apply, hxs]; exact hb, by rw [bind_apply, hxs]; exact hr⟩

theorem wrap (msg : String) (hx : Triple P x Q) : Triple P (Exec.wrap msg x) Q := fun s hs => by
  obtain ⟨a, ha, hq⟩ := hx s hs
  have hxs : x s = (.ok a, (x s).2) := Prod.ext ha rfl
  exact ⟨a, by rw [wrap_apply, hxs], by rw [wrap_snd]; exact hq⟩

theorem conseq (hx : Triple P x Q) (hp : ∀ s, P' s → P s) (hq : ∀ a s, Q a s → Q' a s) :
    Triple P' x Q' := fun s hs => by
  obtain ⟨a, ha, h⟩ := hx s (hp s hs)
  exact ⟨a, ha, hq a _ h⟩

/-- A precondition that does not depend on the state can be assumed. -/
theorem of_prop {A : Prop} (h : A → Triple P x Q) : Triple (fun s => A ∧ P s) x Q :=
  fun s hs => h hs.1 s hs.2

/-- The frame rule: what every run keeps by `R`, and `M` survives `R`, survives `x`. -/
theorem frame {R : σ → σ → Prop} {M : σ → Prop} (hx : Triple P x Q) (hs : Stable R x)
    (hM : ∀ s s', M s → R s s' → M s') : Triple (fun s => P s ∧ M s) x (fun a s => Q a s ∧ M s) :=
  fun s hs' => by
    obtain ⟨a, ha, hq⟩ := hx s hs'.1
    exact ⟨a, ha, hq, hM s _ hs'.2 (hs s)⟩

theorem ite {c : Prop} [Decidable c] {y : Exec σ α} (hx : c → Triple P x Q)
    (hy : ¬c → Triple P y Q) : Triple P (if c then x else y) Q := by
  split
  · exact hx ‹_›
  · exact hy ‹_›

end Triple

/-! ## Runs that succeed, carried to another start -/

/-- A run of `x` that returns a value is carried along `e`: from `e s`, `x` returns the
same value and ends in `e` of the state the first run ended in. -/
def Transports (e : σ → σ) (x : Exec σ α) : Prop :=
  ∀ s a s', x s = (.ok a, s') → x (e s) = (.ok a, e s')

namespace Transports

variable {e : σ → σ} {x : Exec σ α}

theorem pure (a : α) : Transports e (Pure.pure a : Exec σ α) := fun _ _ _ h => by
  cases h; rfl

theorem fail (msg : String) : Transports e (Exec.fail msg : Exec σ α) := fun _ _ _ h => by
  cases h

theorem modify {f : σ → σ} (hf : ∀ s, f (e s) = e (f s)) : Transports e (Exec.modify f) :=
  fun s _ _ h => by cases h; rw [modify_apply, hf]

theorem bind {f : α → Exec σ β} (hx : Transports e x) (hf : ∀ a, Transports e (f a)) :
    Transports e (x >>= f) := fun s b s'' h => by
  rw [bind_apply] at h ⊢
  rcases hxs : x s with ⟨_ | a, s'⟩ <;> rw [hxs] at h
  · cases h
  · rw [hx s a s' hxs]; exact hf a s' b s'' h

/-- Reading the state: the rest of the block must not tell `s` from `e s`. -/
theorem get_bind {g : σ → Exec σ β} (hg : ∀ s, g (e s) = g s) (hf : ∀ s, Transports e (g s)) :
    Transports e (Exec.get >>= g) := fun s b s' h => by
  show g (e s) (e s) = _
  rw [hg]; exact hf s s b s' h

theorem wrap (msg : String) (hx : Transports e x) : Transports e (Exec.wrap msg x) :=
  fun s a s' h => by rw [wrap_ok] at h ⊢; exact hx s a s' h

theorem ite {c : Prop} [Decidable c] {y : Exec σ α} (hx : Transports e x) (hy : Transports e y) :
    Transports e (if c then x else y) := by
  split <;> assumption

end Transports

/-! ## Runs that fail, set against the run from another start -/

/-- A run of `x` that fails ends in a state that `L` relates to the state the run of `x`
from `e s` ends in. -/
def Aborts (e : σ → σ) (L : σ → σ → Prop) (x : Exec σ α) : Prop :=
  ∀ s err s', x s = (.error err, s') → L s' (x (e s)).2

namespace Aborts

variable {e : σ → σ} {L : σ → σ → Prop} {x : Exec σ α}

theorem pure (a : α) : Aborts e L (Pure.pure a : Exec σ α) := fun _ _ _ h => by cases h

theorem fail (hL : ∀ s, L s (e s)) (msg : String) : Aborts e L (Exec.fail msg : Exec σ α) :=
  fun s _ _ h => by cases h; exact hL s

theorem modify (f : σ → σ) : Aborts e L (Exec.modify f) := fun _ _ _ h => by cases h

/-- A block fails where its first step failed, before the rest, which only moves along `L`,
ran from `e s`; or where the rest failed after a first step that `Transports`. -/
theorem bind (htrans : ∀ s₁ s₂ s₃, L s₁ s₂ → L s₂ s₃ → L s₁ s₃) {f : α → Exec σ β}
    (hx : Aborts e L x) (htx : Transports e x) (hf : ∀ a, Aborts e L (f a))
    (hmono : ∀ a, Stable L (f a)) : Aborts e L (x >>= f) := fun s err s'' h => by
  rw [bind_apply] at h ⊢
  rcases hxs : x s with ⟨_ | a, s'⟩ <;> rw [hxs] at h
  · cases h
    have hl := hx s _ _ hxs
    rcases hxe : x (e s) with ⟨_ | b, t⟩ <;> rw [hxe] at hl
    · exact hl
    · exact htrans _ _ _ hl (hmono b t)
  · rw [htx s a s' hxs]
    exact hf a s' err s'' h

/-- Reading the state: the rest of the block must not tell `s` from `e s`. -/
theorem get_bind {g : σ → Exec σ β} (hg : ∀ s, g (e s) = g s) (hf : ∀ s, Aborts e L (g s)) :
    Aborts e L (Exec.get >>= g) := fun s err s' h => by
  show L s' (g (e s) (e s)).2
  rw [hg]
  exact hf s s err s' h

theorem wrap (msg : String) (hx : Aborts e L x) : Aborts e L (Exec.wrap msg x) := fun s err s' h => by
  rw [wrap_snd]
  rw [wrap_apply] at h
  rcases hxs : x s with ⟨_ | a, t⟩ <;> rw [hxs] at h <;> cases h
  exact hx s _ _ hxs

theorem ite {c : Prop} [Decidable c] {y : Exec σ α} (hx : Aborts e L x) (hy : Aborts e L y) :
    Aborts e L (if c then x else y) := by
  split <;> assumption

end Aborts

end Exec

end Flexkube
