import Mathlib.Control.Monad.Basic
import Mathlib.Tactic.Lemma
import Polysql.Evaluation.Outcome
/-!
Computations that may fail, taken step by step: what follows a value goes on with it, and what
follows an error is that error.
-/

namespace Polysql

universe u

section

variable {ε α β : Type u}

@[simp] lemma ok_bind (a : α) (f : α → Except ε β) : (Except.ok a >>= f) = f a := rfl

@[simp] lemma error_bind (e : ε) (f : α → Except ε β) :
    (Except.error e >>= f) = Except.error e := rfl

@[simp] lemma ok_map (f : α → β) (a : α) :
    Except.map f (Except.ok a : Except ε α) = Except.ok (f a) := rfl

@[simp] lemma error_map (f : α → β) (e : ε) :
    Except.map f (Except.error e : Except ε α) = Except.error e := rfl

@[simp] lemma map_eq_map (f : α → β) (x : Except ε α) : f <$> x = x.map f := rfl

/-- A result that is there. -/
lemma exists_of_isOk {x : Except ε α} (h : x.isOk = true) : ∃ a, x = .ok a := by
  cases x with
  | error e => cases h
  | ok a => exact ⟨a, rfl⟩

lemma map_eq_ok_iff {f : α → β} {x : Except ε α} {b : β} :
    x.map f = .ok b ↔ ∃ a, x = .ok a ∧ f a = b := by
  cases x with
  | error e => exact ⟨nofun, fun ⟨_, h, _⟩ => nomatch h⟩
  | ok a => simp

end

/-! ### What may be refused, as part of an evaluation -/

namespace Evaluated

variable {α β : Type}

@[simp] lemma ofExcept_ok (a : α) : Evaluated.ofExcept (.ok a) = .ok a := rfl

@[simp] lemma ofExcept_pure (a : α) : Evaluated.ofExcept (pure a) = .ok a := rfl

@[simp] lemma ofExcept_error (e : Error) :
    (Evaluated.ofExcept (.error e) : Evaluated α) = .error (.refused e) := rfl

lemma ofExcept_bind (x : Except Error α) (f : α → Except Error β) :
    Evaluated.ofExcept (x >>= f) = (.ofExcept x >>= fun a => .ofExcept (f a)) := by
  cases x <;> rfl

end Evaluated

/-! ### Lists of results -/

/-- Results of a list depend on its elements only. -/
lemma mapM_congr_left {ε α β : Type} {f g : α → Except ε β} {as : List α}
    (h : ∀ a ∈ as, f a = g a) : as.mapM f = as.mapM g := by
  induction as with
  | nil => rw [List.mapM_nil, List.mapM_nil]
  | cons a as ih =>
    obtain ⟨ha, has⟩ := List.forall_mem_cons.mp h
    rw [List.mapM_cons, List.mapM_cons, ha, ih has]

/-- Results that are all there. -/
lemma mapM_eq_ok {ε α β : Type} {f : α → Except ε β} {g : α → β} {as : List α}
    (h : ∀ a ∈ as, f a = .ok (g a)) : as.mapM f = .ok (as.map g) := by
  rw [mapM_congr_left h]
  change (as.mapM fun a => (pure (g a) : Except ε β)) = _
  rw [List.mapM_pure]
  rfl

/-- A function of every result of a list. -/
lemma mapM_map_right {ε α β γ : Type} (f : α → Except ε β) (g : β → γ) (as : List α) :
    (as.mapM fun a => (f a).map g) = (as.mapM f).map (List.map g) := by
  induction as with
  | nil => rfl
  | cons a as ih =>
    rw [List.mapM_cons, List.mapM_cons, ih]
    cases f a <;> cases as.mapM f <;> rfl

end Polysql
