import Mathlib.Tactic.Common

/-! # Programs that change something in its place

A program works on a state that others see too.  A change is made at once and stays made if the
program ends with an error later, so what a failed program leaves is not what it has found unless
this is proved.  `InPlace.outcome` is the result together with the state that is left, and the laws
below say how it comes about step by step. -/

namespace JsonPatch

/-- A program that changes a state in its place, and may end with an error. -/
abbrev InPlace (ε σ α : Type) := ExceptT ε (StateM σ) α

namespace InPlace

variable {ε ε' σ α β : Type}

/-- The result of a program and the state that it leaves. -/
def outcome (p : InPlace ε σ α) (s : σ) : Except ε α × σ :=
  p.run s

@[simp] theorem outcome_pure (a : α) (s : σ) : outcome (ε := ε) (pure a) s = (.ok a, s) := rfl

@[simp] theorem outcome_throw (e : ε) (s : σ) :
    outcome (throw e : InPlace ε σ α) s = (.error e, s) := rfl

@[simp] theorem outcome_get (s : σ) : outcome (getThe σ : InPlace ε σ σ) s = (.ok s, s) := rfl

@[simp] theorem outcome_set (s s' : σ) :
    outcome (set s' : InPlace ε σ PUnit) s = (.ok ⟨⟩, s') := rfl

@[simp] theorem outcome_modify (f : σ → σ) (s : σ) :
    outcome (modify f : InPlace ε σ PUnit) s = (.ok ⟨⟩, f s) := rfl

@[simp] theorem outcome_ofExcept (r : Except ε α) (s : σ) :
    outcome (MonadExcept.ofExcept r : InPlace ε σ α) s = (r, s) := by
  cases r <;> rfl

/-- The second program starts from what the first one leaves. -/
theorem outcome_bind (p : InPlace ε σ α) (f : α → InPlace ε σ β) (s : σ) :
    outcome (p >>= f) s =
      match outcome p s with
      | (.ok a, s') => outcome (f a) s'
      | (.error e, s') => (.error e, s') := by
  change ExceptT.bindCont f (p s).1 (p s).2 = match p s with
    | (.ok a, s') => outcome (f a) s'
    | (.error e, s') => (.error e, s')
  obtain ⟨r, s'⟩ := p s
  cases r <;> rfl

/-- What the program has changed is not undone when its error is caught. -/
theorem outcome_tryCatch (p : InPlace ε σ α) (f : ε → InPlace ε σ α) (s : σ) :
    outcome (tryCatch p f) s =
      match outcome p s with
      | (.ok a, s') => (.ok a, s')
      | (.error e, s') => outcome (f e) s' := by
  change (match (p s).1 with
    | .ok a => (pure (.ok a) : StateM σ (Except ε α))
    | .error e => f e) (p s).2 = match p s with
    | (.ok a, s') => (Except.ok a, s')
    | (.error e, s') => f e s'
  obtain ⟨r, s'⟩ := p s
  cases r <;> rfl

theorem outcome_adapt (g : ε → ε') (p : InPlace ε σ α) (s : σ) :
    outcome (ExceptT.adapt g p) s = ((outcome p s).1.mapError g, (outcome p s).2) := rfl

end InPlace
end JsonPatch
