/-!
What may be done to a state: it ends in a result or in a failure, and leaves a state in either
case. The lemmas say what comes of performing each kind of action.
-/

namespace TypedLambda

abbrev Action (σ ε α : Type) := ExceptT ε (StateM σ) α

namespace Action

variable {σ ε ε' α β : Type}

def perform (x : Action σ ε α) (s : σ) : Except ε α × σ := (ExceptT.run x).run s

@[simp] theorem perform_pure (a : α) (s : σ) : perform (pure a : Action σ ε α) s = (.ok a, s) :=
  rfl

@[simp] theorem perform_throw (e : ε) (s : σ) :
    perform (throw e : Action σ ε α) s = (.error e, s) := rfl

@[simp] theorem perform_get (s : σ) : perform (get : Action σ ε σ) s = (.ok s, s) := rfl

@[simp] theorem perform_set (s t : σ) :
    perform (set t : Action σ ε PUnit) s = (.ok ⟨⟩, t) := rfl

@[simp] theorem perform_modify (f : σ → σ) (s : σ) :
    perform (modify f : Action σ ε PUnit) s = (.ok ⟨⟩, f s) := rfl

/-- A failure ends what follows it. -/
theorem perform_bind (x : Action σ ε α) (f : α → Action σ ε β) (s : σ) :
    perform (x >>= f) s = match perform x s with
      | (.ok a, t) => perform (f a) t
      | (.error e, t) => (.error e, t) := by
  unfold perform
  rw [ExceptT.run_bind, StateT.run_bind]
  rcases (ExceptT.run x).run s with ⟨_ | a, t⟩ <;> rfl

@[simp] theorem perform_adapt (g : ε → ε') (x : Action σ ε α) (s : σ) :
    perform (ExceptT.adapt g x : Action σ ε' α) s =
      ((perform x s).1.mapError g, (perform x s).2) := rfl

/-- Actions one after the other, going on after failures: what came of each, with the state it
left. -/
def trace : List (Action σ ε α) → σ → List (Except ε α × σ)
  | [], _ => []
  | x :: xs, s => x.perform s :: trace xs (x.perform s).2

/-- The state that a trace from `s` leaves. -/
def stateAfter (s : σ) (steps : List (Except ε α × σ)) : σ := (steps.getLast?.map Prod.snd).getD s

@[simp] theorem length_trace (xs : List (Action σ ε α)) (s : σ) :
    (trace xs s).length = xs.length := by
  induction xs generalizing s with
  | nil => rfl
  | cons x xs ih => simp [trace, ih]

@[simp] theorem stateAfter_nil (s : σ) : stateAfter (ε := ε) (α := α) s [] = s := rfl

@[simp] theorem stateAfter_cons (s : σ) (r : Except ε α × σ) (rs : List (Except ε α × σ)) :
    stateAfter s (r :: rs) = stateAfter r.2 rs := by
  cases rs with
  | nil => rfl
  | cons q rs => simp [stateAfter, List.getLast?_cons]

end Action

end TypedLambda
