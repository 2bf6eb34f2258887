import TypedLambda.Proofs.Input.Joining

/-!
Which calls a dialogue makes of its handler, and how it ends. The calls are written down by a
handler that otherwise does what the given one does, whatever that is. Main statement: the
completed inputs, which are the texts of the groups of lines, are handled in order, each one once
and saved right after, until the first that is refused, the first after which the history is not
saved, or the last.
-/

namespace TypedLambda

/-- A call of one of the two operations of a handler. -/
inductive Call where
  | handle (input : String)
  | save (input : String)
  deriving DecidableEq, Repr

namespace Call

/-- The inputs that the calls handle, in order. -/
def handled (calls : List Call) : List String :=
  calls.filterMap fun
    | handle input => some input
    | save _ => none

/-- Each input is handled, and the history is saved before the next one. -/
def accepting (inputs : List String) : List Call :=
  inputs.flatMap fun input => [handle input, save input]

@[simp] lemma handled_append (calls more : List Call) :
    handled (calls ++ more) = handled calls ++ handled more :=
  List.filterMap_append

@[simp] lemma handled_accepting (inputs : List String) : handled (accepting inputs) = inputs := by
  induction inputs with
  | nil => rfl
  | cons input inputs ih => exact congrArg (input :: ·) ih

end Call

/-- The action, and the call written down behind the earlier ones. -/
def Action.noting {σ ε κ α : Type} (c : κ) (x : Action σ ε α) : Action (σ × List κ) ε α :=
  ExceptT.mk fun p => ((x.perform p.1).1, (x.perform p.1).2, p.2 ++ [c])

@[simp] lemma Action.perform_noting {σ ε κ α : Type} (c : κ) (x : Action σ ε α) (s : σ)
    (calls : List κ) : (x.noting c).perform (s, calls) =
      ((x.perform s).1, (x.perform s).2, calls ++ [c]) := rfl

namespace Handler

variable {σ ε : Type}

/-- Does what the handler does, and keeps a list of its calls. -/
def logged (h : Handler σ ε) : Handler (σ × List Call) ε where
  handle input := (h.handle input).noting (.handle input)
  save input := (h.save input).noting (.save input)

/-- From the first state to the last, the inputs are handled one after the other without a
failure, and the history is saved after each. -/
inductive Accepts (h : Handler σ ε) : List String → σ → σ → Prop
  | nil {s : σ} : Accepts h [] s s
  | cons {input : String} {inputs : List String} {s t u v : σ}
      (handled : (h.handle input).perform s = (.ok (), t))
      (saved : (h.save input).perform t = (.ok (), u)) (rest : Accepts h inputs u v) :
      Accepts h (input :: inputs) s v

/-- How inputs are taken, with the state that is left and the calls that are made. -/
inductive Takes (h : Handler σ ε) (inputs : List String) (s : σ) :
    Except (DialogueError ε) Unit → σ → List Call → Prop
  | all {t : σ} (accepted : h.Accepts inputs s t) :
      Takes h inputs s (.ok ()) t (Call.accepting inputs)
  | refused {done rest : List String} {input : String} {t u : σ} {e : ε}
      (split : inputs = done ++ input :: rest) (accepted : h.Accepts done s t)
      (failed : (h.handle input).perform t = (.error e, u)) :
      Takes h inputs s (.error (.command e)) u (Call.accepting done ++ [.handle input])
  | unsaved {done rest : List String} {input : String} {t u v : σ} {e : InputError}
      (split : inputs = done ++ input :: rest) (accepted : h.Accepts done s t)
      (handled : (h.handle input).perform t = (.ok (), u))
      (failed : (h.save input).perform u = (.error e, v)) :
      Takes h inputs s (.error (.input e)) v (Call.accepting (done ++ [input]))

/-- An input that is accepted comes before all that follows. -/
lemma Takes.cons {h : Handler σ ε} {input : String} {inputs : List String} {s t u v : σ}
    {r : Except (DialogueError ε) Unit} {calls : List Call}
    (handled : (h.handle input).perform s = (.ok (), t))
    (saved : (h.save input).perform t = (.ok (), u)) (rest : h.Takes inputs u r v calls) :
    h.Takes (input :: inputs) s r v (.handle input :: .save input :: calls) := by
  cases rest with
  | all accepted => exact .all (.cons handled saved accepted)
  | refused split accepted failed =>
    exact .refused (congrArg (input :: ·) split) (.cons handled saved accepted) failed
  | unsaved split accepted handled' failed =>
    exact .unsaved (congrArg (input :: ·) split) (.cons handled saved accepted) handled' failed

lemma Takes.handled_isPrefix {h : Handler σ ε} {inputs : List String} {s t : σ}
    {r : Except (DialogueError ε) Unit} {calls : List Call} (ht : h.Takes inputs s r t calls) :
    Call.handled calls <+: inputs := by
  cases ht with
  | all accepted => exact ⟨[], by rw [Call.handled_accepting, List.append_nil]⟩
  | @refused done rest input _ _ _ split accepted failed =>
    rw [split, Call.handled_append, Call.handled_accepting]
    exact ⟨rest, List.append_assoc done [input] rest⟩
  | @unsaved done rest input _ _ _ _ split accepted handled failed =>
    rw [split, Call.handled_accepting]
    exact ⟨rest, List.append_assoc done [input] rest⟩

/-- One run of the handler, with and without the list of its calls. -/
lemma exists_takes (h : Handler σ ε) (inputs : List String) (s : σ) (earlier : List Call) :
    ∃ (r : Except (DialogueError ε) Unit) (t : σ) (calls : List Call),
      h.Takes inputs s r t calls ∧ (inputs.forM h.accept).perform s = (r, t) ∧
        (inputs.forM h.logged.accept).perform (s, earlier) = (r, t, earlier ++ calls) := by
  induction inputs generalizing s earlier with
  | nil => exact ⟨.ok (), s, [], .all .nil, rfl, by rw [List.append_nil]; rfl⟩
  | cons input inputs ih =>
    rw [List.forM, List.forM, Action.perform_bind, Action.perform_bind, perform_accept,
      perform_accept, logged, Action.perform_noting]
    rcases handled : (h.handle input).perform s with ⟨e | ⟨⟩, t⟩
    · exact ⟨_, t, [.handle input], .refused rfl .nil handled, rfl, rfl⟩
    · simp only [Action.perform_noting]
      rcases saved : (h.save input).perform t with ⟨e | ⟨⟩, u⟩
      · exact ⟨_, u, [.handle input, .save input], .unsaved rfl .nil handled saved, rfl, by
          simp [Except.mapError]⟩
      · obtain ⟨r, v, calls, ht, hr, hl⟩ := ih u (earlier ++ [.handle input] ++ [.save input])
        refine ⟨r, v, _, ht.cons handled saved, hr, hl.trans ?_⟩
        simp

end Handler

end TypedLambda
