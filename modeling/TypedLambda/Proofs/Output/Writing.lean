import Mathlib.Tactic.Common
import TypedLambda.Output.LineWriter

/-!
Writers that can be followed from outside: the lines written so far say what state the writer is
in, and what came of the last of them. Main statement: when such a writer goes on after failures,
each step leaves the state that belongs to the lines up to it.
-/

namespace TypedLambda

variable {σ ε α : Type}

namespace Action

/-- A trace is known as soon as the state before each step and what the step comes to are. The
steps are counted from `n`. -/
lemma trace_from {xs : List (Action σ ε α)} (result : Nat → Except ε α) (state : Nat → σ) (n : Nat)
    (h : ∀ k (hk : k < xs.length),
      xs[k].perform (state (n + k)) = (result (n + k + 1), state (n + k + 1))) :
    trace xs (state n) =
      (List.range' (n + 1) xs.length).map fun k => (result k, state k) := by
  induction xs generalizing n with
  | nil => rfl
  | cons x xs ih =>
    have hx : x.perform (state n) = (result (n + 1), state (n + 1)) := h 0 (Nat.succ_pos _)
    have hxs : trace xs (state (n + 1)) =
        (List.range' (n + 1 + 1) xs.length).map fun k => (result k, state k) := by
      refine ih (n + 1) fun k hk => ?_
      simpa [Nat.add_assoc, Nat.add_comm 1] using h (k + 1) (Nat.succ_lt_succ hk)
    rw [trace, hx, hxs, List.length_cons, List.range'_succ, List.map_cons]

lemma trace_eq {xs : List (Action σ ε α)} (result : Nat → Except ε α) (state : Nat → σ)
    (h : ∀ k (hk : k < xs.length), xs[k].perform (state k) = (result (k + 1), state (k + 1))) :
    trace xs (state 0) = (List.range' 1 xs.length).map fun k => (result k, state k) :=
  trace_from result state 0 fun k hk => by simpa using h k hk

lemma stateAfter_map_range' (result : Nat → Except ε α) (state : Nat → σ) (n : Nat) :
    stateAfter (state 0) ((List.range' 1 n).map fun k => (result k, state k)) = state n := by
  cases n with
  | zero => rfl
  | succ n => simp [stateAfter, List.range'_concat, Nat.add_comm]

end Action

namespace LineWriter

/-- From the state for the lines so far, a line more leads to the state for all of them, with the
result for all of them. -/
structure Follows (writer : LineWriter σ ε) (state : List String → σ)
    (result : List String → Except ε Unit) : Prop where
  write : ∀ lines line, (writer.write line).perform (state lines) =
    (result (lines ++ [line]), state (lines ++ [line]))

variable {writer : LineWriter σ ε} {state : List String → σ} {result : List String → Except ε Unit}

lemma Follows.attempts_eq (h : writer.Follows state result) (lines : List String) :
    writer.attempts lines (state []) = (List.range' 1 lines.length).map fun k =>
      (result (lines.take k), state (lines.take k)) := by
  have hsteps : ∀ k (hk : k < (lines.map writer.write).length),
      (lines.map writer.write)[k].perform (state (lines.take k)) =
        (result (lines.take (k + 1)), state (lines.take (k + 1))) := by
    intro k hk
    rw [List.length_map] at hk
    rw [List.getElem_map, h.write, List.take_append_getElem hk]
  have htrace := Action.trace_eq (fun k => result (lines.take k)) (fun k => state (lines.take k))
    hsteps
  rwa [List.length_map] at htrace

lemma Follows.stateAfter_attempts (h : writer.Follows state result) (lines : List String) :
    Action.stateAfter (state []) (writer.attempts lines (state [])) = state lines := by
  rw [h.attempts_eq]
  have hstate := Action.stateAfter_map_range' (fun k => result (lines.take k))
    (fun k => state (lines.take k)) lines.length
  rwa [List.take_length] at hstate

end LineWriter

end TypedLambda
