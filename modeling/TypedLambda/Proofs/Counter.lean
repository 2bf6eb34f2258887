import Mathlib.Algebra.Group.Nat.Defs
import Mathlib.Data.List.Nodup
import TypedLambda.Counter

/-!
A counter in a dialogue. What each request comes to is said once, by the number of the counter it
is made to, and a whole run goes by these rules from request to request. Main statement: at every
point of a run the counter has moved on once for each request to do so, as far as words go, and
the names that are met on the way are all different.
-/

namespace TypedLambda.Counter

variable {i j : Counter} {q : Request} {r : Reply} (qs rs : List Request)

/-! ### One request -/

/-- The rules: a counter, a request made to it, the reply, and the counter that is left. -/
inductive Answers : Counter → Request → Reply → Counter → Prop
  | moved {i j : Counter} (hi : i.index.toNat < 2 ^ 64 - 1)
      (hj : j.index.toNat = i.index.toNat + 1) : Answers i .next .moved j
  | stuck {i : Counter} (hi : i.index.toNat = 2 ^ 64 - 1) :
      Answers i .next (.stuck .counterOverflow) i
  | text (i : Counter) : Answers i .text (.text i.index.toNat.repr) i
  | binder (i : Counter) : Answers i .binder (.text ("a" ++ i.index.toNat.repr)) i
  | compare {i j : Counter} {o : Ordering} (hlt : o = .lt ↔ i.index.toNat < j.index.toNat)
      (heq : o = .eq ↔ i.index.toNat = j.index.toNat)
      (hgt : o = .gt ↔ j.index.toNat < i.index.toNat) : Answers i (.compare j) (.order o) i
  | sameBinder {i j : Counter} {b : Bool} (hb : b = true ↔ i.index.toNat = j.index.toNat) :
      Answers i (.sameBinder j) (.truth b) i

lemma toNat_index_inj : i.index.toNat = j.index.toNat ↔ i = j := by
  cases i
  cases j
  rw [UInt64.toNat_inj, mk.injEq]

lemma binder_inj : i.binder = j.binder ↔ i = j := by
  rw [binder, binder, Binder.mk.injEq, ← UInt64.toNat_inj, toNat_index_inj]

lemma name_binder_inj : i.binder.name = j.binder.name ↔ i = j :=
  Binder.name_inj.trans binder_inj

lemma answers_next (i : Counter) : Answers i .next (i.answer .next).1 (i.answer .next).2 := by
  cases h : i.next with
  | ok j =>
    have hj := next_eq_ok.mp h
    have hlt := j.index.toNat_lt
    simp only [answer, h]
    exact .moved (by omega) hj
  | error e =>
    have hi : i.index.toNat + 1 = 2 ^ 64 := next_eq_error.mp h
    cases e
    simp only [answer, h]
    exact .stuck (by omega)

/-- **Every reply goes by the rules.** -/
theorem answers_answer (i : Counter) (q : Request) : Answers i q (i.answer q).1 (i.answer q).2 := by
  cases q with
  | next => exact i.answers_next
  | text => exact .text i
  | binder => exact .binder i
  | compare j =>
    exact .compare Nat.compare_eq_lt Nat.compare_eq_eq Nat.compare_eq_gt
  | sameBinder j =>
    refine .sameBinder ?_
    rw [beq_iff_eq, binder_inj, toNat_index_inj]

/-! ### Runs -/

def Request.isNext : Request → Bool
  | next => true
  | _ => false

/-- The counter that a run leaves. -/
def after (i : Counter) (qs : List Request) : Counter := ((run i qs).map Prod.snd).getLastD i

@[simp] lemma after_nil (i : Counter) : i.after [] = i := rfl

@[simp] lemma after_cons (i : Counter) (q : Request) : i.after (q :: qs) = (i.answer q).2.after qs :=
  List.getLastD_cons ..

lemma run_append (i : Counter) : run i (qs ++ rs) = run i qs ++ run (i.after qs) rs := by
  induction qs generalizing i with
  | nil => rfl
  | cons q qs ih => rw [List.cons_append, run, run, ih, after_cons, List.cons_append]

namespace Answers

lemma index_eq_of_moved (h : Answers i q .moved j) : j.index.toNat = i.index.toNat + 1 := by
  cases h with
  | moved hi hj => exact hj

lemma eq_of_ne_moved (h : Answers i q r j) (hr : r ≠ .moved) : j = i := by
  cases h with
  | moved hi hj => exact absurd rfl hr
  | _ => rfl

/-- One request moves the counter on by one or not at all. -/
lemma index_eq (h : Answers i q r j) :
    j.index.toNat = min (i.index.toNat + if q.isNext then 1 else 0) (2 ^ 64 - 1) := by
  have hlt := i.index.toNat_lt
  cases h with
  | moved hi hj =>
    change j.index.toNat = min (i.index.toNat + 1) (2 ^ 64 - 1)
    omega
  | stuck hi =>
    change i.index.toNat = min (i.index.toNat + 1) (2 ^ 64 - 1)
    omega
  | _ =>
    change i.index.toNat = min (i.index.toNat + 0) (2 ^ 64 - 1)
    omega

end Answers

lemma index_after (i : Counter) : (i.after qs).index.toNat =
    min (i.index.toNat + qs.countP Request.isNext) (2 ^ 64 - 1) := by
  induction qs generalizing i with
  | nil =>
    have hlt := i.index.toNat_lt
    rw [after_nil, List.countP_nil]
    omega
  | cons q qs ih =>
    -- Once the last counter is reached, it stays there: the inner minimum is lost in the outer one.
    rw [after_cons, ih, (i.answers_answer q).index_eq, List.countP_cons]
    omega

/-- The counters that have been moved on to. -/
def passed (i : Counter) (qs : List Request) : List Counter :=
  ((run i qs).filter fun p => p.1 = .moved).map Prod.snd

lemma passed_cons_of_moved (h : (i.answer q).1 = .moved) :
    i.passed (q :: qs) = (i.answer q).2 :: (i.answer q).2.passed qs := by
  rw [passed, run, List.filter_cons_of_pos (by simpa using h), List.map_cons, passed]

lemma passed_cons_of_ne_moved (h : (i.answer q).1 ≠ .moved) : i.passed (q :: qs) = i.passed qs := by
  rw [passed, run, List.filter_cons_of_neg (by simpa using h),
    (i.answers_answer q).eq_of_ne_moved h, passed]

/-- The counters that are moved on to are consecutive. -/
lemma index_passed (i : Counter) : (i.passed qs).map (·.index.toNat) =
    List.range' (i.index.toNat + 1) (i.passed qs).length := by
  induction qs generalizing i with
  | nil => rfl
  | cons q qs ih =>
    have hq := i.answers_answer q
    by_cases h : (i.answer q).1 = .moved
    · rw [h] at hq
      rw [passed_cons_of_moved qs h, List.map_cons, ih, hq.index_eq_of_moved, List.length_cons,
        List.range'_succ]
    · rw [passed_cons_of_ne_moved qs h, ih]

lemma nodup_names (i : Counter) : ((i :: i.passed qs).map fun j => j.binder.name).Nodup := by
  have hindex : (i :: i.passed qs).map (·.index.toNat) =
      List.range' i.index.toNat ((i.passed qs).length + 1) := by
    rw [List.map_cons, index_passed, List.range'_succ]
  have hnodup : (i :: i.passed qs).Nodup := by
    refine List.Nodup.of_map (·.index.toNat) ?_
    rw [hindex]
    exact List.nodup_range'
  exact hnodup.map fun _ _ => name_binder_inj.mp

/-- **A counter over a whole run**: it has moved on once for each request to do so, up to the last
counter. Whatever request is made next is answered by the rules. Binders and their names tell
counters apart, so with those moved on to there is one more name than there were moves. -/
theorem run_saturates (i : Counter) (qs : List Request) :
    (i.after qs).index.toNat =
        min (i.index.toNat + qs.countP Request.isNext) (2 ^ 64 - 1) ∧
      (∀ (q : Request) (rs : List Request), ∃ (r : Reply) (j : Counter),
        Answers (i.after qs) q r j ∧ run i (qs ++ q :: rs) = run i qs ++ (r, j) :: run j rs) ∧
      (∀ j : Counter, ((i.after qs).binder = j.binder ↔ i.after qs = j) ∧
        ((i.after qs).binder.name = j.binder.name ↔ i.after qs = j)) ∧
      ((i :: i.passed qs).map fun j => j.binder.name).Nodup ∧
      (i.passed qs).length = (run i qs).countP fun p => p.1 = .moved := by
  refine ⟨index_after qs i, fun q rs => ?_, fun j => ⟨binder_inj, name_binder_inj⟩,
    nodup_names qs i, ?_⟩
  · exact ⟨_, _, answers_answer _ q, run_append qs (q :: rs) i⟩
  · rw [passed, List.length_map, List.countP_eq_length_filter]

/-- The counter before the last one moves on once and then stays. -/
example : run ⟨0xfffffffffffffffe⟩ [.next, .next, .binder] =
    [(.moved, ⟨0xffffffffffffffff⟩), (.stuck .counterOverflow, ⟨0xffffffffffffffff⟩),
      (.text "a18446744073709551615", ⟨0xffffffffffffffff⟩)] := by decide

end TypedLambda.Counter
