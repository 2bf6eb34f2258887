import TypedLambda.Proofs.Skeleton.Spelling

/-!
What a term is rendered to. The invariant is on the environment: the variable of each binder
around a term is rendered, at every number, to the name that the spelling gives it. Main
statement: the rendering of a well typed term is the text of its spelled skeleton, and there is
one as long as no binder needs a number past the last.
-/

namespace TypedLambda

namespace Rendering

/-- The text, if there are numbers left for `d` binders one inside the other. -/
def fitting (i : Counter) (d : Nat) (s : String) : Except RenderError String :=
  if i.index.toNat + d < UInt64.size then .ok s else .error .counterOverflow

lemma fitting_eq_ok {i : Counter} {d : Nat} {s t : String} :
    fitting i d s = .ok t ↔ i.index.toNat + d < UInt64.size ∧ t = s := by
  unfold fitting
  split
  · next h => simp [h, eq_comm]
  · next h => simp [h]

/-- There is always room for a text without binders. -/
lemma text_fitting (s : String) (i : Counter) : text s i = fitting i 0 s :=
  (if_pos i.index.toNat_lt).symm

lemma append_fitting {x y : Rendering} {i : Counter} {d e : Nat} {s t : String}
    (hx : x i = fitting i d s) (hy : y i = fitting i e t) :
    (x ++ y) i = fitting i (max d e) (s ++ t) := by
  change (x i >>= fun u => y i >>= fun v => pure (u ++ v)) = _
  rw [hx, hy]
  unfold fitting
  by_cases hd : i.index.toNat + d < UInt64.size
  · by_cases he : i.index.toNat + e < UInt64.size
    · have h : i.index.toNat + max d e < UInt64.size := by omega
      rw [if_pos hd, if_pos he, if_pos h]
      rfl
    · have h : ¬ i.index.toNat + max d e < UInt64.size := by omega
      rw [if_pos hd, if_neg he, if_neg h]
      rfl
  · have h : ¬ i.index.toNat + max d e < UInt64.size := by omega
    rw [if_neg hd, if_neg h]
    rfl

lemma text_append_fitting (s : String) {y : Rendering} {i : Counter} {d : Nat} {t : String}
    (hy : y i = fitting i d t) : (text s ++ y) i = fitting i d (s ++ t) := by
  have h := append_fitting (text_fitting s i) hy
  rwa [Nat.zero_max] at h

lemma append_text_fitting {x : Rendering} {i : Counter} {d : Nat} {s : String}
    (hx : x i = fitting i d s) (t : String) : (x ++ text t) i = fitting i d (s ++ t) := by
  have h := append_fitting hx (text_fitting t i)
  rwa [Nat.max_zero] at h

/-- Two operands in parentheses, with an operator between them. -/
lemma infix_fitting (o : String) {x y : Rendering} {i : Counter} {d e : Nat} {s t : String}
    (hx : x i = fitting i d s) (hy : y i = fitting i e t) :
    (text "(" ++ x ++ text o ++ y ++ text ")") i =
      fitting i (max d e) ("(" ++ s ++ o ++ t ++ ")") :=
  append_text_fitting (append_fitting (append_text_fitting (text_append_fitting "(" hx) o) hy) ")"

lemma abstraction_fitting {body : Rendering → Rendering} {i : Counter} {d : Nat} {s : String}
    (h : ∀ j, j.index.toNat = i.index.toNat + 1 →
      body (text i.binder.name) j = fitting j d s) :
    abstraction body i = fitting i (d + 1) ("(\\ " ++ i.binder.name ++ " -> " ++ s ++ ")") := by
  change (i.next >>= fun j => body (text i.binder.name) j >>= fun u =>
    pure ("(\\ " ++ i.binder.name ++ " -> " ++ u ++ ")")) = _
  rcases hj : i.next with e | j
  · have he := Counter.next_eq_error.mp hj
    have hn : ¬ i.index.toNat + (d + 1) < UInt64.size := by omega
    rw [fitting, if_neg hn]
    cases e
    rfl
  · have hj := Counter.next_eq_ok.mp hj
    have hs : i.index.toNat + (d + 1) = j.index.toNat + d := by omega
    change (body (text i.binder.name) j >>= fun u => _) = _
    rw [h j hj, fitting, fitting, hs]
    split <;> rfl

end Rendering

open Rendering Skeleton

namespace Plain

variable {Γ : Context} {a : Ty}

/-- Each variable is rendered to the name of its binder, whatever the number. -/
def NamesBinders (i : Nat) {Γ : Context} (ρ : Env Rendered Γ) : Prop :=
  ∀ a (x : Var Γ a), ρ x = text (enclosing i Γ.length x.toFin)

lemma NamesBinders.push {i : Nat} {ρ : Env Rendered Γ} (h : NamesBinders i ρ) (b : Ty) :
    NamesBinders i (ρ.push (b := b) (text (binderName (i + Γ.length)))) := by
  intro a x
  change _ = text (enclosing i (Γ.length + 1) x.toFin)
  rw [← cons_enclosing]
  cases x with
  | here => rfl
  | there x => exact h a x

/-- A plain term under `Γ.length` binders, of which the outermost has the number `k`. -/
theorem interpret_rendered (p : Plain Γ a) {k : Nat} {ρ : Env Rendered Γ} (hρ : NamesBinders k ρ)
    {i : Counter} (hi : i.index.toNat = k + Γ.length) :
    p.interpret Rendered ρ i = fitting i p.erase.depth (p.erase.spell k).text := by
  induction p generalizing i with
  | var x =>
    change ρ x i = _
    rw [hρ]
    exact text_fitting _ i
  | lam body ih =>
    have hname : i.binder.name = binderName (k + List.length _) := congrArg binderName hi
    have hbody : ∀ j : Counter, j.index.toNat = i.index.toNat + 1 →
        body.interpret Rendered (ρ.push (text i.binder.name)) j =
          fitting j body.erase.depth (body.erase.spell k).text := by
      intro j hj
      rw [hname]
      exact ih (hρ.push _) (hj.trans (congrArg Nat.succ hi))
    change abstraction (fun x => body.interpret Rendered (ρ.push x)) i = _
    rw [abstraction_fitting hbody, hname]
    rfl
  | app f x ihf ihx => exact infix_fitting " $ " (ihf hρ hi) (ihx hρ hi)
  | add l r ihl ihr => exact infix_fitting " + " (ihl hρ hi) (ihr hρ hi)
  | cons x t ihx iht => exact infix_fitting " : " (ihx hρ hi) (iht hρ hi)
  | map f xs ihf ihx =>
    have h := append_text_fitting (text_append_fitting "map " (ihf hρ hi)) " "
    exact append_fitting h (ihx hρ hi)
  | ite c p q ihc ihp ihq =>
    have h := append_text_fitting (text_append_fitting "if (" (ihc hρ hi)) ") then "
    have h := append_text_fitting (append_fitting h (ihp hρ hi)) " else "
    exact append_fitting h (ihq hρ hi)
  | not x ih => exact append_text_fitting (text_append_fitting "(not " (ih hρ hi)) ")"
  | length c xs ih => exact text_append_fitting "length " (ih hρ hi)
  | equals g l r ihl ihr => exact append_fitting (append_text_fitting (ihl hρ hi) " == ") (ihr hρ hi)
  | int n | nil | bool b | string s => exact text_fitting _ i

end Plain

/-- A closed term is rendered to its spelled skeleton if its binders fit. -/
theorem Expr.renderFrom_eq {a : Ty} (e : Expr [] a) (i : Counter) :
    e.renderFrom i =
      fitting i e.skeleton.depth (e.skeleton.spell i.index.toNat).text := by
  rw [renderFrom, ← e.interpret_plain Env.empty]
  exact e.plain.interpret_rendered (fun _ x => nomatch x) (by simp)

/-- **No rendered name is captured.** A written term, whatever names it uses again, has a text
from `i` on just if there are numbers for its nested binders, and the text is that of its
skeleton, spelled from `i` on. There each name leads to its own binder, and the binders along a
path have consecutive numbers and different names. -/
theorem Named.renderFrom_eq_ok_iff {t : Named} {a : Ty} {e : Expr [] a}
    (h : t.elaborate? [] = some ⟨a, e⟩) :
    ∃ s : Skeleton 0, t.skeleton? [] = some s ∧
      (∀ (i : Counter) (w : String), e.renderFrom i = .ok w ↔
        i.index.toNat + s.depth < UInt64.size ∧ w = (s.spell i.index.toNat).text) ∧
      ∀ i : Nat, (s.spell i).resolve? Fin.elim0 = some s ∧
        ∀ p ∈ (s.spell i).paths, p = (List.range' i p.length).map binderName ∧ p.Nodup := by
  refine ⟨e.skeleton, skeleton?_eq h, fun i w => ?_,
    fun i => ⟨Spelled.resolve?_spell_closed i _, fun p hp => ?_⟩⟩
  · rw [e.renderFrom_eq, fitting_eq_ok]
  · have hp := Spelled.eq_of_mem_paths_spell i e.skeleton hp
    refine ⟨hp, ?_⟩
    rw [hp]
    exact Spelled.nodup_binderName _ _

/-- A shared function that is used under a binder, where its name is used again. -/
def Named.reusesName : Named :=
  .share "x" (.lam "x" .int (.add (.var "x") (.int 1)))
    (.lam "y" .int (.app (.var "x") (.app (.lam "x" .int (.var "x")) (.var "y"))))

def Expr.reusesName : Expr [] (.fn .int .int) :=
  .share (.lam (.add (.var .here) (.int 1)))
    (.lam (.app (.var (.there .here)) (.app (.lam (.var .here)) (.var .here))))

theorem Named.renderFrom_reusesName :
    reusesName.elaborate? [] = some ⟨_, Expr.reusesName⟩ ∧
      ∃ s : Skeleton 0, reusesName.skeleton? [] = some s ∧
        (∀ (i : Counter) (w : String), Expr.reusesName.renderFrom i = .ok w ↔
          i.index.toNat + s.depth < UInt64.size ∧ w = (s.spell i.index.toNat).text) ∧
        ∀ i : Nat, (s.spell i).resolve? Fin.elim0 = some s ∧
          ∀ p ∈ (s.spell i).paths, p = (List.range' i p.length).map binderName ∧ p.Nodup :=
  ⟨rfl, renderFrom_eq_ok_iff rfl⟩

end TypedLambda
