import Mathlib.Data.List.Forall2
import TypedLambda.Proofs.Plain.Reduction

/-!
Every closed term of a ground type reduces to the literal of its value. An induction on the
term does not go through an application, so what is proved is a relation between closed terms
and values by recursion on the type: a function is related to a value if it takes related
arguments to related results, and a list if it reduces to one with related elements. Main
statement: a closed term reduces to a literal exactly when the two have one value.
-/

namespace TypedLambda.Plain

variable {Γ : Context} {a b : Ty}

/-- The closed term comes to the value, as far as its type lets one see. -/
def Computes : (a : Ty) → Plain [] a → a.Value → Prop
  | .int, p, n => Reduces p (int n)
  | .bool, p, b => Reduces p (bool b)
  | .string, p, s => Reduces p (string s)
  | .list a, p, vs => ∃ ts, Reduces p (spine ts) ∧ List.Forall₂ (Computes a) ts vs
  | .fn a b, p, f => ∀ x v, Computes a x v → Computes b (app p x) (f v)

/-- What computes to a value after some steps does so before them. -/
lemma Computes.of_reduces {p q : Plain [] a} (h : Reduces p q) {v : a.Value}
    (hq : Computes a q v) : Computes a p v := by
  induction a with
  | int | bool | string => exact Relation.ReflTransGen.trans h hq
  | list a ih =>
    obtain ⟨ts, hts, hv⟩ := hq
    exact ⟨ts, h.trans hts, hv⟩
  | fn a b iha ihb =>
    intro x w hx
    exact ihb (h.congr (fun f => app f x) .appFun) (hq x w hx)

/-! ### Lists -/

lemma reduces_map_spine (f : Plain Γ (.fn a b)) (ts : List (Plain Γ a)) :
    Reduces (map f (spine ts)) (spine (ts.map (app f))) := by
  induction ts with
  | nil => exact .single (.mapNil f)
  | cons t ts ih => exact .head (.mapCons f t _) (ih.congr (cons (app f t)) .consTail)

lemma Computes.map_spine {f : Plain [] (.fn a b)} {g : (Ty.fn a b).Value}
    (hf : Computes (.fn a b) f g) {ts : List (Plain [] a)} {vs : List a.Value}
    (h : List.Forall₂ (Computes a) ts vs) :
    List.Forall₂ (Computes b) (ts.map (app f)) (vs.map g) := by
  induction h with
  | nil => exact .nil
  | cons ht _ ih => exact .cons (hf _ _ ht) ih

/-- A value of a ground type is reached as a literal. -/
lemma Computes.exists_literal (g : a.Ground) {p : Plain [] a} {v : a.Value}
    (h : Computes a p v) : ∃ w, IsLiteral w ∧ Reduces p w ∧ w.value = v := by
  induction g with
  | int => exact ⟨_, .int v, h, rfl⟩
  | bool => exact ⟨_, .bool v, h, rfl⟩
  | string => exact ⟨_, .string v, h, rfl⟩
  | list g ih =>
    obtain ⟨ts, hts, hv⟩ := h
    suffices hs : ∃ w, IsLiteral w ∧ Reduces (spine ts) w ∧ w.value = v by
      obtain ⟨w, hw, hr, he⟩ := hs
      exact ⟨w, hw, hts.trans hr, he⟩
    clear hts
    induction hv with
    | nil => exact ⟨nil, .nil, .refl, rfl⟩
    | @cons t v ts vs ht _ ihs =>
      obtain ⟨w, hw, hr, rfl⟩ := ih ht
      obtain ⟨ws, hws, hrs, rfl⟩ := ihs
      refine ⟨cons w ws, .cons hw hws, ?_, rfl⟩
      exact (hr.congr (fun x => cons x (spine ts)) .consHead).trans
        (hrs.congr (cons w) .consTail)

/-! ### Every term -/

lemma reduces_length (c : a.Countable) {p : Plain [] a} {v : a.Value} (h : Computes a p v) :
    Reduces (length c p) (int (saturate (c.count v))) := by
  cases c with
  | string =>
    have hs : Reduces (length .string p) (length .string (string v)) :=
      h.congr (length .string) .length
    exact hs.tail (.countText _ v (toInt_saturate _))
  | list =>
    obtain ⟨ts, hts, hv⟩ := h
    have hs : Reduces (length .list p) (length .list (spine ts)) :=
      hts.congr (length .list) .length
    refine hs.tail (.countList _ ts ?_)
    rw [hv.length_eq]
    exact toInt_saturate _

lemma reduces_equals (g : a.Ground) {p q : Plain [] a} {v w : a.Value} (hp : Computes a p v)
    (hq : Computes a q w) : Reduces (equals g p q) (bool (g.beq v w)) := by
  obtain ⟨l, hl, hpl, rfl⟩ := hp.exists_literal g
  obtain ⟨r, hr, hqr, rfl⟩ := hq.exists_literal g
  have h : Reduces (equals g p q) (equals g l r) :=
    (hpl.congr (fun x => equals g x q) .equalsLeft).trans
      (hqr.congr (equals g l) .equalsRight)
  by_cases e : l = r
  · subst e
    rw [g.beq_eq_true.mpr rfl]
    exact h.tail (.same g hl)
  · have hne : g.beq l.value r.value = false :=
      Bool.eq_false_iff.mpr fun hb => e (hl.eq_of_interpret_eq hr (g.beq_eq_true.mp hb))
    rw [hne]
    exact h.tail (.different g hl hr e)

/-- Filled in with terms that compute to the values of its variables, a term computes to its
own value. -/
theorem computes_subst (p : Plain Γ a) {s : Substitution Γ []} {ρ : Env Ty.Value Γ}
    (h : ∀ a (x : Var Γ a), Computes a (s x) (ρ x)) :
    Computes a (p.subst s) (p.interpret Ty.Value ρ) := by
  induction p with
  | var x => exact h _ x
  | lam body ih =>
    intro x v hx
    refine Computes.of_reduces (.single (.beta _ x)) ?_
    rw [subst_lift_instantiate]
    refine ih fun c y => ?_
    cases y with
    | here => exact hx
    | there y => exact h c y
  | app f x ihf ihx => exact ihf h _ _ (ihx h)
  | int | bool | string => exact .refl
  | add l r ihl ihr =>
    have hs := ((ihl h).congr (fun x => add x (r.subst s)) .addLeft).trans
      ((ihr h).congr (add _) .addRight)
    have hs := hs.tail (.sum _ _)
    rw [ofInt_add_toInt] at hs
    exact hs
  | nil => exact ⟨[], .refl, .nil⟩
  | cons x t ihx iht =>
    obtain ⟨ts, hts, hv⟩ := iht h
    exact ⟨_ :: ts, hts.congr (cons _) .consTail, .cons (ihx h) hv⟩
  | map f xs ihf ihx =>
    obtain ⟨ts, hts, hv⟩ := ihx h
    refine ⟨_, ?_, (Computes.map_spine (ihf h) hv)⟩
    exact (hts.congr (map _) .mapList).trans (reduces_map_spine _ ts)
  | ite c p q ihc ihp ihq =>
    have hs := (ihc h).congr (fun x => ite x (p.subst s) (q.subst s)) .iteCond
    change Computes _ _ (if c.interpret Ty.Value ρ then _ else _)
    cases hc : c.interpret Ty.Value ρ with
    | true =>
      rw [hc] at hs
      exact Computes.of_reduces (hs.tail (.iteTrue _ _)) (ihp h)
    | false =>
      rw [hc] at hs
      exact Computes.of_reduces (hs.tail (.iteFalse _ _)) (ihq h)
  | not x ih => exact ((ih h).congr Plain.not .not).tail (.negate _)
  | length c xs ih => exact reduces_length c (ih h)
  | equals g l r ihl ihr => exact reduces_equals g (ihl h) (ihr h)

theorem computes_value (p : Plain [] a) : Computes a p p.value := by
  have h := p.computes_subst (s := .id) (ρ := Env.empty) fun _ x => nomatch x
  rwa [subst_id] at h

lemma exists_literal (g : a.Ground) (p : Plain [] a) :
    ∃ v, IsLiteral v ∧ Reduces p v ∧ v.value = p.value := p.computes_value.exists_literal g

end Plain

open Plain

/-- **Evaluation is reduction.** A closed term of a ground type reduces to a literal exactly
when its value is that of the literal, and there is one literal, and only one, that it reduces
to. -/
theorem Expr.reduces_iff_value_eq {a : Ty} (g : a.Ground) (e : Expr [] a) :
    (∀ v : Plain [] a, v.IsLiteral → (Reduces e.plain v ↔ e.value = v.value)) ∧
      ∃! v : Plain [] a, v.IsLiteral ∧ Reduces e.plain v := by
  have sound {v : Plain [] a} (h : Reduces e.plain v) : e.value = v.value :=
    calc e.value = e.plain.value := e.value_plain.symm
      _ = v.value := h.interpret_eq Env.empty
  obtain ⟨w, hw, hr, he⟩ := e.plain.exists_literal g
  have unique {v : Plain [] a} (hv : v.IsLiteral) (h : e.value = v.value) : v = w :=
    hv.eq_of_interpret_eq hw (h.symm.trans (sound hr))
  refine ⟨fun v hv => ⟨sound, fun h => unique hv h ▸ hr⟩, w, ⟨hw, hr⟩, ?_⟩
  rintro v ⟨hv, h⟩
  exact unique hv (sound h)

/-- A function that is mapped over a list, where each step is made inside a list. -/
def Expr.mapsSum : Expr [] (.list .int) :=
  .share (.lam (.add (.var .here) (.var .here)))
    (.map (.var .here) (.cons (.int 1) (.cons (.int 2) .nil)))

theorem Expr.reduces_mapsSum :
    (Plain.cons (.int 2) (.cons (.int 4) .nil) : Plain [] (.list .int)).IsLiteral ∧
      Reduces mapsSum.plain (.cons (.int 2) (.cons (.int 4) .nil)) := by
  have hv : (Plain.cons (.int 2) (.cons (.int 4) .nil) : Plain [] (.list .int)).IsLiteral :=
    .cons (.int 2) (.cons (.int 4) .nil)
  exact ⟨hv, ((reduces_iff_value_eq (.list .int) mapsSum).1 _ hv).mpr rfl⟩

end TypedLambda
