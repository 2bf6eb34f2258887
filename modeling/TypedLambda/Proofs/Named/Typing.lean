import Mathlib.Tactic.Common
import TypedLambda.Expr.Named

/-!
The rules by which a written term is well typed, with the expression it stands for, one rule
for each form. Main statement: `Named.elaborate?` finds the expression exactly when the rules
give it, so whatever is proved along the rules holds of every term that passes the check.
-/

namespace TypedLambda

namespace Scope

variable {a b : Ty} {s : Scope} {x y : String}

@[simp] lemma find?_cons_self : find? x ((x, a) :: s) = some ⟨a, .here⟩ := by simp [find?]

lemma find?_cons_of_ne (h : y ≠ x) :
    find? y ((x, a) :: s) = (find? y s).map fun v => ⟨v.1, v.2.there⟩ := by simp [find?, h]

/-- A name that is found is that of the innermost variable or is found further out. -/
lemma find?_cons_eq_some {v : Var (a :: s.context) b}
    (h : find? y ((x, a) :: s) = some ⟨b, v⟩) :
    (y = x ∧ (⟨a, .here⟩ : Σ c, Var (a :: s.context) c) = ⟨b, v⟩) ∨
      (y ≠ x ∧ ∃ w, s.find? y = some ⟨b, w⟩ ∧ v = w.there) := by
  by_cases hyx : y = x
  · subst hyx
    rw [find?_cons_self] at h
    exact .inl ⟨rfl, Option.some.inj h⟩
  · rw [find?_cons_of_ne hyx, Option.map_eq_some_iff] at h
    obtain ⟨⟨c, w⟩, hw, h⟩ := h
    cases h
    exact .inr ⟨hyx, w, hw, rfl⟩

end Scope

namespace Named

/-- In the scope, the term is written for the expression. -/
inductive Elaborates : (s : Scope) → Named → {a : Ty} → Expr s.context a → Prop
  | var {s : Scope} {x : String} {a : Ty} {v : Var s.context a} (h : s.find? x = some ⟨a, v⟩) :
      Elaborates s (.var x) (.var v)
  | lam {s : Scope} {x : String} {a b : Ty} {t : Named} {e : Expr (a :: s.context) b}
      (h : Elaborates ((x, a) :: s) t e) : Elaborates s (.lam x a t) (.lam e)
  | share {s : Scope} {x : String} {a b : Ty} {t u : Named} {e : Expr s.context a}
      {f : Expr (a :: s.context) b} (h₁ : Elaborates s t e)
      (h₂ : Elaborates ((x, a) :: s) u f) : Elaborates s (.share x t u) (.share e f)
  | app {s : Scope} {a b : Ty} {t u : Named} {e : Expr s.context (.fn a b)}
      {f : Expr s.context a} (h₁ : Elaborates s t e) (h₂ : Elaborates s u f) :
      Elaborates s (.app t u) (.app e f)
  | int {s : Scope} (n : Int64) : Elaborates s (.int n) (.int n)
  | add {s : Scope} {t u : Named} {e f : Expr s.context .int} (h₁ : Elaborates s t e)
      (h₂ : Elaborates s u f) : Elaborates s (.add t u) (.add e f)
  | nil {s : Scope} (a : Ty) : Elaborates s (.nil a) (.nil (a := a))
  | cons {s : Scope} {a : Ty} {t u : Named} {e : Expr s.context a}
      {f : Expr s.context (.list a)} (h₁ : Elaborates s t e) (h₂ : Elaborates s u f) :
      Elaborates s (.cons t u) (.cons e f)
  | map {s : Scope} {a b : Ty} {t u : Named} {e : Expr s.context (.fn a b)}
      {f : Expr s.context (.list a)} (h₁ : Elaborates s t e) (h₂ : Elaborates s u f) :
      Elaborates s (.map t u) (.map e f)
  | bool {s : Scope} (b : Bool) : Elaborates s (.bool b) (.bool b)
  | ite {s : Scope} {a : Ty} {t u v : Named} {e : Expr s.context .bool}
      {f g : Expr s.context a} (h₁ : Elaborates s t e) (h₂ : Elaborates s u f)
      (h₃ : Elaborates s v g) : Elaborates s (.ite t u v) (.ite e f g)
  | not {s : Scope} {t : Named} {e : Expr s.context .bool} (h : Elaborates s t e) :
      Elaborates s (.not t) (.not e)
  | string {s : Scope} (w : String) : Elaborates s (.string w) (.string w)
  | length {s : Scope} {a : Ty} {t : Named} {e : Expr s.context a} (c : a.Countable)
      (h : Elaborates s t e) : Elaborates s (.length t) (.length c e)
  | equals {s : Scope} {a : Ty} {t u : Named} {e f : Expr s.context a} (g : a.Ground)
      (h₁ : Elaborates s t e) (h₂ : Elaborates s u f) :
      Elaborates s (.equals t u) (.equals g e f)
  | constant {s : Scope} {a : Ty} (c : Constant a) :
      Elaborates s (.constant c) (.constant c)
  | churchToInt {s : Scope} {t : Named} {e : Expr s.context (Ty.church .int)}
      (h : Elaborates s t e) : Elaborates s (.churchToInt t) e.churchToInt
  | incrementEach {s : Scope} {t : Named} {e : Expr s.context (.list .int)}
      (h : Elaborates s t e) : Elaborates s (.incrementEach t) e.incrementEach

lemma elaborate?_of_elaborates {s : Scope} {t : Named} {a : Ty} {e : Expr s.context a}
    (h : Elaborates s t e) : t.elaborate? s = some ⟨a, e⟩ := by
  induction h with
  | var h => simp [elaborate?, h]
  | length c h ih => simp [elaborate?, ih, Ty.Countable.countable?_eq c]
  | equals g h₁ h₂ ih₁ ih₂ => simp [elaborate?, ih₁, ih₂, Ty.Ground.ground?_eq g]
  | _ => simp_all [elaborate?]

/-- An operand that has the type it is asked for. -/
lemma bind_cast?_eq_some {Γ : Context} {a : Ty} {o : Option (Σ b, Expr Γ b)} {e : Expr Γ a} :
    o.bind (Expr.cast? a) = some e ↔ o = some ⟨a, e⟩ := by
  cases o with
  | none => simp
  | some t => simp [Expr.cast?_eq_some]

lemma elaborates_of_elaborate? {s : Scope} {t : Named} {a : Ty} {e : Expr s.context a}
    (h : t.elaborate? s = some ⟨a, e⟩) : Elaborates s t e := by
  induction t generalizing s a with
  | var x =>
    simp only [elaborate?, Option.map_eq_some_iff] at h
    obtain ⟨⟨b, v⟩, hv, h⟩ := h
    cases h
    exact .var hv
  | lam x b body ih =>
    simp only [elaborate?, Option.map_eq_some_iff] at h
    obtain ⟨⟨c, f⟩, hf, h⟩ := h
    cases h
    exact .lam (ih hf)
  | share x t u ih₁ ih₂ =>
    simp only [elaborate?, Option.bind_eq_some_iff, Option.map_eq_some_iff] at h
    obtain ⟨⟨b, f⟩, hf, ⟨c, g⟩, hg, h⟩ := h
    cases h
    exact .share (ih₁ hf) (ih₂ hg)
  | app t u ih₁ ih₂ =>
    simp only [elaborate?, Option.bind_eq_some_iff] at h
    obtain ⟨⟨b, f⟩, hf, h⟩ := h
    cases b with
    | fn b c =>
      simp only [Option.map_eq_some_iff, bind_cast?_eq_some] at h
      obtain ⟨g, hg, h⟩ := h
      cases h
      exact .app (ih₁ hf) (ih₂ hg)
    | _ => cases h
  | int n => cases h; exact .int n
  | add t u ih₁ ih₂ =>
    simp only [elaborate?, Option.bind_eq_some_iff, Option.map_eq_some_iff,
      ↓bind_cast?_eq_some] at h
    obtain ⟨f, hf, g, hg, h⟩ := h
    cases h
    exact .add (ih₁ hf) (ih₂ hg)
  | nil b => cases h; exact .nil b
  | cons t u ih₁ ih₂ =>
    simp only [elaborate?, Option.bind_eq_some_iff, Option.map_eq_some_iff,
      ↓bind_cast?_eq_some] at h
    obtain ⟨⟨b, f⟩, hf, g, hg, h⟩ := h
    cases h
    exact .cons (ih₁ hf) (ih₂ hg)
  | map t u ih₁ ih₂ =>
    simp only [elaborate?, Option.bind_eq_some_iff] at h
    obtain ⟨⟨b, f⟩, hf, h⟩ := h
    cases b with
    | fn b c =>
      simp only [Option.map_eq_some_iff, bind_cast?_eq_some] at h
      obtain ⟨g, hg, h⟩ := h
      cases h
      exact .map (ih₁ hf) (ih₂ hg)
    | _ => cases h
  | bool b => cases h; exact .bool b
  | ite t u v ih₁ ih₂ ih₃ =>
    simp only [elaborate?, Option.bind_eq_some_iff, Option.map_eq_some_iff,
      ↓bind_cast?_eq_some] at h
    obtain ⟨f, hf, ⟨b, g⟩, hg, k, hk, h⟩ := h
    cases h
    exact .ite (ih₁ hf) (ih₂ hg) (ih₃ hk)
  | not t ih =>
    simp only [elaborate?, Option.map_eq_some_iff, bind_cast?_eq_some] at h
    obtain ⟨f, hf, h⟩ := h
    cases h
    exact .not (ih hf)
  | string w => cases h; exact .string w
  | length t ih =>
    simp only [elaborate?, Option.bind_eq_some_iff, Option.map_eq_some_iff] at h
    obtain ⟨⟨b, f⟩, hf, c, hc, h⟩ := h
    cases h
    exact .length c (ih hf)
  | equals t u ih₁ ih₂ =>
    simp only [elaborate?, Option.bind_eq_some_iff, Option.map_eq_some_iff,
      ↓bind_cast?_eq_some] at h
    obtain ⟨⟨b, f⟩, hf, g, hg, k, hk, h⟩ := h
    cases h
    exact .equals g (ih₁ hf) (ih₂ hk)
  | constant c => cases h; exact .constant c
  | churchToInt t ih =>
    simp only [elaborate?, Option.map_eq_some_iff, bind_cast?_eq_some] at h
    obtain ⟨f, hf, h⟩ := h
    cases h
    exact .churchToInt (ih hf)
  | incrementEach t ih =>
    simp only [elaborate?, Option.map_eq_some_iff, bind_cast?_eq_some] at h
    obtain ⟨f, hf, h⟩ := h
    cases h
    exact .incrementEach (ih hf)

/-- **The check follows the rules**: it finds an expression exactly when they give it. -/
theorem elaborate?_eq_some_iff {s : Scope} {t : Named} {a : Ty} {e : Expr s.context a} :
    t.elaborate? s = some ⟨a, e⟩ ↔ Elaborates s t e :=
  ⟨elaborates_of_elaborate?, elaborate?_of_elaborates⟩

end Named

end TypedLambda
