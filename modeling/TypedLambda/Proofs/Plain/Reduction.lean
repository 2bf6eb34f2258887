import Mathlib.Logic.Relation
import TypedLambda.Proofs.Plain.Expansion

/-!
Reduction of plain terms, by rules that look at nothing but the term, at any place in it, under
binders too. Main statement: a step leaves the value alone, in every environment.
-/

namespace TypedLambda.Plain

variable {Γ : Context} {a b : Ty}

/-- A list of the given terms. -/
def spine (ts : List (Plain Γ a)) : Plain Γ (.list a) := ts.foldr cons nil

/-- Numbers, truth values, texts, and lists of literals. -/
inductive IsLiteral : {a : Ty} → Plain Γ a → Prop
  | int (n : Int64) : IsLiteral (int n)
  | bool (b : Bool) : IsLiteral (bool b)
  | string (s : String) : IsLiteral (string s)
  | nil {a : Ty} : IsLiteral (nil (a := a))
  | cons {a : Ty} {h : Plain Γ a} {t : Plain Γ (.list a)} (hh : IsLiteral h)
      (ht : IsLiteral t) : IsLiteral (cons h t)

/-- One step. The first rules compute, and the others say where. -/
inductive Step : {Γ : Context} → {a : Ty} → Plain Γ a → Plain Γ a → Prop
  | beta {Γ : Context} {a b : Ty} (body : Plain (a :: Γ) b) (x : Plain Γ a) :
      Step (app (lam body) x) (body.instantiate x)
  | sum {Γ : Context} (m n : Int64) :
      Step (add (int m) (int n) : Plain Γ .int) (int (Int64.ofInt (m.toInt + n.toInt)))
  | mapNil {Γ : Context} {a b : Ty} (f : Plain Γ (.fn a b)) : Step (map f nil) nil
  | mapCons {Γ : Context} {a b : Ty} (f : Plain Γ (.fn a b)) (h : Plain Γ a)
      (t : Plain Γ (.list a)) : Step (map f (cons h t)) (cons (app f h) (map f t))
  | iteTrue {Γ : Context} {a : Ty} (p q : Plain Γ a) : Step (ite (bool true) p q) p
  | iteFalse {Γ : Context} {a : Ty} (p q : Plain Γ a) : Step (ite (bool false) p q) q
  | negate {Γ : Context} (b : Bool) : Step (not (bool b) : Plain Γ .bool) (bool (!b))
  | countText {Γ : Context} (c : Ty.Countable .string) (s : String) {k : Int64}
      (hk : k.toInt = min (s.length : Int) Int64.maxValue.toInt) :
      Step (length c (string s) : Plain Γ .int) (int k)
  | countList {Γ : Context} {a : Ty} (c : Ty.Countable (.list a)) (ts : List (Plain Γ a))
      {k : Int64} (hk : k.toInt = min (ts.length : Int) Int64.maxValue.toInt) :
      Step (length c (spine ts)) (int k)
  | same {Γ : Context} {a : Ty} (g : a.Ground) {v : Plain Γ a} (hv : IsLiteral v) :
      Step (equals g v v) (bool true)
  | different {Γ : Context} {a : Ty} (g : a.Ground) {v w : Plain Γ a} (hv : IsLiteral v)
      (hw : IsLiteral w) (h : v ≠ w) : Step (equals g v w) (bool false)
  | lam {Γ : Context} {a b : Ty} {p q : Plain (a :: Γ) b} (h : Step p q) : Step (lam p) (lam q)
  | appFun {Γ : Context} {a b : Ty} {f g : Plain Γ (.fn a b)} {x : Plain Γ a} (h : Step f g) :
      Step (app f x) (app g x)
  | appArg {Γ : Context} {a b : Ty} {f : Plain Γ (.fn a b)} {x y : Plain Γ a} (h : Step x y) :
      Step (app f x) (app f y)
  | addLeft {Γ : Context} {l m r : Plain Γ .int} (h : Step l m) : Step (add l r) (add m r)
  | addRight {Γ : Context} {l m r : Plain Γ .int} (h : Step m r) : Step (add l m) (add l r)
  | consHead {Γ : Context} {a : Ty} {x y : Plain Γ a} {t : Plain Γ (.list a)} (h : Step x y) :
      Step (cons x t) (cons y t)
  | consTail {Γ : Context} {a : Ty} {x : Plain Γ a} {t u : Plain Γ (.list a)} (h : Step t u) :
      Step (cons x t) (cons x u)
  | mapFun {Γ : Context} {a b : Ty} {f g : Plain Γ (.fn a b)} {t : Plain Γ (.list a)}
      (h : Step f g) : Step (map f t) (map g t)
  | mapList {Γ : Context} {a b : Ty} {f : Plain Γ (.fn a b)} {t u : Plain Γ (.list a)}
      (h : Step t u) : Step (map f t) (map f u)
  | iteCond {Γ : Context} {a : Ty} {c d : Plain Γ .bool} {p q : Plain Γ a} (h : Step c d) :
      Step (ite c p q) (ite d p q)
  | iteThen {Γ : Context} {a : Ty} {c : Plain Γ .bool} {p q r : Plain Γ a} (h : Step p r) :
      Step (ite c p q) (ite c r q)
  | iteElse {Γ : Context} {a : Ty} {c : Plain Γ .bool} {p q r : Plain Γ a} (h : Step q r) :
      Step (ite c p q) (ite c p r)
  | not {Γ : Context} {x y : Plain Γ .bool} (h : Step x y) : Step (not x) (not y)
  | length {Γ : Context} {a : Ty} {c : a.Countable} {x y : Plain Γ a} (h : Step x y) :
      Step (length c x) (length c y)
  | equalsLeft {Γ : Context} {a : Ty} {g : a.Ground} {l m r : Plain Γ a} (h : Step l m) :
      Step (equals g l r) (equals g m r)
  | equalsRight {Γ : Context} {a : Ty} {g : a.Ground} {l m r : Plain Γ a} (h : Step m r) :
      Step (equals g l m) (equals g l r)

/-- Finitely many steps. -/
abbrev Reduces : Plain Γ a → Plain Γ a → Prop := Relation.ReflTransGen Step

/-- What steps do at a place, they do in all that is around it. -/
lemma Reduces.congr {Δ : Context} {p q : Plain Γ a} (h : Reduces p q) (f : Plain Γ a → Plain Δ b)
    (hf : ∀ {p q : Plain Γ a}, Step p q → Step (f p) (f q)) : Reduces (f p) (f q) :=
  h.lift f fun _ _ => hf

/-! ### Values -/

lemma interpret_spine (ts : List (Plain Γ a)) (ρ : Env Ty.Value Γ) :
    (spine ts).interpret Ty.Value ρ = ts.map fun t => t.interpret Ty.Value ρ := by
  induction ts with
  | nil => rfl
  | cons t ts ih => exact congrArg (t.interpret Ty.Value ρ :: ·) ih

/-- Two literals with one value are one literal. -/
lemma IsLiteral.eq_of_interpret_eq {v w : Plain Γ a} (hv : IsLiteral v) (hw : IsLiteral w)
    {ρ : Env Ty.Value Γ} (h : v.interpret Ty.Value ρ = w.interpret Ty.Value ρ) : v = w := by
  induction hv with
  | int n => cases hw; exact congrArg Plain.int h
  | bool b => cases hw; exact congrArg Plain.bool h
  | string s => cases hw; exact congrArg Plain.string h
  | nil =>
    cases hw with
    | nil => rfl
    | cons _ _ => cases h
  | cons _ _ ihh iht =>
    cases hw with
    | nil => cases h
    | cons hh ht =>
      obtain ⟨h₁, h₂⟩ := List.cons.inj h
      rw [ihh hh h₁, iht ht h₂]

/-- The greatest number caps a length. -/
lemma toInt_saturate (n : Nat) :
    (saturate n).toInt = min (n : Int) Int64.maxValue.toInt := by
  have hmax : Int64.maxValue.toInt = 0x7fffffffffffffff := rfl
  rw [saturate_toInt, hmax]
  omega

lemma eq_saturate {k : Int64} {n : Nat} (h : k.toInt = min (n : Int) Int64.maxValue.toInt) :
    k = saturate n := by
  rw [← Int64.toInt_inj, toInt_saturate, h]

/-- A sum is that of the integers, wrapped to 64 bits. -/
lemma ofInt_add_toInt (m n : Int64) : Int64.ofInt (m.toInt + n.toInt) = m + n := by
  rw [Int64.ofInt_add, Int64.ofInt_toInt, Int64.ofInt_toInt]

theorem Step.interpret_eq {p q : Plain Γ a} (h : Step p q) (ρ : Env Ty.Value Γ) :
    p.interpret Ty.Value ρ = q.interpret Ty.Value ρ := by
  induction h with
  | beta body x => exact (body.interpret_instantiate x ρ).symm
  | sum m n => exact (ofInt_add_toInt m n).symm
  | mapNil | mapCons | iteTrue | iteFalse | negate => rfl
  | countText c s hk =>
    cases c
    exact (eq_saturate hk).symm
  | countList c ts hk =>
    cases c
    rw [eq_saturate hk, ← List.length_map (fun t => Plain.interpret Ty.Value t ρ),
      ← interpret_spine]
    rfl
  | same g hv => exact g.beq_eq_true.mpr rfl
  | different g hv hw h =>
    exact Bool.eq_false_iff.mpr fun h' => h (hv.eq_of_interpret_eq hw (g.beq_eq_true.mp h'))
  | lam h ih => exact funext fun x => ih (ρ.push x)
  | appFun h ih => exact congrFun (ih ρ) _
  | appArg h ih => exact congrArg _ (ih ρ)
  | _ h ih => simp only [interpret, ih ρ]

theorem Reduces.interpret_eq {p q : Plain Γ a} (h : Reduces p q) (ρ : Env Ty.Value Γ) :
    p.interpret Ty.Value ρ = q.interpret Ty.Value ρ := by
  induction h with
  | refl => rfl
  | tail _ hs ih => exact ih.trans (hs.interpret_eq ρ)

end TypedLambda.Plain
