import TypedLambda.Expr.Basic

/-!
Terms as they are written down: variables have names, binders and empty lists carry a type.
`Named.elaborate?` checks the types and replaces each name by the place of the innermost
variable that bears it, so names may be used again at will.
-/

namespace TypedLambda

inductive Named where
  | var (x : String)
  | lam (x : String) (a : Ty) (body : Named)
  | share (x : String) (e body : Named)
  | app (f x : Named)
  | int (n : Int64)
  | add (l r : Named)
  | nil (a : Ty)
  | cons (h t : Named)
  | map (f xs : Named)
  | bool (b : Bool)
  | ite (c p n : Named)
  | not (x : Named)
  | string (s : String)
  | length (xs : Named)
  | equals (l r : Named)
  | constant {a : Ty} (c : Constant a)
  | churchToInt (n : Named)
  | incrementEach (xs : Named)

/-- Names with their types, the innermost first. -/
abbrev Scope := List (String × Ty)

namespace Scope

abbrev context (s : Scope) : Context := s.map Prod.snd

/-- The innermost variable of that name. -/
def find? (x : String) : (s : Scope) → Option (Σ a, Var s.context a)
  | [] => none
  | (y, b) :: s => if x = y then some ⟨b, .here⟩ else (find? x s).map fun v => ⟨v.1, v.2.there⟩

end Scope

/-- The expression, if it has the type that is asked for. -/
def Expr.cast? {Γ : Context} (a : Ty) (e : Σ b, Expr Γ b) : Option (Expr Γ a) :=
  if h : e.1 = a then some (h ▸ e.2) else none

@[simp] theorem Expr.cast?_mk {Γ : Context} {a : Ty} (e : Expr Γ a) :
    Expr.cast? a ⟨a, e⟩ = some e := by simp [cast?]

theorem Expr.cast?_eq_some {Γ : Context} {a : Ty} {t : Σ b, Expr Γ b} {e : Expr Γ a} :
    Expr.cast? a t = some e ↔ t = ⟨a, e⟩ := by
  obtain ⟨b, u⟩ := t
  unfold cast?
  split
  · next h => cases h; simp
  · next h => simp only [Sigma.mk.injEq, reduceCtorEq, false_iff]; exact fun c => h c.1

namespace Named

/-- The expression that is written, with its type, if every name is in scope and every operand
has the type it should have. -/
def elaborate? (s : Scope) : Named → Option (Σ a, Expr s.context a)
  | var x => (s.find? x).map fun v => ⟨v.1, .var v.2⟩
  | lam x a body => (body.elaborate? ((x, a) :: s)).map fun e => ⟨.fn a e.1, .lam e.2⟩
  | share x e body => (e.elaborate? s).bind fun e =>
      (body.elaborate? ((x, e.1) :: s)).map fun b => ⟨b.1, .share e.2 b.2⟩
  | app f x => (f.elaborate? s).bind fun
      | ⟨.fn a b, f⟩ => ((x.elaborate? s).bind (Expr.cast? a)).map fun x => ⟨b, .app f x⟩
      | _ => none
  | int n => some ⟨.int, .int n⟩
  | add l r => ((l.elaborate? s).bind (Expr.cast? .int)).bind fun l =>
      ((r.elaborate? s).bind (Expr.cast? .int)).map fun r => ⟨.int, .add l r⟩
  | nil a => some ⟨.list a, .nil⟩
  | cons h t => (h.elaborate? s).bind fun h =>
      ((t.elaborate? s).bind (Expr.cast? (.list h.1))).map fun t => ⟨.list h.1, .cons h.2 t⟩
  | map f xs => (f.elaborate? s).bind fun
      | ⟨.fn a b, f⟩ => ((xs.elaborate? s).bind (Expr.cast? (.list a))).map fun xs =>
          ⟨.list b, .map f xs⟩
      | _ => none
  | bool b => some ⟨.bool, .bool b⟩
  | ite c p n => ((c.elaborate? s).bind (Expr.cast? .bool)).bind fun c =>
      (p.elaborate? s).bind fun p =>
        ((n.elaborate? s).bind (Expr.cast? p.1)).map fun n => ⟨p.1, .ite c p.2 n⟩
  | not x => ((x.elaborate? s).bind (Expr.cast? .bool)).map fun x => ⟨.bool, .not x⟩
  | string t => some ⟨.string, .string t⟩
  | length xs => (xs.elaborate? s).bind fun xs =>
      xs.1.countable?.map fun h => ⟨.int, .length h xs.2⟩
  | equals l r => (l.elaborate? s).bind fun l => l.1.ground?.bind fun h =>
      ((r.elaborate? s).bind (Expr.cast? l.1)).map fun r => ⟨.bool, .equals h l.2 r⟩
  | constant c => some ⟨_, .constant c⟩
  | churchToInt n => ((n.elaborate? s).bind (Expr.cast? (Ty.church .int))).map fun n =>
      ⟨.int, n.churchToInt⟩
  | incrementEach xs => ((xs.elaborate? s).bind (Expr.cast? (.list .int))).map fun xs =>
      ⟨.list .int, xs.incrementEach⟩

end Named

end TypedLambda
