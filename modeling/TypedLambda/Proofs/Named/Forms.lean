import TypedLambda.Proofs.Named.Typing

/-!
Terms by the number of their operands. Forms with as many operands differ in the types they ask
for, so that what does not look at types is proved once for all of them. Main statement: an
induction along the rules in which a number of operands is one case.
-/

namespace TypedLambda.Named

/-- The forms without operands, at their types. -/
inductive Leaf : Ty → Type
  | int (n : Int64) : Leaf .int
  | nil (a : Ty) : Leaf (.list a)
  | bool (b : Bool) : Leaf .bool
  | string (s : String) : Leaf .string
  | constant {a : Ty} (c : Constant a) : Leaf a

/-- The forms with one operand. -/
inductive Unary where
  | not
  | length
  | churchToInt
  | incrementEach

/-- The forms with two operands. -/
inductive Binary where
  | app
  | add
  | cons
  | map
  | equals

variable {s : Scope} {t u : Named} {a b c : Ty}

namespace Leaf

def term : Leaf a → Named
  | int n => .int n
  | nil b => .nil b
  | bool b => .bool b
  | string w => .string w
  | constant c => .constant c

def expr {Γ : Context} : Leaf a → Expr Γ a
  | int n => .int n
  | nil _ => .nil
  | bool b => .bool b
  | string w => .string w
  | constant c => .constant c

lemma elaborates (l : Leaf a) : Elaborates s l.term l.expr := by
  cases l with
  | int n => exact .int n
  | nil b => exact .nil b
  | bool b => exact .bool b
  | string w => exact .string w
  | constant c => exact .constant c

end Leaf

namespace Unary

def term : Unary → Named → Named
  | not => .not
  | length => .length
  | churchToInt => .churchToInt
  | incrementEach => .incrementEach

/-- The type of the operand and that of the term. -/
inductive Typed : Unary → Ty → Ty → Type
  | not : Typed .not .bool .bool
  | length {a : Ty} (c : a.Countable) : Typed .length a .int
  | churchToInt : Typed .churchToInt (Ty.church .int) .int
  | incrementEach : Typed .incrementEach (.list .int) (.list .int)

namespace Typed

variable {o : Unary}

def expr {Γ : Context} : o.Typed a b → Expr Γ a → Expr Γ b
  | not => .not
  | length c => .length c
  | churchToInt => Expr.churchToInt
  | incrementEach => Expr.incrementEach

lemma elaborates (k : o.Typed a b) {e : Expr s.context a} (h : Elaborates s t e) :
    Elaborates s (o.term t) (k.expr e) := by
  cases k with
  | not => exact .not h
  | length c => exact .length c h
  | churchToInt => exact .churchToInt h
  | incrementEach => exact .incrementEach h

lemma interpret_congr {R : Ty → Type} [Representation R] {Γ : Context} {ρ : Env R Γ}
    (k : o.Typed a b) {e e' : Expr Γ a} (h : e'.interpret R ρ = e.interpret R ρ) :
    (k.expr e').interpret R ρ = (k.expr e).interpret R ρ := by
  cases k <;>
    simp [expr, Expr.interpret, Expr.interpret_churchToInt, Expr.interpret_incrementEach, h]

end Typed

end Unary

namespace Binary

def term : Binary → Named → Named → Named
  | app => .app
  | add => .add
  | cons => .cons
  | map => .map
  | equals => .equals

/-- The types of the operands and that of the term. -/
inductive Typed : Binary → Ty → Ty → Ty → Type
  | app {a b : Ty} : Typed .app (.fn a b) a b
  | add : Typed .add .int .int .int
  | cons {a : Ty} : Typed .cons a (.list a) (.list a)
  | map {a b : Ty} : Typed .map (.fn a b) (.list a) (.list b)
  | equals {a : Ty} (g : a.Ground) : Typed .equals a a .bool

namespace Typed

variable {o : Binary}

def expr {Γ : Context} : o.Typed a b c → Expr Γ a → Expr Γ b → Expr Γ c
  | app => .app
  | add => .add
  | cons => .cons
  | map => .map
  | equals g => .equals g

lemma elaborates (k : o.Typed a b c) {e : Expr s.context a} {f : Expr s.context b}
    (h₁ : Elaborates s t e) (h₂ : Elaborates s u f) :
    Elaborates s (o.term t u) (k.expr e f) := by
  cases k with
  | app => exact .app h₁ h₂
  | add => exact .add h₁ h₂
  | cons => exact .cons h₁ h₂
  | map => exact .map h₁ h₂
  | equals g => exact .equals g h₁ h₂

lemma interpret_congr {R : Ty → Type} [Representation R] {Γ : Context} {ρ : Env R Γ}
    (k : o.Typed a b c) {e e' : Expr Γ a} {f f' : Expr Γ b}
    (h₁ : e'.interpret R ρ = e.interpret R ρ) (h₂ : f'.interpret R ρ = f.interpret R ρ) :
    (k.expr e' f').interpret R ρ = (k.expr e f).interpret R ρ := by
  cases k <;> simp [expr, Expr.interpret, h₁, h₂]

end Typed

end Binary

namespace Elaborates

/-- A form with one operand stands for the same form of what its operand stands for. -/
lemma operand {o : Unary} {e : Expr s.context b} (h : Elaborates s (o.term t) e) :
    ∃ (a : Ty) (k : o.Typed a b) (f : Expr s.context a), e = k.expr f ∧ Elaborates s t f := by
  cases o with
  | not => cases h with | not h => exact ⟨_, .not, _, rfl, h⟩
  | length => cases h with | length c h => exact ⟨_, .length c, _, rfl, h⟩
  | churchToInt => cases h with | churchToInt h => exact ⟨_, .churchToInt, _, rfl, h⟩
  | incrementEach => cases h with | incrementEach h => exact ⟨_, .incrementEach, _, rfl, h⟩

/-- A form with two operands stands for the same form of what its operands stand for. -/
lemma operands {o : Binary} {e : Expr s.context c} (h : Elaborates s (o.term t u) e) :
    ∃ (a b : Ty) (k : o.Typed a b c) (f : Expr s.context a) (g : Expr s.context b),
      e = k.expr f g ∧ Elaborates s t f ∧ Elaborates s u g := by
  cases o with
  | app => cases h with | app h₁ h₂ => exact ⟨_, _, .app, _, _, rfl, h₁, h₂⟩
  | add => cases h with | add h₁ h₂ => exact ⟨_, _, .add, _, _, rfl, h₁, h₂⟩
  | cons => cases h with | cons h₁ h₂ => exact ⟨_, _, .cons, _, _, rfl, h₁, h₂⟩
  | map => cases h with | map h₁ h₂ => exact ⟨_, _, .map, _, _, rfl, h₁, h₂⟩
  | equals => cases h with | equals g h₁ h₂ => exact ⟨_, _, .equals g, _, _, rfl, h₁, h₂⟩

/-- **Induction along the rules**, with one case for each number of operands. -/
@[elab_as_elim]
theorem forms
    {motive : ∀ (s : Scope) (t : Named) {a : Ty} (e : Expr s.context a), Elaborates s t e → Prop}
    (var : ∀ {s : Scope} {x : String} {a : Ty} {v : Var s.context a}
      (h : s.find? x = some ⟨a, v⟩), motive s (.var x) (.var v) (.var h))
    (lam : ∀ {s : Scope} {x : String} {a b : Ty} {t : Named} {e : Expr (a :: s.context) b}
      (h : Elaborates ((x, a) :: s) t e), motive ((x, a) :: s) t e h →
        motive s (.lam x a t) (.lam e) (.lam h))
    (share : ∀ {s : Scope} {x : String} {a b : Ty} {t u : Named} {e : Expr s.context a}
      {f : Expr (a :: s.context) b} (h₁ : Elaborates s t e) (h₂ : Elaborates ((x, a) :: s) u f),
        motive s t e h₁ → motive ((x, a) :: s) u f h₂ →
          motive s (.share x t u) (.share e f) (.share h₁ h₂))
    (leaf : ∀ {s : Scope} {a : Ty} (l : Leaf a), motive s l.term l.expr l.elaborates)
    (unary : ∀ {s : Scope} {o : Unary} {a b : Ty} {t : Named} {e : Expr s.context a}
      (k : o.Typed a b) (h : Elaborates s t e), motive s t e h →
        motive s (o.term t) (k.expr e) (k.elaborates h))
    (binary : ∀ {s : Scope} {o : Binary} {a b c : Ty} {t u : Named} {e : Expr s.context a}
      {f : Expr s.context b} (k : o.Typed a b c) (h₁ : Elaborates s t e) (h₂ : Elaborates s u f),
        motive s t e h₁ → motive s u f h₂ →
          motive s (o.term t u) (k.expr e f) (k.elaborates h₁ h₂))
    (ite : ∀ {s : Scope} {a : Ty} {t u v : Named} {e : Expr s.context .bool}
      {f g : Expr s.context a} (h₁ : Elaborates s t e) (h₂ : Elaborates s u f)
      (h₃ : Elaborates s v g), motive s t e h₁ → motive s u f h₂ → motive s v g h₃ →
        motive s (.ite t u v) (.ite e f g) (.ite h₁ h₂ h₃))
    {s : Scope} {t : Named} {a : Ty} {e : Expr s.context a} (h : Elaborates s t e) :
    motive s t e h := by
  induction h with
  | var h => exact var h
  | lam h ih => exact lam h ih
  | share h₁ h₂ ih₁ ih₂ => exact share h₁ h₂ ih₁ ih₂
  | app h₁ h₂ ih₁ ih₂ => exact binary .app h₁ h₂ ih₁ ih₂
  | int n => exact leaf (.int n)
  | add h₁ h₂ ih₁ ih₂ => exact binary .add h₁ h₂ ih₁ ih₂
  | nil a => exact leaf (.nil a)
  | cons h₁ h₂ ih₁ ih₂ => exact binary .cons h₁ h₂ ih₁ ih₂
  | map h₁ h₂ ih₁ ih₂ => exact binary .map h₁ h₂ ih₁ ih₂
  | bool b => exact leaf (.bool b)
  | ite h₁ h₂ h₃ ih₁ ih₂ ih₃ => exact ite h₁ h₂ h₃ ih₁ ih₂ ih₃
  | not h ih => exact unary .not h ih
  | string w => exact leaf (.string w)
  | length c h ih => exact unary (.length c) h ih
  | equals g h₁ h₂ ih₁ ih₂ => exact binary (.equals g) h₁ h₂ ih₁ ih₂
  | constant c => exact leaf (.constant c)
  | churchToInt h ih => exact unary .churchToInt h ih
  | incrementEach h ih => exact unary .incrementEach h ih

end Elaborates

end TypedLambda.Named
