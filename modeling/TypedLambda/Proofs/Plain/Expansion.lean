import TypedLambda.Proofs.Plain.Basic

/-!
The plain form of an expression: a shared term is copied to its places of use, under whatever
binders these stand, and a closed term that has a name is written out. Main statement: an
expression and its plain form are read alike by every representation.
-/

namespace TypedLambda

variable {Γ Δ : Context} {a b c : Ty}

namespace Plain

def identity : Plain Γ (.fn a a) := lam (var .here)

def const : Plain Γ (.fn a (.fn b a)) := lam (lam (var (.there .here)))

def succ : Plain Γ (.fn a.church a.church) :=
  lam (lam (lam (app (var (.there .here))
    (app (app (var (.there (.there .here))) (var (.there .here))) (var .here)))))

def numeral : Nat → Plain Γ a.church
  | 0 => app const identity
  | n + 1 => app succ (numeral n)

def addOne : Plain Γ (.fn .int .int) := lam (add (var .here) (int 1))

def intList (ns : List Int64) : Plain Γ (.list .int) := ns.foldr (fun n t => cons (int n) t) nil

end Plain

open Plain in
/-- The constant written out. -/
def Constant.plain {Γ : Context} : {a : Ty} → Constant a → Plain Γ a
  | _, identity => Plain.identity
  | _, selfApplication => app Plain.identity Plain.identity
  | _, thrush => lam (lam (app (var .here) (var (.there .here))))
  | _, const => Plain.const
  | _, compose => lam (lam (lam (app (var (.there (.there .here)))
      (app (var (.there .here)) (var .here)))))
  | _, flip => lam (lam (lam (app (app (var (.there (.there .here))) (var .here))
      (var (.there .here)))))
  | _, succ => Plain.succ
  | _, numeral n => Plain.numeral n
  | _, addOne => Plain.addOne
  | _, twoToInt => app (app (Plain.numeral 2) Plain.addOne) (int 0)
  | _, intList ns => Plain.intList ns
  | _, branch => ite (not (bool true)) (bool false) (bool true)
  | _, guardedList => cons (int 0)
      (ite (equals .int (add (int 23) (int 27)) (int 50)) (Plain.intList [1, 2, 3]) nil)
  | _, mapNot => map (lam (not (var .here))) (cons (bool true) (cons (bool false) nil))
  | _, increments => map Plain.addOne (Plain.intList [1, 2, 3])
  | _, greetingLength => length .string (string "hello, world")

/-- The plain form of an expression whose variables stand for the given terms. -/
def Expr.expand {Γ Δ : Context} {a : Ty} (s : Substitution Γ Δ) (e : Expr Γ a) : Plain Δ a :=
  match e with
  | var x => s x
  | lam body => .lam (body.expand s.lift)
  | share e body => body.expand (s.push (e.expand s))
  | app f x => .app (f.expand s) (x.expand s)
  | int n => .int n
  | add l r => .add (l.expand s) (r.expand s)
  | nil => .nil
  | cons h t => .cons (h.expand s) (t.expand s)
  | map f xs => .map (f.expand s) (xs.expand s)
  | bool b => .bool b
  | ite c p n => .ite (c.expand s) (p.expand s) (n.expand s)
  | not x => .not (x.expand s)
  | string t => .string t
  | length h xs => .length h (xs.expand s)
  | equals h l r => .equals h (l.expand s) (r.expand s)
  | constant c => c.plain

/-- The plain form of a closed expression. -/
def Expr.plain (e : Expr [] a) : Plain [] a := e.expand Env.empty

variable {R : Ty → Type} [Representation R]

namespace Plain

lemma interpret_numeral (n : Nat) (ρ : Env R Γ) :
    (numeral n : Plain Γ a.church).interpret R ρ = Church.numeral n := by
  induction n with
  | zero => rfl
  | succ n ih =>
    change Binding.apply (succ.interpret R ρ) _ = _
    rw [ih]
    rfl

lemma interpret_intList (ns : List Int64) (ρ : Env R Γ) :
    (intList ns).interpret R ρ = Sample.intList ns := by
  induction ns with
  | nil => rfl
  | cons n ns ih =>
    change Sequences.cons _ ((intList ns).interpret R ρ) = _
    rw [ih]
    rfl

end Plain

theorem Constant.interpret_plain (c : Constant a) (ρ : Env R Γ) :
    c.plain.interpret R ρ = c.interpret R := by
  cases c with
  | numeral n => exact Plain.interpret_numeral n ρ
  | intList ns => exact Plain.interpret_intList ns ρ
  | _ => rfl

theorem Expr.interpret_expand (e : Expr Γ a) (s : Substitution Γ Δ) (ρ : Env R Δ) :
    (e.expand s).interpret R ρ = e.interpret R (s.map fun _ p => p.interpret R ρ) := by
  induction e generalizing Δ with
  | constant c => exact c.interpret_plain ρ
  | share e body ih₁ ih₂ => rw [expand, ih₂, Env.map_push, ih₁]; rfl
  | _ => simp_all [expand, interpret, Plain.interpret, Plain.interpret_lift]

/-- Every representation reads a closed expression as it reads its plain form. -/
theorem Expr.interpret_plain (e : Expr [] a) (ρ : Env R []) :
    e.plain.interpret R ρ = e.interpret R Env.empty := by
  rw [plain, interpret_expand]
  congr 1
  exact Env.eq_empty _

theorem Expr.value_plain (e : Expr [] a) : e.plain.value = e.value := e.interpret_plain _

end TypedLambda
