import Mathlib.Tactic.Common
import TypedLambda.Proofs.Skeleton.Spelling

/-!
Terms without types, and what comes of running them. They are one more representation, so that a
closed term with a name needs no writing out by hand. Data are told apart by their shape alone, and
an operation that meets data of another shape than it needs ends the run with a fault. A run is
given a bound on the depth of its calls. Main statement: a run that ends within its bound ends in
the same way under every greater one.
-/

namespace TypedLambda

inductive Untyped where
  | var (x : String)
  | lam (x : String) (body : Untyped)
  | share (x : String) (e body : Untyped)
  | app (f x : Untyped)
  | int (n : Int64)
  | add (l r : Untyped)
  | nil
  | cons (h t : Untyped)
  | map (f xs : Untyped)
  | bool (b : Bool)
  | ite (c p n : Untyped)
  | not (x : Untyped)
  | string (s : String)
  | length (xs : Untyped)
  | equals (l r : Untyped)

/-- A term without its types, given the number of binders around it. -/
def Bare (_ : Ty) : Type := Nat → Untyped

instance : Representation Bare where
  apply f x n := .app (f n) (x n)
  lambda body n := .lam (binderName n) (body (fun _ => .var (binderName n)) (n + 1))
  int k _ := .int k
  add l r n := .add (l n) (r n)
  nil _ := .nil
  cons h t n := .cons (h n) (t n)
  map f xs n := .map (f n) (xs n)
  bool b _ := .bool b
  ite c p q n := .ite (c n) (p n) (q n)
  not x n := .not (x n)
  string s _ := .string s
  length _ xs n := .length (xs n)
  equals _ l r n := .equals (l n) (r n)

/-- The constant without the types it is taken at. -/
def Constant.untyped {a : Ty} (c : Constant a) : Untyped := c.interpret Bare 0

/-- The written term without the types of its binders, its empty lists and its constants. -/
def Named.erase : Named → Untyped
  | var x => .var x
  | lam x _ body => .lam x body.erase
  | share x e body => .share x e.erase body.erase
  | app f x => .app f.erase x.erase
  | int n => .int n
  | add l r => .add l.erase r.erase
  | nil _ => .nil
  | cons h t => .cons h.erase t.erase
  | map f xs => .map f.erase xs.erase
  | bool b => .bool b
  | ite c p n => .ite c.erase p.erase n.erase
  | not x => .not x.erase
  | string s => .string s
  | length xs => .length xs.erase
  | equals l r => .equals l.erase r.erase
  | constant c => c.untyped
  | churchToInt n => Church.toInt (R := Bare) (fun _ => n.erase) 0
  | incrementEach xs => Sample.incrementEach (R := Bare) (fun _ => xs.erase) 0

/-! ### Plain terms -/

section

variable {Γ : Context} {a b : Ty}

/-- The name of a variable, after the number of binders around its own. -/
def Var.name {a : Ty} : {Γ : Context} → Var Γ a → String
  | _ :: Γ, .here => binderName Γ.length
  | _ :: _, .there x => x.name

/-- No variable bears the name of the next binder. -/
lemma Var.name_ne (x : Var Γ a) : x.name ≠ binderName Γ.length := by
  have h : ∃ k < Γ.length, x.name = binderName k := by
    induction x with
    | here => exact ⟨_, Nat.lt_succ_self _, rfl⟩
    | there x ih =>
      obtain ⟨k, hk, hx⟩ := ih
      exact ⟨k, Nat.lt_succ_of_lt hk, hx⟩
  obtain ⟨k, hk, hx⟩ := h
  rw [hx, Ne, binderName_inj]
  exact Nat.ne_of_lt hk

/-- The plain term without its types, each variable under its name. -/
def Plain.untyped (p : Plain Γ a) : Untyped :=
  p.interpret Bare (fun _ x _ => .var x.name) Γ.length

lemma Plain.untyped_lam (p : Plain (b :: Γ) a) :
    (lam p).untyped = .lam (binderName Γ.length) p.untyped := by
  have hnames : Env.push (R := Bare) (fun _ (x : Var Γ _) _ => .var x.name)
      (fun _ => .var (binderName Γ.length)) = fun _ (x : Var (b :: Γ) _) _ => .var x.name := by
    ext c x
    cases x <;> rfl
  change Untyped.lam _ (p.interpret Bare (Env.push _ _) (Γ.length + 1)) = _
  rw [hnames]
  rfl

lemma Constant.untyped_plain (c : Constant a) : (c.plain : Plain [] a).untyped = c.untyped :=
  congrFun (c.interpret_plain (R := Bare) _) 0

end

/-! ### Data -/

/-- What a term runs to. A function is kept with the data that its variables have. -/
inductive Datum where
  | int (n : Int64)
  | bool (b : Bool)
  | string (s : String)
  | list (elems : List Datum)
  | closure (env : List (String × Datum)) (x : String) (body : Untyped)

/-- What an operation finds instead of what it needs. -/
inductive Fault where
  | unbound (x : String)
  | notInt
  | notBool
  | notList
  | notFunction
  | notCountable
  | notComparable
  deriving DecidableEq, Repr

/-- A run that may need more calls than its bound allows, and may end with a fault. -/
abbrev Run := ExceptT Fault Option

namespace Datum

def asInt : Datum → Except Fault Int64
  | int n => .ok n
  | _ => .error .notInt

def asBool : Datum → Except Fault Bool
  | bool b => .ok b
  | _ => .error .notBool

def asList : Datum → Except Fault (List Datum)
  | list ds => .ok ds
  | _ => .error .notList

/-- A function takes its argument to what the body runs to. -/
def asFunction (run : List (String × Datum) → Untyped → Run Datum) :
    Datum → Except Fault (Datum → Run Datum)
  | closure env x body => .ok fun d => run ((x, d) :: env) body
  | _ => .error .notFunction

/-- A text is counted in code points, a list in elements. -/
def count : Datum → Except Fault Nat
  | string s => .ok s.length
  | list ds => .ok ds.length
  | _ => .error .notCountable

mutual

/-- Whether two data are the same, if they have one shape and are no functions. -/
def same : Datum → Datum → Except Fault Bool
  | int m, int n => .ok (m == n)
  | bool b, bool c => .ok (b == c)
  | string s, string t => .ok (s == t)
  | list ds, list es => sameElems ds es
  | _, _ => .error .notComparable

/-- Whether two lists are equally long and the same element by element. -/
def sameElems : List Datum → List Datum → Except Fault Bool
  | d :: ds, e :: es => do
    let b ← same d e
    let c ← sameElems ds es
    return b && c
  | [], [] => .ok true
  | _, _ => .ok false

end

end Datum

/-! ### Runs -/

/-- Runs a term with calls nested up to a bound. Both branches of a conditional are run, as
both are terms already when it is made. -/
def Untyped.run : Nat → List (String × Datum) → Untyped → Run Datum
  | 0, _, _ => ExceptT.mk none
  | n + 1, env, t =>
    match t with
    | var x =>
      match env.lookup x with
      | some d => return d
      | none => throw (.unbound x)
    | lam x body => return .closure env x body
    | share x t u => do
      let d ← run n env t
      run n ((x, d) :: env) u
    | app t u => do
      let d ← run n env t
      let e ← run n env u
      let f ← d.asFunction (run n)
      f e
    | int m => return .int m
    | add t u => do
      let d ← run n env t
      let e ← run n env u
      return .int ((← d.asInt) + (← e.asInt))
    | nil => return .list []
    | cons t u => do
      let d ← run n env t
      let e ← run n env u
      return .list (d :: (← e.asList))
    | map t u => do
      let d ← run n env t
      let e ← run n env u
      let f ← d.asFunction (run n)
      return .list (← (← e.asList).mapM f)
    | bool b => return .bool b
    | ite t u v => do
      let c ← run n env t
      let d ← run n env u
      let e ← run n env v
      return if ← c.asBool then d else e
    | not t => do
      let d ← run n env t
      return .bool !(← d.asBool)
    | string s => return .string s
    | length t => do
      let d ← run n env t
      return .int (saturate (← d.count))
    | equals t u => do
      let d ← run n env t
      let e ← run n env u
      return .bool (← d.same e)

/-! ### Greater bounds -/

namespace Run

variable {α β : Type}

/-- Where the first run ends, the second one ends in the same way. -/
def Extends (x y : Run α) : Prop := ∀ r, x.run = some r → y.run = some r

lemma Extends.refl (x : Run α) : x.Extends x := fun _ h => h

lemma Extends.bind {x y : Run α} {f g : α → Run β} (h : x.Extends y)
    (hf : ∀ a, (f a).Extends (g a)) : (x >>= f).Extends (y >>= g) := by
  intro r hr
  rw [ExceptT.run_bind] at hr ⊢
  rcases hx : x.run with _ | e | a
  · rw [hx] at hr
    cases hr
  · rw [hx] at hr
    rw [h _ hx]
    exact hr
  · rw [hx] at hr
    rw [h _ hx]
    exact hf a r hr

lemma Extends.mapM {f g : α → Run β} (h : ∀ a, (f a).Extends (g a)) (as : List α) :
    (as.mapM f).Extends (as.mapM g) := by
  induction as with
  | nil => exact .refl _
  | cons a as ih =>
    rw [List.mapM_cons, List.mapM_cons]
    exact (h a).bind fun b => ih.bind fun bs => .refl _

end Run

open Run

lemma Datum.extends_asFunction {α : Type} {run run' : List (String × Datum) → Untyped → Run Datum}
    (h : ∀ env t, (run env t).Extends (run' env t)) (d : Datum)
    {k : (Datum → Run Datum) → Run α} (hk : ∀ f g, (∀ e, (f e).Extends (g e)) → (k f).Extends (k g)) :
    Extends (do k (← d.asFunction run)) (do k (← d.asFunction run')) := by
  cases d with
  | closure env x body => exact hk _ _ fun e => h ((x, e) :: env) body
  | _ => exact .refl _

/-- **A greater bound changes nothing** about a run that has ended. -/
theorem Untyped.run_extends {n m : Nat} (h : n ≤ m) (env : List (String × Datum)) (t : Untyped) :
    (t.run n env).Extends (t.run m env) := by
  induction n generalizing m env t with
  | zero =>
    intro r hr
    cases hr
  | succ n ih =>
    obtain ⟨m, rfl⟩ : ∃ k, m = k + 1 := ⟨m - 1, by omega⟩
    have ih : ∀ env t, (run n env t).Extends (run m env t) := ih (Nat.le_of_succ_le_succ h)
    cases t with
    | var x | lam x body | int k | nil | bool b | string s => exact .refl _
    | share x t u => exact (ih env t).bind fun d => ih _ u
    | app t u =>
      refine (ih env t).bind fun d => (ih env u).bind fun e => ?_
      exact d.extends_asFunction ih fun f g hfg => hfg e
    | map t u =>
      refine (ih env t).bind fun d => (ih env u).bind fun e => ?_
      refine d.extends_asFunction ih fun f g hfg => ?_
      exact Extends.bind (.refl _) fun ds => (Extends.mapM hfg ds).bind fun _ => .refl _
    | add t u | cons t u | equals t u =>
      exact (ih env t).bind fun d => (ih env u).bind fun e => .refl _
    | ite t u v =>
      exact (ih env t).bind fun c => (ih env u).bind fun d => (ih env v).bind fun e => .refl _
    | not t | length t => exact (ih env t).bind fun d => .refl _

end TypedLambda
