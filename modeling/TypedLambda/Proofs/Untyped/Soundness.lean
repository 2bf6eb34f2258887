import Mathlib.Data.List.Forall2
import Mathlib.Order.Filter.AtTopBot.Basic
import TypedLambda.Proofs.Named.Typing
import TypedLambda.Proofs.Untyped.Basic

/-!
Running a well typed term without its types. What a datum denotes at a type is said by recursion on
the type: a function denotes a value if it runs, on each datum that denotes an argument, to one
that denotes the result, and a list does so element by element. There is a rule for each form of
term, so constants, by way of their plain forms, are dealt with by the same rules as written terms.
Main statement: a well typed term runs to a datum that denotes its value.
-/

namespace TypedLambda

open Filter (atTop map_add_atTop_eq_nat)

variable {a b : Ty} {env : List (String × Datum)}

namespace Untyped

/-- Under all great enough bounds the run ends with the datum. -/
def Yields (t : Untyped) (env : List (String × Datum)) (d : Datum) : Prop :=
  ∀ᶠ n in atTop, t.run n env = pure d

/-- What is made of parts under a bound needs one call more. -/
lemma Yields.of_succ {t : Untyped} {d : Datum} (h : ∀ᶠ n in atTop, t.run (n + 1) env = pure d) :
    t.Yields env d := by
  rw [Yields, ← map_add_atTop_eq_nat 1]
  exact h

/-- Some bound is great enough for the closed term, and whatever the bound, a run that ends ends
with the datum. -/
def EndsIn (t : Untyped) (d : Datum) : Prop :=
  (∃ n, t.run n [] = pure d) ∧ ∀ n r, (t.run n []).run = some r → r = .ok d

lemma Yields.endsIn {t : Untyped} {d : Datum} (h : t.Yields [] d) : t.EndsIn d := by
  obtain ⟨n, hn⟩ := h.exists
  refine ⟨⟨n, hn⟩, fun m r hr => ?_⟩
  have hn := run_extends (Nat.le_max_left n m) [] t (.ok d) (congrArg ExceptT.run hn)
  have hm := run_extends (Nat.le_max_right n m) [] t r hr
  exact Option.some.inj (hm.symm.trans hn)

lemma EndsIn.unique {t : Untyped} {d e : Datum} (hd : t.EndsIn d) (he : t.EndsIn e) : d = e := by
  obtain ⟨n, hn⟩ := hd.1
  exact Except.ok.inj (he.2 n (.ok d) (congrArg ExceptT.run hn))

end Untyped

open Untyped

/-- The datum has the type, and the value is what it stands for. -/
def Datum.Denotes : (a : Ty) → Datum → a.Value → Prop
  | .int, d, n => d = int n
  | .bool, d, b => d = bool b
  | .string, d, s => d = string s
  | .list a, d, vs => ∃ ds, d = list ds ∧ List.Forall₂ (Denotes a) ds vs
  | .fn a b, d, f => ∃ env x body, d = closure env x body ∧
      ∀ e v, Denotes a e v → ∃ r, body.Yields ((x, e) :: env) r ∧ Denotes b r (f v)

namespace Datum

lemma count_of_denotes (c : a.Countable) {d : Datum} {v : a.Value} (h : d.Denotes a v) :
    d.count = .ok (c.count v) := by
  cases c with
  | string =>
    obtain rfl := h
    rfl
  | list =>
    obtain ⟨ds, rfl, hds⟩ := h
    exact congrArg Except.ok hds.length_eq

/-- Data of a ground type are compared as the values are. -/
lemma same_of_denotes (g : a.Ground) {d e : Datum} {v w : a.Value} (hd : d.Denotes a v)
    (he : e.Denotes a w) : d.same e = .ok (g.beq v w) := by
  induction g generalizing d e with
  | int | bool | string =>
    obtain rfl := hd
    obtain rfl := he
    rfl
  | list g ih =>
    obtain ⟨ds, rfl, hds⟩ := hd
    obtain ⟨es, rfl, hes⟩ := he
    rw [same]
    -- The values are compared in length first and then in pairs, the data in pairs throughout.
    induction hds generalizing es w with
    | nil => cases hes <;> rfl
    | cons hd _ ihs =>
      cases hes with
      | nil => rfl
      | @cons _ w _ ws he hes =>
        rw [sameElems, ih hd he, ihs _ hes]
        refine congrArg Except.ok ?_
        simp [Ty.Ground.beq, Bool.and_left_comm]

end Datum

namespace Untyped

/-- In the environment, the term runs to a datum that denotes the value. -/
def Runs (t : Untyped) (env : List (String × Datum)) (a : Ty) (v : a.Value) : Prop :=
  ∃ d, t.Yields env d ∧ d.Denotes a v

namespace Runs

variable {t u : Untyped} {x : String} {d : Datum}

lemma var {v : a.Value} (h : env.lookup x = some d) (hd : d.Denotes a v) :
    (Untyped.var x).Runs env a v := by
  refine ⟨d, .of_succ (.of_forall fun n => ?_), hd⟩
  rw [run, h]

lemma lam {f : a.Value → b.Value}
    (h : ∀ d v, d.Denotes a v → t.Runs ((x, d) :: env) b (f v)) :
    (Untyped.lam x t).Runs env (.fn a b) f :=
  ⟨.closure env x t, .of_succ (.of_forall fun _ => rfl), env, x, t, rfl, h⟩

lemma share {v : a.Value} {w : b.Value} (ht : t.Runs env a v)
    (hu : ∀ d, d.Denotes a v → u.Runs ((x, d) :: env) b w) :
    (Untyped.share x t u).Runs env b w := by
  obtain ⟨d, hd, hdv⟩ := ht
  obtain ⟨e, he, hew⟩ := hu d hdv
  refine ⟨e, .of_succ ?_, hew⟩
  filter_upwards [hd, he] with n hn hm
  rw [run, hn, pure_bind, hm]

lemma app {f : a.Value → b.Value} {v : a.Value} (ht : t.Runs env (.fn a b) f)
    (hu : u.Runs env a v) : (Untyped.app t u).Runs env b (f v) := by
  obtain ⟨_, hd, env', x, body, rfl, hf⟩ := ht
  obtain ⟨e, he, hev⟩ := hu
  obtain ⟨r, hr, hrv⟩ := hf e v hev
  refine ⟨r, .of_succ ?_, hrv⟩
  filter_upwards [hd, he, hr] with n hn hm hk
  rw [run, hn, hm]
  exact hk

lemma int (m : Int64) : (Untyped.int m).Runs env .int m :=
  ⟨.int m, .of_succ (.of_forall fun _ => rfl), rfl⟩

lemma add {m k : Int64} (ht : t.Runs env .int m) (hu : u.Runs env .int k) :
    (Untyped.add t u).Runs env .int (m + k) := by
  obtain ⟨_, hd, rfl⟩ := ht
  obtain ⟨_, he, rfl⟩ := hu
  refine ⟨.int (m + k), .of_succ ?_, rfl⟩
  filter_upwards [hd, he] with n hn hm
  rw [run, hn, hm]
  rfl

lemma nil : Untyped.nil.Runs env (.list a) [] :=
  ⟨.list [], .of_succ (.of_forall fun _ => rfl), [], rfl, .nil⟩

lemma cons {v : a.Value} {vs : List a.Value} (ht : t.Runs env a v)
    (hu : u.Runs env (.list a) vs) : (Untyped.cons t u).Runs env (.list a) (v :: vs) := by
  obtain ⟨d, hd, hdv⟩ := ht
  obtain ⟨_, he, ds, rfl, hds⟩ := hu
  refine ⟨.list (d :: ds), .of_succ ?_, d :: ds, rfl, .cons hdv hds⟩
  filter_upwards [hd, he] with n hn hm
  rw [run, hn, hm]
  rfl

lemma eventually_mapM {body : Untyped} {f : a.Value → b.Value}
    (h : ∀ e v, e.Denotes a v → ∃ r, body.Yields ((x, e) :: env) r ∧ r.Denotes b (f v))
    {ds : List Datum} {vs : List a.Value} (hds : List.Forall₂ (Datum.Denotes a) ds vs) :
    ∃ rs, (∀ᶠ n in atTop, ds.mapM (fun d => body.run n ((x, d) :: env)) = pure rs) ∧
      List.Forall₂ (Datum.Denotes b) rs (vs.map f) := by
  induction hds with
  | nil => exact ⟨[], .of_forall fun _ => rfl, .nil⟩
  | cons hd _ ih =>
    obtain ⟨r, hr, hrv⟩ := h _ _ hd
    obtain ⟨rs, hrs, hvs⟩ := ih
    refine ⟨r :: rs, ?_, .cons hrv hvs⟩
    filter_upwards [hr, hrs] with n hn hm
    rw [List.mapM_cons, hn, hm]
    rfl

lemma map {f : a.Value → b.Value} {vs : List a.Value} (ht : t.Runs env (.fn a b) f)
    (hu : u.Runs env (.list a) vs) : (Untyped.map t u).Runs env (.list b) (vs.map f) := by
  obtain ⟨_, hd, env', x, body, rfl, hf⟩ := ht
  obtain ⟨_, he, ds, rfl, hds⟩ := hu
  obtain ⟨rs, hrs, hvs⟩ := eventually_mapM hf hds
  refine ⟨.list rs, .of_succ ?_, rs, rfl, hvs⟩
  filter_upwards [hd, he, hrs] with n hn hm hk
  rw [run, hn, hm]
  change (ds.mapM (fun d => body.run n ((x, d) :: env')) >>= fun rs => pure (Datum.list rs)) = _
  rw [hk]
  rfl

lemma bool (c : Bool) : (Untyped.bool c).Runs env .bool c :=
  ⟨.bool c, .of_succ (.of_forall fun _ => rfl), rfl⟩

lemma ite {c : Bool} {v w : a.Value} {s : Untyped} (hs : s.Runs env .bool c) (ht : t.Runs env a v)
    (hu : u.Runs env a w) : (Untyped.ite s t u).Runs env a (if c then v else w) := by
  obtain ⟨_, hc, rfl⟩ := hs
  obtain ⟨d, hd, hdv⟩ := ht
  obtain ⟨e, he, hew⟩ := hu
  refine ⟨if c then d else e, .of_succ ?_, by cases c <;> assumption⟩
  filter_upwards [hc, hd, he] with n hn hm hk
  rw [run, hn, hm, hk]
  rfl

lemma not {c : Bool} (ht : t.Runs env .bool c) : (Untyped.not t).Runs env .bool (!c) := by
  obtain ⟨_, hd, rfl⟩ := ht
  refine ⟨.bool !c, .of_succ ?_, rfl⟩
  filter_upwards [hd] with n hn
  rw [run, hn]
  rfl

lemma string (s : String) : (Untyped.string s).Runs env .string s :=
  ⟨.string s, .of_succ (.of_forall fun _ => rfl), rfl⟩

lemma length (c : a.Countable) {v : a.Value} (ht : t.Runs env a v) :
    (Untyped.length t).Runs env .int (saturate (c.count v)) := by
  obtain ⟨d, hd, hdv⟩ := ht
  refine ⟨.int (saturate (c.count v)), .of_succ ?_, rfl⟩
  filter_upwards [hd] with n hn
  rw [run, hn, pure_bind, Datum.count_of_denotes c hdv]
  rfl

lemma equals (g : a.Ground) {v w : a.Value} (ht : t.Runs env a v) (hu : u.Runs env a w) :
    (Untyped.equals t u).Runs env .bool (g.beq v w) := by
  obtain ⟨d, hd, hdv⟩ := ht
  obtain ⟨e, he, hew⟩ := hu
  refine ⟨.bool (g.beq v w), .of_succ ?_, rfl⟩
  filter_upwards [hd, he] with n hn hm
  rw [run, hn, pure_bind, hm, pure_bind, Datum.same_of_denotes g hdv hew]
  rfl

end Runs

end Untyped

/-! ### Constants -/

/-- A plain term runs to its value where the names of its variables have data that denote their
values. -/
lemma Plain.runs_untyped {Γ : Context} (p : Plain Γ a) {ρ : Env Ty.Value Γ}
    (hρ : ∀ ⦃b⦄ (x : Var Γ b), ∃ d, env.lookup x.name = some d ∧ d.Denotes b (ρ x)) :
    p.untyped.Runs env a (p.interpret Ty.Value ρ) := by
  induction p generalizing env with
  | var x =>
    obtain ⟨d, hd, hdv⟩ := hρ x
    exact .var hd hdv
  | lam body ih =>
    rw [untyped_lam]
    refine .lam fun d v hd => ih fun c x => ?_
    cases x with
    | here => exact ⟨d, List.lookup_cons_self, hd⟩
    | there x =>
      rw [Var.name, List.lookup_cons, beq_false_of_ne x.name_ne]
      exact hρ x
  | app f x ihf ihx => exact .app (ihf hρ) (ihx hρ)
  | int n => exact .int n
  | add l r ihl ihr => exact .add (ihl hρ) (ihr hρ)
  | nil => exact .nil
  | cons h t ihh iht => exact .cons (ihh hρ) (iht hρ)
  | map f xs ihf ihx => exact .map (ihf hρ) (ihx hρ)
  | bool b => exact .bool b
  | ite c p q ihc ihp ihq => exact .ite (ihc hρ) (ihp hρ) (ihq hρ)
  | not x ih => exact .not (ih hρ)
  | string s => exact .string s
  | length c xs ih => exact .length c (ih hρ)
  | equals g l r ihl ihr => exact .equals g (ihl hρ) (ihr hρ)

lemma Untyped.Runs.constant (c : Constant a) : c.untyped.Runs env a (c.interpret Ty.Value) := by
  rw [← c.untyped_plain, ← c.interpret_plain Env.empty]
  exact c.plain.runs_untyped fun _ x => nomatch x

lemma Untyped.Runs.toInt {t : Untyped} {n : (Ty.church .int).Value}
    (h : t.Runs env (Ty.church .int) n) :
    (Church.toInt (R := Bare) (fun _ => t) 0).Runs env .int (Church.toInt (R := Ty.Value) n) :=
  app (f := n (Church.addOne (R := Ty.Value))) (app h (constant .addOne)) (int 0)

/-- Each variable in scope has a datum in the environment that denotes its value. -/
def Scope.Stored (s : Scope) (env : List (String × Datum)) (ρ : Env Ty.Value s.context) : Prop :=
  ∀ ⦃x : String⦄ ⦃a : Ty⦄ ⦃v : Var s.context a⦄, s.find? x = some ⟨a, v⟩ →
    ∃ d, env.lookup x = some d ∧ d.Denotes a (ρ v)

lemma Scope.Stored.push {s : Scope} {ρ : Env Ty.Value s.context} (h : s.Stored env ρ) {x : String}
    {d : Datum} {v : a.Value} (hd : d.Denotes a v) :
    Scope.Stored ((x, a) :: s) ((x, d) :: env) (ρ.push v) := by
  intro y b w hw
  rcases find?_cons_eq_some hw with ⟨rfl, hw⟩ | ⟨hy, u, hu, rfl⟩
  · cases hw
    exact ⟨d, by simp, hd⟩
  · obtain ⟨e, he, hew⟩ := h hu
    exact ⟨e, by rw [List.lookup_cons, beq_false_of_ne hy]; exact he, hew⟩

/-- **Well typed terms do not go wrong**: without its types, such a term runs to a datum that
denotes its value. -/
theorem Named.Elaborates.runs_erase {s : Scope} {t : Named} {e : Expr s.context a}
    (h : Named.Elaborates s t e) {ρ : Env Ty.Value s.context} (hρ : s.Stored env ρ) :
    t.erase.Runs env a (e.interpret Ty.Value ρ) := by
  -- The rules say what a form needs of its parts. Under a binder the environment grows by the
  -- datum of the variable, so it has to be general.
  induction h generalizing env with
  | var h =>
    obtain ⟨d, hd, hdv⟩ := hρ h
    exact .var hd hdv
  | lam h ih => exact .lam fun d v hd => ih (hρ.push hd)
  | share h₁ h₂ ih₁ ih₂ => exact .share (ih₁ hρ) fun d hd => ih₂ (hρ.push hd)
  | app h₁ h₂ ih₁ ih₂ => exact .app (ih₁ hρ) (ih₂ hρ)
  | int n => exact .int n
  | add h₁ h₂ ih₁ ih₂ => exact .add (ih₁ hρ) (ih₂ hρ)
  | nil a => exact .nil
  | cons h₁ h₂ ih₁ ih₂ => exact .cons (ih₁ hρ) (ih₂ hρ)
  | map h₁ h₂ ih₁ ih₂ => exact .map (ih₁ hρ) (ih₂ hρ)
  | bool b => exact .bool b
  | ite h₁ h₂ h₃ ih₁ ih₂ ih₃ => exact .ite (ih₁ hρ) (ih₂ hρ) (ih₃ hρ)
  | not h ih => exact .not (ih hρ)
  | string w => exact .string w
  | length c h ih => exact .length c (ih hρ)
  | equals g h₁ h₂ ih₁ ih₂ => exact .equals g (ih₁ hρ) (ih₂ hρ)
  | constant c => exact .constant c
  | churchToInt h ih => exact .toInt (ih hρ)
  | incrementEach h ih => exact .map (.constant .addOne) (ih hρ)

end TypedLambda
