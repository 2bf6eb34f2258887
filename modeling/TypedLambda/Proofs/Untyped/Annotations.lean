import TypedLambda.Proofs.Skeleton.Rendering
import TypedLambda.Proofs.Untyped.Soundness

/-!
What types cannot change. The skeleton of a written term can be read off without its types, and at
a ground type a datum denotes one value only. Main statement: a closed well typed term runs,
without its types, to a datum of its type, and every term that differs from it in annotations
alone has its text and, at the same ground type, its value.
-/

namespace TypedLambda

open Untyped

/-- At a ground type a datum denotes one value. -/
lemma Datum.Denotes.unique {a : Ty} (g : a.Ground) {d : Datum} {v w : a.Value}
    (hv : d.Denotes a v) (hw : d.Denotes a w) : v = w := by
  induction g generalizing d with
  | int | bool | string =>
    obtain rfl := hv
    obtain ⟨⟩ := hw
    rfl
  | list g ih =>
    obtain ⟨ds, rfl, hds⟩ := hv
    obtain ⟨_, ⟨⟩, hes⟩ := hw
    induction hds generalizing w with
    | nil =>
      cases hes
      rfl
    | cons hd _ ihs =>
      cases hes with
      | cons he hes => rw [ih hd he, ihs hes]

/-! ### Skeletons -/

/-- The skeleton of a term without types, in which each name stands for the innermost entry that
bears it. -/
def Untyped.skeleton? {n : Nat} (env : List (String × Skeleton n)) : Untyped → Option (Skeleton n)
  | var x => env.lookup x
  | lam x t =>
    (t.skeleton? ((x, .var ⟨0, n.succ_pos⟩) :: env.map fun p => (p.1, p.2.weaken))).map .lam
  | share x t u => (t.skeleton? env).bind fun s => u.skeleton? ((x, s) :: env)
  | app t u => (t.skeleton? env).bind fun s => (u.skeleton? env).map (.app s)
  | int m => some (.int m)
  | add t u => (t.skeleton? env).bind fun s => (u.skeleton? env).map (.add s)
  | nil => some .nil
  | cons t u => (t.skeleton? env).bind fun s => (u.skeleton? env).map (.cons s)
  | map t u => (t.skeleton? env).bind fun s => (u.skeleton? env).map (.map s)
  | bool b => some (.bool b)
  | ite t u v => (t.skeleton? env).bind fun s => (u.skeleton? env).bind fun p =>
      (v.skeleton? env).map (.ite s p)
  | not t => (t.skeleton? env).map .not
  | string w => some (.string w)
  | length t => (t.skeleton? env).map .length
  | equals t u => (t.skeleton? env).bind fun s => (u.skeleton? env).map (.equals s)

/-- Two operands that are found, put together. -/
lemma bind_map_eq_some {α β γ : Type} {o : Option α} {o' : Option β} {x : α} {y : β}
    (h : o = some x) (h' : o' = some y) (g : α → β → γ) :
    (o.bind fun s => o'.map (g s)) = some (g x y) := by
  rw [h, h']
  rfl

/-- The skeleton of a plain term is found where the names of its variables stand for them. -/
lemma Plain.skeleton?_untyped {Γ : Context} {a : Ty} (p : Plain Γ a) {n : Nat}
    {env : List (String × Skeleton n)} {r : Fin Γ.length → Fin n}
    (h : ∀ ⦃b⦄ (x : Var Γ b), env.lookup x.name = some (.var (r x.toFin))) :
    p.untyped.skeleton? env = some (p.erase.rename r) := by
  induction p generalizing n with
  | var x => exact h x
  | lam body ih =>
    rw [untyped_lam, Untyped.skeleton?, ih (r := Skeleton.lift r) fun c x => ?_]
    · rfl
    · cases x with
      | here => exact List.lookup_cons_self
      | there x =>
        rw [Var.name, List.lookup_cons, beq_false_of_ne x.name_ne]
        exact (lookup_map_weaken _ env).trans (congrArg (Option.map _) (h x))
  | app f x ihf ihx => exact bind_map_eq_some (ihf h) (ihx h) Skeleton.app
  | add l k ihl ihk => exact bind_map_eq_some (ihl h) (ihk h) Skeleton.add
  | cons x t ihx iht => exact bind_map_eq_some (ihx h) (iht h) Skeleton.cons
  | map f xs ihf ihx => exact bind_map_eq_some (ihf h) (ihx h) Skeleton.map
  | equals g l k ihl ihk => exact bind_map_eq_some (ihl h) (ihk h) Skeleton.equals
  | ite c p q ihc ihp ihq =>
    exact (congrArg (Option.bind · _) (ihc h)).trans (bind_map_eq_some (ihp h) (ihq h) _)
  | not x ih => exact congrArg (Option.map _) (ih h)
  | length c xs ih => exact congrArg (Option.map _) (ih h)
  | int k | nil | bool b | string w => rfl

variable {n : Nat} (env : List (String × Skeleton n))

lemma Constant.skeleton?_untyped {a : Ty} (c : Constant a) :
    c.untyped.skeleton? env = some c.skeleton := by
  rw [← c.untyped_plain]
  exact c.plain.skeleton?_untyped fun _ x => nomatch x

lemma Named.skeleton?_erase (t : Named) : t.erase.skeleton? env = t.skeleton? env := by
  induction t generalizing n with
  | constant c => exact c.skeleton?_untyped env
  | churchToInt t ih =>
    change ((t.erase.skeleton? env).bind fun s =>
      (Constant.addOne.untyped.skeleton? env).map (Skeleton.app s)).bind _ = _
    rw [ih, Constant.skeleton?_untyped, Named.skeleton?]
    cases t.skeleton? env <;> rfl
  | incrementEach t ih =>
    change (Constant.addOne.untyped.skeleton? env).bind _ = _
    rw [Constant.skeleton?_untyped, ih]
    rfl
  | _ => simp_all [erase, Untyped.skeleton?, Named.skeleton?]

/-! ### Terms with one erasure -/

namespace Named

variable {t u : Named} {a b : Ty} {e : Expr [] a} {f : Expr [] b}

lemma exists_endsIn (h : t.elaborate? [] = some ⟨a, e⟩) :
    ∃ d, t.erase.EndsIn d ∧ d.Denotes a e.value := by
  have hruns : t.erase.Runs [] a e.value := (elaborates_of_elaborate? h).runs_erase nofun
  obtain ⟨d, hd, hdv⟩ := hruns
  exact ⟨d, hd.endsIn, hdv⟩

lemma skeleton_eq_of_erase_eq (ht : t.elaborate? [] = some ⟨a, e⟩)
    (hu : u.elaborate? [] = some ⟨b, f⟩) (hut : u.erase = t.erase) : f.skeleton = e.skeleton := by
  have hsome : some f.skeleton = some e.skeleton := calc
    some f.skeleton = u.skeleton? [] := (skeleton?_eq hu).symm
    _ = u.erase.skeleton? [] := (skeleton?_erase [] u).symm
    _ = t.erase.skeleton? [] := by rw [hut]
    _ = t.skeleton? [] := skeleton?_erase [] t
    _ = some e.skeleton := skeleton?_eq ht
  exact Option.some.inj hsome

/-- **Types do not matter.** A closed well typed term, run without its types, ends with a datum
of its type that denotes its value, and under no bound with a fault or with anything else. Another
well typed term with the same erasure has the same text at every number, and the same value if
both are of one ground type. -/
theorem endsIn_erase (h : t.elaborate? [] = some ⟨a, e⟩) :
    (∃ d, t.erase.EndsIn d ∧ d.Denotes a e.value) ∧
      (∀ (u : Named) (b : Ty) (f : Expr [] b), u.elaborate? [] = some ⟨b, f⟩ →
        u.erase = t.erase → ∀ i, f.renderFrom i = e.renderFrom i) ∧
      ∀ (u : Named) (f : Expr [] a), u.elaborate? [] = some ⟨a, f⟩ →
        u.erase = t.erase → a.Ground → f.value = e.value := by
  refine ⟨exists_endsIn h, fun u b f hu hut i => ?_, fun u f hu hut g => ?_⟩
  · rw [f.renderFrom_eq, e.renderFrom_eq, skeleton_eq_of_erase_eq h hu hut]
  · obtain ⟨d, hd, hdv⟩ := exists_endsIn h
    obtain ⟨d', hd', hdw⟩ := exists_endsIn hu
    -- The one run of the erasure has one end, which denotes both values.
    rw [hut] at hd'
    rw [hd'.unique hd] at hdw
    exact hdw.unique g hdv

end Named

/-- Counts a list of which only the type of the elements is written, and drops another one. -/
def Named.dropsList (a : Ty) : Named :=
  .app (.app (.constant (.const (a := .int) (b := .list a)))
    (.length (.map (.lam "x" a (.var "x")) (.nil a)))) (.nil a)

def Expr.dropsList (a : Ty) : Expr [] .int :=
  .app (.app (.constant .const) (.length .list (.map (.lam (.var .here)) (.nil (a := a)))))
    (.nil (a := a))

theorem Named.endsIn_dropsList :
    (dropsList .bool).elaborate? [] = some ⟨.int, Expr.dropsList .bool⟩ ∧
      (dropsList (.fn .int .int)).elaborate? [] = some ⟨.int, Expr.dropsList (.fn .int .int)⟩ ∧
      (∃ d, (dropsList .bool).erase.EndsIn d ∧ d.Denotes .int (Expr.dropsList .bool).value) ∧
      (∀ i, (Expr.dropsList (.fn .int .int)).renderFrom i = (Expr.dropsList .bool).renderFrom i) ∧
      (Expr.dropsList (.fn .int .int)).value = (Expr.dropsList .bool).value := by
  have h₁ : (dropsList .bool).elaborate? [] = some ⟨.int, Expr.dropsList .bool⟩ := rfl
  have h₂ : (dropsList (.fn .int .int)).elaborate? [] =
      some ⟨.int, Expr.dropsList (.fn .int .int)⟩ := rfl
  obtain ⟨hruns, htext, hvalue⟩ := endsIn_erase h₁
  exact ⟨h₁, h₂, hruns, htext _ _ _ h₂ rfl, hvalue _ _ h₂ rfl .int⟩

/-- A term that is not well typed may end with a fault: the number `1` is no function. -/
example : (Named.app (.int 1) (.int 2)).erase.run 2 [] = throw .notFunction := rfl

end TypedLambda
