import Mathlib.Algebra.Group.Int.Defs
import Mathlib.Algebra.Group.Nat.Defs
import TypedLambda.Proofs.Skeleton.Reader

/-!
Lists as terms. What `map` makes of a list has the same places, and at each of them what the
function makes of the element there. A list of numbers is put together from its end and taken
apart from its front. Main statements: `map` is a functor, whatever the elements are; and a list
of numbers is its own value, is the same text from every number on, and is read back from it.
-/

namespace TypedLambda

/-! ### Mapping -/

namespace Expr

variable {Γ : Context} {a b c : Ty} (ρ : Env Ty.Value Γ)

lemma interpret_map (g : Expr Γ (.fn a b)) (xs : Expr Γ (.list a)) :
    (map g xs).interpret Ty.Value ρ =
      List.map (g.interpret Ty.Value ρ) (xs.interpret Ty.Value ρ) := rfl

lemma interpret_compose (f : Expr Γ (.fn b c)) (g : Expr Γ (.fn a b)) :
    (app (app (constant .compose) f) g).interpret Ty.Value ρ =
      (f.interpret Ty.Value ρ : b.Value → c.Value) ∘ g.interpret Ty.Value ρ := rfl

lemma interpret_identity :
    (constant .identity : Expr Γ (.fn a a)).interpret Ty.Value ρ = (id : a.Value → a.Value) := rfl

lemma interpret_selfApplication :
    (constant .selfApplication : Expr Γ (.fn a a)).interpret Ty.Value ρ =
      (id : a.Value → a.Value) := rfl

lemma interpret_length (xs : Expr Γ (.list a)) :
    (length .list xs).interpret Ty.Value ρ =
      saturate (List.length (xs.interpret Ty.Value ρ)) := rfl

/-- **`map` is a functor**, whatever the values of the variables are, and its action on a list is
that of the function at each place. -/
theorem map_functor (f : Expr Γ (.fn b c)) (g : Expr Γ (.fn a b)) (x : Expr Γ a)
    (xs : Expr Γ (.list a)) :
    (map f (map g xs)).interpret Ty.Value ρ =
        (map (app (app (constant .compose) f) g) xs).interpret Ty.Value ρ ∧
      (map (constant .identity) xs).interpret Ty.Value ρ = xs.interpret Ty.Value ρ ∧
      (map (constant .selfApplication) xs).interpret Ty.Value ρ = xs.interpret Ty.Value ρ ∧
      (length .list (map g xs)).interpret Ty.Value ρ =
        (length .list xs).interpret Ty.Value ρ ∧
      (map g (cons x xs)).interpret Ty.Value ρ =
        (cons (app g x) (map g xs)).interpret Ty.Value ρ ∧
      ∀ k : Nat, ((map g xs).interpret Ty.Value ρ : List b.Value)[k]? =
        ((xs.interpret Ty.Value ρ : List a.Value)[k]?).map (g.interpret Ty.Value ρ) := by
  refine ⟨?_, ?_, ?_, ?_, rfl, fun k => ?_⟩
  · rw [interpret_map, interpret_map, List.map_map, interpret_map, interpret_compose]
  · rw [interpret_map, interpret_identity, List.map_id]
  · rw [interpret_map, interpret_selfApplication, List.map_id]
  · rw [interpret_length, interpret_map, List.length_map, interpret_length]
  · rw [interpret_map, List.getElem?_map]

end Expr

/-! ### Texts of lists of numbers -/

/-- The text of a list of numbers. -/
def listing (ns : List Int64) : String :=
  ns.foldr (fun n w => "(" ++ n.toInt.repr ++ " : " ++ w ++ ")") "[]"

namespace Skeleton

variable {k : Nat}

def intList (ns : List Int64) : Skeleton k := ns.foldr (fun n t => cons (int n) t) nil

/-- The numbers of a list, if there is nothing else in it. -/
def numbers? {k : Nat} : Skeleton k → Option (List Int64)
  | nil => some []
  | cons (int n) t => t.numbers?.map (n :: ·)
  | _ => none

lemma numbers?_intList (ns : List Int64) : (intList ns : Skeleton k).numbers? = some ns := by
  induction ns with
  | nil => rfl
  | cons n ns ih =>
    change ((intList ns : Skeleton k).numbers?).map (n :: ·) = _
    rw [ih, Option.map_some]

lemma depth_intList (ns : List Int64) : (intList ns : Skeleton k).depth = 0 := by
  induction ns with
  | nil => rfl
  | cons n ns ih =>
    change max 0 (intList ns : Skeleton k).depth = 0
    rw [ih, Nat.max_self]

lemma simpleOperands_intList (ns : List Int64) : (intList ns : Skeleton k).SimpleOperands := by
  induction ns with
  | nil => trivial
  | cons n ns ih => exact ⟨trivial, ih⟩

lemma text_spell_intList (i : Nat) (ns : List Int64) :
    ((intList ns : Skeleton k).spell i).text = listing ns := by
  induction ns with
  | nil => rfl
  | cons n ns ih =>
    change "(" ++ n.toInt.repr ++ " : " ++ ((intList ns : Skeleton k).spell i).text ++ ")" = _
    rw [ih]
    rfl

end Skeleton

lemma Plain.erase_intList {Γ : Context} (ns : List Int64) :
    (intList ns : Plain Γ (.list .int)).erase = Skeleton.intList ns := by
  induction ns with
  | nil => rfl
  | cons n ns ih => exact congrArg (Skeleton.cons (.int n)) ih

/-- Reads the numbers of a list off its text. -/
def readListing? (w : String) : Option (List Int64) := (Spelled.read? w).bind Skeleton.numbers?

/-! ### Lists of numbers -/

namespace Expr

/-- The term for a list of numbers. -/
abbrev numbers (ns : List Int64) : Expr [] (.list .int) := .constant (.intList ns)

lemma skeleton_numbers (ns : List Int64) : (numbers ns).skeleton = Skeleton.intList ns :=
  Plain.erase_intList ns

lemma value_numbers (ns : List Int64) : (numbers ns).value = ns := by
  induction ns with
  | nil => rfl
  | cons n ns ih => exact congrArg (List.cons n) ih

lemma value_incrementEach (ns : List Int64) :
    (numbers ns).incrementEach.value = ns.map (· + 1) :=
  congrArg (List.map (· + 1)) (value_numbers ns)

/-- No two numbers have one successor, though the greatest has the least one for its own. -/
lemma map_add_one_inj {ns ms : List Int64} : ns.map (· + 1) = ms.map (· + 1) ↔ ns = ms :=
  List.map_inj_right fun _ _ => (Int64.add_left_inj 1).mp

lemma toInt_value_length (xs : Expr [] (.list .int)) {ns : List Int64} (h : xs.value = ns) :
    (length .list xs).value.toInt = min ns.length (2 ^ 63 - 1) := by
  rw [value, interpret_length]
  change (saturate (List.length xs.value)).toInt = _
  rw [h, saturate_toInt]
  rfl

lemma value_equals_numbers (l r : Expr [] (.list .int)) {ns ms : List Int64} (hl : l.value = ns)
    (hr : r.value = ms) : (equals (.list .int) l r).value = true ↔ ns = ms := by
  change (Ty.Ground.list .int).beq l.value r.value = true ↔ _
  rw [hl, hr]
  exact Ty.Ground.beq_eq_true _

lemma renderFrom_numbers (ns : List Int64) (i : Counter) :
    (numbers ns).renderFrom i = .ok (listing ns) := by
  rw [renderFrom_eq, skeleton_numbers, Skeleton.depth_intList, Skeleton.text_spell_intList,
    Rendering.fitting_eq_ok]
  exact ⟨i.index.toNat_lt, rfl⟩

lemma readListing?_listing (ns : List Int64) : readListing? (listing ns) = some ns := by
  have hsimple : (numbers ns).skeleton.SimpleOperands := by
    rw [skeleton_numbers]
    exact Skeleton.simpleOperands_intList ns
  rw [readListing?, read?_of_renderFrom hsimple (renderFrom_numbers ns .zero), skeleton_numbers]
  exact Skeleton.numbers?_intList ns

/-- **Lists of numbers are faithful**, as values and as texts: nothing of them is lost, and they
keep their order. -/
theorem numbers_faithful (ns ms : List Int64) :
    (numbers ns).value = ns ∧
      List.map Int64.toInt (numbers ns).incrementEach.value =
        ns.map (fun n => (n.toInt + 1).bmod (2 ^ 64)) ∧
      (length .list (numbers ns)).value.toInt = min ns.length (2 ^ 63 - 1) ∧
      (length .list (numbers ns).incrementEach).value.toInt = min ns.length (2 ^ 63 - 1) ∧
      ((equals (.list .int) (numbers ns) (numbers ms)).value = true ↔ ns = ms) ∧
      ((equals (.list .int) (numbers ns).incrementEach (numbers ms).incrementEach).value = true ↔
        ns = ms) ∧
      (∀ i : Counter, (numbers ns).renderFrom i = .ok (listing ns)) ∧
      readListing? (listing ns) = some ns := by
  have hvalue := value_numbers ns
  have hincrement := value_incrementEach ns
  refine ⟨hvalue, ?_, toInt_value_length _ hvalue, ?_,
    value_equals_numbers _ _ hvalue (value_numbers ms), ?_, renderFrom_numbers ns,
    readListing?_listing ns⟩
  · rw [hincrement, List.map_map]
    exact List.map_congr_left fun n _ => Int64.toInt_add n 1
  · rw [toInt_value_length _ hincrement, List.length_map]
  · rw [value_equals_numbers _ _ hincrement (value_incrementEach ms), map_add_one_inj]

/-- The least number is written with its sign and without parentheses. -/
example : listing [-9223372036854775808, 7] = "(-9223372036854775808 : (7 : []))" := by decide

end Expr

end TypedLambda
