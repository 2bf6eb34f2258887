/-!
The number of the next unused binder, a word of 64 bits, and the names made from it.

The last part is a dialogue with a counter: it is moved on and looked at in any order, and
stays where it is when it cannot move on.
-/

namespace TypedLambda

/-- Why a term has no rendering. -/
inductive RenderError where
  | counterOverflow
  deriving DecidableEq, Repr

def RenderError.message : RenderError → String
  | counterOverflow => "attempt to add with overflow"

/-- A bound variable as it is printed. -/
structure Binder where
  index : UInt64
  deriving DecidableEq, Repr

def Binder.name (b : Binder) : String := "a" ++ b.index.toNat.repr

/-- Names with different numbers differ. -/
theorem numbered_inj {m n : Nat} : "a" ++ m.repr = "a" ++ n.repr ↔ m = n := by
  refine ⟨fun h => ?_, fun h => h ▸ rfl⟩
  have h := congrArg String.toList h
  simp only [String.toList_append, List.append_cancel_left_eq, Nat.toList_repr] at h
  have h := congrArg (Nat.ofDigitChars 10 · 0) h
  simpa only [Nat.ofDigitChars_ten_toDigits] using h

theorem Binder.name_inj {b c : Binder} : b.name = c.name ↔ b = c := by
  cases b
  cases c
  rw [name, name, numbered_inj, UInt64.toNat_inj, mk.injEq]

structure Counter where
  index : UInt64
  deriving DecidableEq, Repr

namespace Counter

def zero : Counter := ⟨0⟩

def binder (i : Counter) : Binder := ⟨i.index⟩

def text (i : Counter) : String := i.index.toNat.repr

/-- There is no counter after the greatest word. -/
def next (i : Counter) : Except RenderError Counter :=
  if i.index.toNat + 1 < UInt64.size then .ok ⟨i.index + 1⟩ else .error .counterOverflow

instance : Ord Counter := ⟨fun i j => compare i.index.toNat j.index.toNat⟩

theorem next_eq_ok {i j : Counter} : i.next = .ok j ↔ j.index.toNat = i.index.toNat + 1 := by
  unfold next
  have hi := i.index.toNat_lt
  have hj := j.index.toNat_lt
  split
  · next h =>
    cases j
    rw [Except.ok.injEq, mk.injEq, ← UInt64.toNat_inj, UInt64.toNat_add]
    simp only [UInt64.size] at h
    simp only [UInt64.toNat_one] at *
    omega
  · next h =>
    simp only [UInt64.size] at h
    simp only [reduceCtorEq, false_iff]
    omega

theorem next_eq_error {i : Counter} {e : RenderError} :
    i.next = .error e ↔ i.index.toNat + 1 = UInt64.size := by
  unfold next
  have := i.index.toNat_lt
  cases e
  split
  · next h => simp only [reduceCtorEq, false_iff]; omega
  · next h => simp only [UInt64.size] at h ⊢; simp only [true_iff]; omega

/-! ## Dialogue -/

inductive Request where
  | next
  | text
  | binder
  | compare (j : Counter)
  | sameBinder (j : Counter)

inductive Reply where
  | moved
  | stuck (e : RenderError)
  | text (s : String)
  | order (o : Ordering)
  | truth (b : Bool)
  deriving DecidableEq, Repr

def answer (i : Counter) : Request → Reply × Counter
  | .next =>
    match i.next with
    | .ok j => (.moved, j)
    | .error e => (.stuck e, i)
  | .text => (.text i.text, i)
  | .binder => (.text i.binder.name, i)
  | .compare j => (.order (Ord.compare i j), i)
  | .sameBinder j => (.truth (i.binder == j.binder), i)

/-- Each reply, with the counter as it was right after it. -/
def run : Counter → List Request → List (Reply × Counter)
  | _, [] => []
  | i, q :: qs => i.answer q :: run (i.answer q).2 qs

end Counter

end TypedLambda
