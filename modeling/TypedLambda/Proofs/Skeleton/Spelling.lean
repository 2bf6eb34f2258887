import Mathlib.Data.List.Nodup
import TypedLambda.Proofs.Skeleton.Basic

/-!
How a skeleton is spelled: its binders get the names `a0`, `a1`, … from some number on, counted
from the root, and each variable the name of its own binder. Main statements: looking each name
up in the innermost binder that bears it gives the skeleton back, and along a path from the root
the names come in order and none comes twice.
-/

namespace TypedLambda

/-- A term as it is printed, with the names that stand in the print. -/
inductive Spelled where
  | var (x : String)
  | lam (x : String) (body : Spelled)
  | app (f x : Spelled)
  | int (n : Int64)
  | add (l r : Spelled)
  | nil
  | cons (h t : Spelled)
  | map (f xs : Spelled)
  | bool (b : Bool)
  | ite (c p n : Spelled)
  | not (x : Spelled)
  | string (s : String)
  | length (xs : Spelled)
  | equals (l r : Spelled)

/-- The name of the binder with the given number. -/
def binderName (m : Nat) : String := "a" ++ m.repr

lemma binderName_inj {m k : Nat} : binderName m = binderName k ↔ m = k := numbered_inj

namespace Spelled

@[simp] def text : Spelled → String
  | var x => x
  | lam x body => "(\\ " ++ x ++ " -> " ++ body.text ++ ")"
  | app f x => "(" ++ f.text ++ " $ " ++ x.text ++ ")"
  | int n => n.toInt.repr
  | add l r => "(" ++ l.text ++ " + " ++ r.text ++ ")"
  | nil => "[]"
  | cons h t => "(" ++ h.text ++ " : " ++ t.text ++ ")"
  | map f xs => "map " ++ f.text ++ " " ++ xs.text
  | bool b => if b then "True" else "False"
  | ite c p n => "if (" ++ c.text ++ ") then " ++ p.text ++ " else " ++ n.text
  | not x => "(not " ++ x.text ++ ")"
  | string s => Text.Quoted.quote s
  | length xs => "length " ++ xs.text
  | equals l r => l.text ++ " == " ++ r.text

/-- The number of binders between the name and the innermost binder that bears it. -/
def place? (x : String) {n : Nat} (names : Fin n → String) : Option (Fin n) :=
  (List.finRange n).find? fun k => names k = x

/-- The skeleton, if each name is that of a binder around it. The names of those binders are
given, the innermost first. -/
def resolve? {n : Nat} (names : Fin n → String) : Spelled → Option (Skeleton n)
  | var x => (place? x names).map .var
  | lam x body => (body.resolve? (Fin.cons x names : Fin (n + 1) → String)).map .lam
  | app f x => (f.resolve? names).bind fun s => (x.resolve? names).map (.app s)
  | int m => some (.int m)
  | add l r => (l.resolve? names).bind fun s => (r.resolve? names).map (.add s)
  | nil => some .nil
  | cons h t => (h.resolve? names).bind fun s => (t.resolve? names).map (.cons s)
  | map f xs => (f.resolve? names).bind fun s => (xs.resolve? names).map (.map s)
  | bool b => some (.bool b)
  | ite c p q => (c.resolve? names).bind fun s => (p.resolve? names).bind fun t =>
      (q.resolve? names).map (.ite s t)
  | not x => (x.resolve? names).map .not
  | string s => some (.string s)
  | length xs => (xs.resolve? names).map .length
  | equals l r => (l.resolve? names).bind fun s => (r.resolve? names).map (.equals s)

/-- For each path from the root to a leaf, the names of the binders on it in order. -/
def paths : Spelled → List (List String)
  | lam x body => body.paths.map (x :: ·)
  | app f x => f.paths ++ x.paths
  | add l r => l.paths ++ r.paths
  | cons h t => h.paths ++ t.paths
  | map f xs => f.paths ++ xs.paths
  | ite c p n => c.paths ++ p.paths ++ n.paths
  | not x => x.paths
  | length xs => xs.paths
  | equals l r => l.paths ++ r.paths
  | var _ | int _ | nil | bool _ | string _ => [[]]

end Spelled

namespace Skeleton

/-- The most binders that are met on the way to a leaf. -/
def depth {n : Nat} : Skeleton n → Nat
  | lam body => body.depth + 1
  | app f x => max f.depth x.depth
  | add l r => max l.depth r.depth
  | cons h t => max h.depth t.depth
  | map f xs => max f.depth xs.depth
  | ite c p q => max (max c.depth p.depth) q.depth
  | not x => x.depth
  | length xs => xs.depth
  | equals l r => max l.depth r.depth
  | var _ | int _ | nil | bool _ | string _ => 0

/-- The names of `n` binders around a term, the innermost first, when the outermost has the
number `i`. -/
def enclosing (i n : Nat) (k : Fin n) : String := binderName (i + (n - 1 - k))

/-- Each binder gets the number of those around it, counted from `i`. -/
def spell (i : Nat) {n : Nat} : Skeleton n → Spelled
  | var k => .var (enclosing i n k)
  | lam body => .lam (binderName (i + n)) (body.spell i)
  | app f x => .app (f.spell i) (x.spell i)
  | int m => .int m
  | add l r => .add (l.spell i) (r.spell i)
  | nil => .nil
  | cons h t => .cons (h.spell i) (t.spell i)
  | map f xs => .map (f.spell i) (xs.spell i)
  | bool b => .bool b
  | ite c p q => .ite (c.spell i) (p.spell i) (q.spell i)
  | not x => .not (x.spell i)
  | string s => .string s
  | length xs => .length (xs.spell i)
  | equals l r => .equals (l.spell i) (r.spell i)

lemma enclosing_injective (i n : Nat) : Function.Injective (enclosing i n) := by
  intro k l h
  have := binderName_inj.mp h
  have := k.isLt
  have := l.isLt
  exact Fin.ext (by omega)

/-- One binder more is the innermost and has the next number. -/
lemma cons_enclosing (i n : Nat) :
    (Fin.cons (binderName (i + n)) (enclosing i n) : Fin (n + 1) → String) =
      enclosing i (n + 1) := by
  funext k
  cases k using Fin.cases with
  | zero => simp [enclosing]
  | succ k =>
    rw [Fin.cons_succ, enclosing, enclosing, binderName_inj, Fin.val_succ]
    omega

end Skeleton

namespace Spelled

open Skeleton

lemma place?_self {n : Nat} {names : Fin n → String} (h : Function.Injective names) (k : Fin n) :
    place? (names k) names = some k := by
  have hs : (place? (names k) names).isSome :=
    List.find?_isSome.mpr ⟨k, List.mem_finRange k, by simp⟩
  obtain ⟨j, hj⟩ := Option.isSome_iff_exists.mp hs
  have hn : names j = names k := by simpa using List.find?_some hj
  rw [hj, h hn]

/-- **No name is captured**: looking each one up in the innermost binder that bears it undoes
the spelling. -/
theorem resolve?_spell (i : Nat) {n : Nat} (s : Skeleton n) :
    (s.spell i).resolve? (enclosing i n) = some s := by
  induction s with
  | var k => simp [spell, resolve?, place?_self (enclosing_injective i _)]
  | lam body ih => simp [spell, resolve?, cons_enclosing, ih]
  | _ => simp_all [spell, resolve?]

lemma resolve?_spell_closed (i : Nat) (s : Skeleton 0) :
    (s.spell i).resolve? Fin.elim0 = some s := by
  rw [← resolve?_spell i s]
  congr 1
  exact funext fun k => k.elim0

/-- Along a path the binders have consecutive numbers. -/
lemma eq_of_mem_paths_spell (i : Nat) {n : Nat} (s : Skeleton n) {p : List String}
    (h : p ∈ (s.spell i).paths) : p = (List.range' (i + n) p.length).map binderName := by
  induction s generalizing p with
  | lam body ih =>
    simp only [spell, paths, List.mem_map] at h
    obtain ⟨q, hq, rfl⟩ := h
    rw [List.length_cons, List.range'_succ, List.map_cons, Nat.add_assoc]
    exact congrArg _ (ih hq)
  | ite c p q ih₁ ih₂ ih₃ =>
    simp only [spell, paths, List.mem_append] at h
    rcases h with (h | h) | h
    · exact ih₁ h
    · exact ih₂ h
    · exact ih₃ h
  | app f x ih₁ ih₂ | add f x ih₁ ih₂ | cons f x ih₁ ih₂ | map f x ih₁ ih₂
  | equals f x ih₁ ih₂ =>
    simp only [spell, paths, List.mem_append] at h
    exact h.elim ih₁ ih₂
  | not x ih | length x ih => exact ih h
  | var k | int m | nil | bool b | string s =>
    obtain rfl := List.mem_singleton.mp h
    rfl

lemma nodup_binderName (i m : Nat) : ((List.range' i m).map binderName).Nodup :=
  List.Nodup.map (fun _ _ => binderName_inj.mp) List.nodup_range'

end Spelled

end TypedLambda
