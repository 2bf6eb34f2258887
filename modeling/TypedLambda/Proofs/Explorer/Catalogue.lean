import TypedLambda.Gallery
import TypedLambda.Proofs.Expr.Iteration

/-!
The terms the explorer knows and what is to be seen of their values. Data is written out, a
numeral over numbers is seen as the number it counts to, and nothing is to be seen of any other
function. Main statement: the exhibits are the terms of the catalogue under their names, and the
text of their values is what is to be seen of them.
-/

namespace TypedLambda

variable {a : Ty}

namespace Explorer

/-- The terms with the names they go by, in the order they are listed in. -/
def catalogue : List (String × Σ a, Expr [] a) := [
  ("identity", ⟨.fn .int .int, .constant .identity⟩),
  ("selfApplication", ⟨.fn .int .int, .constant .selfApplication⟩),
  ("app", ⟨.fn .int (.fn (.fn .int .int) .int), .constant .thrush⟩),
  ("konst", ⟨.fn .int (.fn .int .int), .constant .const⟩),
  ("compose", ⟨.fn (.fn .int .int) (.fn (.fn .int .int) (.fn .int .int)), .constant .compose⟩),
  ("flip", ⟨.fn (.fn .int (.fn .int .int)) (.fn .int (.fn .int .int)), .constant .flip⟩),
  ("succ", ⟨.fn (Ty.church .int) (Ty.church .int), .constant .succ⟩),
  ("zero", ⟨Ty.church .int, .constant (.numeral 0)⟩),
  ("one", ⟨Ty.church .int, .constant (.numeral 1)⟩),
  ("two", ⟨Ty.church .int, .constant (.numeral 2)⟩),
  ("addOne", ⟨.fn .int .int, .constant .addOne⟩),
  ("runChurchTwo", ⟨.int, .constant .twoToInt⟩),
  ("branch", ⟨.bool, .constant .branch⟩),
  ("guardedList", ⟨.list .int, .constant .guardedList⟩),
  ("mapNot", ⟨.list .bool, .constant .mapNot⟩),
  ("increments", ⟨.list .int, .constant .increments⟩),
  ("greetingLength", ⟨.int, .constant .greetingLength⟩)]

lemma catalogue_eq : catalogue = Exhibit.all.map fun x => (x.name, ⟨x.type, x.expr⟩) := rfl

lemma mem_catalogue {p : String × Σ a, Expr [] a} :
    p ∈ catalogue ↔ ∃ x : Exhibit, (x.name, ⟨x.type, x.expr⟩) = p := by
  rw [catalogue_eq, List.mem_map]
  exact exists_congr fun x => and_iff_right x.mem_all

/-- How a value without functions is written. -/
inductive Written : {a : Ty} → a.Ground → a.Value → String → Prop
  | int (n : Int64) : Written .int n n.toInt.repr
  | true : Written .bool true "True"
  | false : Written .bool false "False"
  | string (s : String) : Written .string s (Text.Quoted.quote s)
  | list {a : Ty} {g : a.Ground} {vs : List a.Value} (text : a.Value → String)
      (each : ∀ v ∈ vs, Written g v (text v)) :
      Written (.list g) vs ("[" ++ ", ".intercalate (vs.map text) ++ "]")

lemma written_iff {g : a.Ground} {v : a.Value} {w : String} : Written g v w ↔ g.text v = w := by
  constructor
  · intro h
    induction h with
    | int | true | false | string => rfl
    | list text each ih => rw [Ty.Ground.text, List.map_congr_left ih]
  · rintro rfl
    induction g with
    | int => exact .int v
    | bool =>
      cases v with
      | true => exact .true
      | false => exact .false
    | string => exact .string v
    | list g ih => exact .list g.text fun v _ => ih

/-- What is to be seen of a value. -/
inductive Seen : (a : Ty) → a.Value → Option String → Prop
  | data {a : Ty} {g : a.Ground} {v : a.Value} {w : String} (h : Written g v w) :
      Seen a v (some w)
  | count {c : (Ty.church .int).Value} {k : Nat} (h : Counts k c) :
      Seen (Ty.church .int) c (some ((k : Int).bmod (2 ^ 64)).repr)
  | nothing {a b : Ty} {f : (Ty.fn a b).Value} (h : Ty.fn a b ≠ Ty.church .int) :
      Seen (.fn a b) f none

lemma text?_ground (g : a.Ground) (v : a.Value) : a.text? v = some (g.text v) := by
  cases g with
  | int | bool | string => rfl
  | list g =>
    change (Ty.list _).ground?.map (fun h => h.text v) = _
    rw [(Ty.Ground.list g).ground?_eq, Option.map_some]

lemma Seen.text?_eq {v : a.Value} {w : Option String} (h : Seen a v w) : a.text? v = w := by
  cases h with
  | data h => rw [text?_ground, written_iff.mp h]
  | count h => rw [Ty.text?, Ty.Ground.text, h.toInt]
  | nothing h =>
    unfold Ty.text?
    split
    · next htype _ => exact absurd htype h
    · rfl

/-- All exhibits are data, numerals or functions. -/
lemma exists_seen (x : Exhibit) : ∃ w, Seen x.type x.expr.value w := by
  cases x with
  | zero => exact ⟨_, .count (.numeral 0)⟩
  | one => exact ⟨_, .count (.numeral 1)⟩
  | two => exact ⟨_, .count (.numeral 2)⟩
  | runChurchTwo | greetingLength => exact ⟨_, .data (g := .int) (written_iff.mpr rfl)⟩
  | branch => exact ⟨_, .data (g := .bool) (written_iff.mpr rfl)⟩
  | guardedList | increments => exact ⟨_, .data (g := .list .int) (written_iff.mpr rfl)⟩
  | mapNot => exact ⟨_, .data (g := .list .bool) (written_iff.mpr rfl)⟩
  | _ => exact ⟨_, .nothing (by decide)⟩

/-- **The text of a value is what is to be seen of it.** -/
theorem seen_iff (x : Exhibit) {w : Option String} :
    Seen x.type x.expr.value w ↔ x.valueText? = w := by
  refine ⟨Seen.text?_eq, ?_⟩
  rintro rfl
  obtain ⟨w, h⟩ := exists_seen x
  have hw : x.valueText? = w := h.text?_eq
  rwa [hw]

end Explorer

end TypedLambda
