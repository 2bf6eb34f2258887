import Mathlib.Data.List.TakeWhile
import TypedLambda.Proofs.Input.Sending

/-!
Streams that are cut in two. The pieces of a stream say whether it is text. Main statement: where
the cut is behind a line that completes an input, the inputs of the whole are those of the first
part and then those of the second.
-/

namespace TypedLambda

/-! ### Pieces -/

lemma isText_flatten {ps : List (List UInt8)} (h : ∀ p ∈ ps, ofUtf8? p ≠ none) :
    ofUtf8? ps.flatten ≠ none := by
  induction ps with
  | nil => exact fun hn => by simp [← utf8_empty, ofUtf8?_utf8] at hn
  | cons p ps ih =>
    obtain ⟨s, hs⟩ := Option.ne_none_iff_exists'.mp (h p List.mem_cons_self)
    obtain ⟨t, ht⟩ := Option.ne_none_iff_exists'.mp
      (ih fun q hq => h q (List.mem_cons_of_mem p hq))
    rw [ofUtf8?_eq_some] at hs ht
    rw [List.flatten_cons, hs, ht, ← utf8_append, ofUtf8?_utf8]
    exact Option.some_ne_none _

/-- **A stream is text just if each of its pieces is.** -/
theorem isText_iff_pieces {bytes : List UInt8} :
    ofUtf8? bytes ≠ none ↔ ∀ p ∈ pieces bytes, ofUtf8? p ≠ none := by
  constructor
  · intro h p hp
    obtain ⟨s, hs⟩ := Option.ne_none_iff_exists'.mp h
    rw [ofUtf8?_eq_some, ← String.ofList_toList (s := s)] at hs
    rw [hs] at hp
    exact isText_of_mem_pieces (u := []) List.not_mem_nil hp
  · intro h
    rw [← flatten_pieces bytes]
    exact isText_flatten h

lemma pieces_ne_nil {bytes : List UInt8} (h : bytes ≠ []) : pieces bytes ≠ [] := by
  intro hn
  have hflat := flatten_pieces bytes
  rw [hn] at hflat
  exact h hflat.symm

/-- The pieces behind a line feed are those of the rest. -/
lemma pieces_append_lineFeed (u v : List UInt8) :
    pieces (u ++ 10 :: v) = pieces (u ++ [10]) ++ pieces v := by
  induction u with
  | nil => simp [pieces]
  | cons b u ih =>
    rw [List.cons_append, List.cons_append, pieces, pieces, ih]
    by_cases hb : b = 10
    · rw [if_pos hb, if_pos hb]
      rfl
    · rw [if_neg hb, if_neg hb]
      rcases hp : pieces (u ++ [10]) with _ | ⟨p, ps⟩
      · exact absurd hp (pieces_ne_nil (by simp))
      · rfl

/-- The first of two streams ends where a line ends, or there is nothing in the second. -/
def CutAtLine (bytes rest : List UInt8) : Prop := bytes.getLast? = some 10 ∨ bytes = [] ∨ rest = []

variable {bytes rest : List UInt8}

lemma pieces_append_of_cut (h : CutAtLine bytes rest) :
    pieces (bytes ++ rest) = pieces bytes ++ pieces rest := by
  rcases h with h | rfl | rfl
  · obtain ⟨u, rfl⟩ := List.getLast?_eq_some_iff.mp h
    rw [List.append_assoc, List.singleton_append]
    exact pieces_append_lineFeed u rest
  · rfl
  · simp [pieces]

lemma readableLines_append_of_cut (h : CutAtLine bytes rest) (htext : ofUtf8? bytes ≠ none) :
    readableLines (bytes ++ rest) = readableLines bytes ++ readableLines rest := by
  have hpos : ∀ p ∈ pieces bytes, (line? p).isSome = true := fun p hp =>
    Option.isSome_iff_ne_none.mpr (mt line?_eq_none.mp (isText_iff_pieces.mp htext p hp))
  have hall := List.takeWhile_eq_self_iff.mpr hpos
  rw [readableLines, pieces_append_of_cut h, List.takeWhile_append_of_pos hpos,
    List.filterMap_append, readableLines, hall, readableLines]

/-! ### Inputs -/

namespace OpenInput

/-- A line that is not continued leaves nothing open for the lines after it. -/
lemma inputs_append {p : OpenInput} {lines : List String} {line : String}
    (hlast : lines.getLast? = some line) (hline : continued? line = none) (more : List String) :
    p.inputs (lines ++ more) = p.inputs lines ++ empty.inputs more := by
  induction lines generalizing p with
  | nil => cases hlast
  | cons l lines ih =>
    rcases hl : continued? l with _ | text
    · rw [List.cons_append, inputs_cons_of_not_continued hl, inputs_cons_of_not_continued hl]
      rcases lines with _ | ⟨m, lines⟩
      · rfl
      · rw [List.getLast?_cons_cons] at hlast
        rw [ih hlast]
        rfl
    · rcases lines with _ | ⟨m, lines⟩
      · obtain rfl : l = line := Option.some.inj hlast
        rw [hline] at hl
        cases hl
      · rw [List.getLast?_cons_cons] at hlast
        rw [List.cons_append, inputs_cons_of_continued hl, inputs_cons_of_continued hl, ih hlast]

lemma inputs_of_all_continued {p : OpenInput} {lines : List String}
    (h : ∀ line ∈ lines, continued? line ≠ none) : p.inputs lines = [] := by
  induction lines generalizing p with
  | nil => rfl
  | cons l lines ih =>
    obtain ⟨hl, hlines⟩ := List.forall_mem_cons.mp h
    obtain ⟨text, htext⟩ := Option.ne_none_iff_exists'.mp hl
    rw [inputs_cons_of_continued htext, ih hlines]

end OpenInput

/-- The cut is behind a line that completes an input, or before all lines. -/
structure CutAtInput (bytes rest : List UInt8) : Prop where
  line : CutAtLine bytes rest
  completes : bytes = [] ∨
    ∃ line, (readableLines bytes).getLast? = some line ∧ continued? line = none

/-- **A cut behind an input takes no input apart.** -/
theorem completedInputs_append (h : CutAtInput bytes rest) (htext : ofUtf8? bytes ≠ none) :
    completedInputs (bytes ++ rest) = completedInputs bytes ++ completedInputs rest := by
  rcases h.completes with rfl | ⟨line, hlast, hline⟩
  · rfl
  · rw [completedInputs, readableLines_append_of_cut h.line htext,
      OpenInput.inputs_append hlast hline]
    rfl

end TypedLambda
