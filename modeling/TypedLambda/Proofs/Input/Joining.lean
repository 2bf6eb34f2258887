import Mathlib.Data.List.ReduceOption
import TypedLambda.Proofs.Input.Completed

/-!
What lines come to when they are added one after the other. A line that is continued ends in one
backslash more than its text has, and a line feed takes that one's place. The lines fall apart
into groups, each of which ends in the first line that is not continued, and a remainder of
continued lines. The invariant is that nothing is held where a group begins. Main statement: each
group gives one input, which is its text, and what is held in the end is the text of the
remainder, so that no character of the lines is lost or comes twice.
-/

namespace TypedLambda

/-- What a line is in its input: a backslash at its end has become a line feed. -/
def joined (line : String) : String :=
  if line.toList.getLast? = some '\\' then String.ofList (line.toList.dropLast ++ ['\n']) else line

/-- The texts as lines that are all continued. -/
def continuedLines (texts : List String) : List String := texts.map (· ++ "\\")

/-- The texts in a row, with a line feed behind each. -/
def joinedTexts (texts : List String) : String := String.join (texts.map (· ++ "\n"))

/-- Lines that make one input: the texts of those that are continued, and one that is not. -/
structure LineGroup where
  continued : List String
  last : String
  complete : last.toList.getLast? ≠ some '\\'

namespace LineGroup

def lines (g : LineGroup) : List String := continuedLines g.continued ++ [g.last]

def input (g : LineGroup) : String := joinedTexts g.continued ++ g.last

/-- Nothing comes of any line of the group but the last. -/
def results (g : LineGroup) : List (Option String) :=
  List.replicate g.continued.length none ++ [some g.input]

end LineGroup

lemma joined_append_backslash (s : String) : joined (s ++ "\\") = s ++ "\n" := by
  simp [joined, String.toList_append, String.ofList_append]

lemma joined_of_complete {line : String} (h : line.toList.getLast? ≠ some '\\') :
    joined line = line := if_neg h

/-- A line that ends in a backslash is a text and that backslash. -/
lemma exists_eq_append_backslash {line : String} (h : line.toList.getLast? = some '\\') :
    ∃ s : String, line = s ++ "\\" := by
  obtain ⟨cs, hcs⟩ := List.getLast?_eq_some_iff.mp h
  refine ⟨String.ofList cs, String.toList_inj.mp ?_⟩
  rw [hcs, String.toList_append, String.toList_ofList]
  rfl

/-- All lines belong to a group or to the remainder. -/
lemma exists_groups (lines : List String) : ∃ (groups : List LineGroup) (rest : List String),
    lines = groups.flatMap LineGroup.lines ++ continuedLines rest := by
  induction lines with
  | nil => exact ⟨[], [], rfl⟩
  | cons line lines ih =>
    obtain ⟨groups, rest, rfl⟩ := ih
    by_cases h : line.toList.getLast? = some '\\'
    · obtain ⟨s, rfl⟩ := exists_eq_append_backslash h
      -- The line goes on in the first group behind it, or in the remainder if there is none.
      cases groups with
      | nil => exact ⟨[], s :: rest, rfl⟩
      | cons g groups => exact ⟨⟨s :: g.continued, g.last, g.complete⟩ :: groups, rest, rfl⟩
    · exact ⟨⟨[], line, h⟩ :: groups, rest, rfl⟩

namespace OpenInput

/-- What comes of each line, added in turn, and what is held in the end. -/
def addEach : OpenInput → List String → List (Option String) × OpenInput
  | p, [] => ([], p)
  | p, line :: lines =>
    let (result, q) := p.add line
    let (results, r) := q.addEach lines
    (result :: results, r)

variable {p : OpenInput}

lemma addEach_cons (p : OpenInput) (line : String) (lines : List String) :
    p.addEach (line :: lines) =
      ((p.add line).1 :: ((p.add line).2.addEach lines).1, ((p.add line).2.addEach lines).2) :=
  rfl

lemma addEach_append (p : OpenInput) (lines more : List String) :
    p.addEach (lines ++ more) =
      ((p.addEach lines).1 ++ ((p.addEach lines).2.addEach more).1,
        ((p.addEach lines).2.addEach more).2) := by
  induction lines generalizing p with
  | nil => rfl
  | cons line lines ih => rw [List.cons_append, addEach_cons, addEach_cons, ih]; rfl

/-- The inputs that are completed are what comes of the lines, without those of which nothing
comes. -/
lemma reduceOption_addEach (p : OpenInput) (lines : List String) :
    (p.addEach lines).1.reduceOption = p.inputs lines := by
  induction lines generalizing p with
  | nil => rfl
  | cons line lines ih =>
    rw [addEach_cons, inputs]
    rcases p.add line with ⟨_ | input, q⟩
    · rw [List.reduceOption_cons_of_none, ih]
    · rw [List.reduceOption_cons_of_some, ih]

/-- An input comes of exactly those lines that are not continued. -/
lemma map_isSome_addEach (p : OpenInput) (lines : List String) :
    (p.addEach lines).1.map Option.isSome =
      lines.map fun line => decide (line.toList.getLast? ≠ some '\\') := by
  induction lines generalizing p with
  | nil => rfl
  | cons line lines ih =>
    have hline : (p.add line).1.isSome = decide (line.toList.getLast? ≠ some '\\') := by
      by_cases h : line.toList.getLast? = some '\\'
      · obtain ⟨s, rfl⟩ := exists_eq_append_backslash h
        rw [add_of_continued (continued?_append_backslash s)]
        simp
      · rw [add_of_not_continued (continued?_eq_none.mpr h)]
        simp [h]
    rw [addEach_cons, List.map_cons, List.map_cons, ih, hline]

/-- What completes an input leaves nothing behind. -/
lemma add_snd_of_some {line input : String} (h : (p.add line).1 = some input) :
    (p.add line).2 = empty := by
  rcases hline : continued? line with _ | text
  · rw [add_of_not_continued hline]
  · rw [add_of_continued hline] at h
    cases h

lemma addEach_snd_of_getLast? {lines : List String} {input : String}
    (h : (p.addEach lines).1.getLast? = some (some input)) : (p.addEach lines).2 = empty := by
  rcases List.eq_nil_or_concat lines with rfl | ⟨lines, line, rfl⟩
  · cases h
  · rw [List.concat_eq_append, addEach_append] at h ⊢
    rw [addEach_cons, addEach, List.getLast?_concat] at h
    exact add_snd_of_some (Option.some.inj h)

/-! ### Groups -/

/-- What is held after continued lines with the given texts: nothing if there are none. -/
def holding (texts : List String) : OpenInput :=
  if texts = [] then empty else ⟨some (joinedTexts texts)⟩

lemma holding_nil : holding [] = empty := rfl

lemma holding_eq_empty {texts : List String} : holding texts = empty ↔ texts = [] := by
  unfold holding
  split <;> simp_all [empty]

lemma getD_held_holding (texts : List String) :
    (holding texts).held.getD "" = joinedTexts texts := by
  unfold holding
  split
  · next h => rw [h]; rfl
  · rfl

lemma joinedTexts_concat (texts : List String) (s : String) :
    joinedTexts (texts ++ [s]) = joinedTexts texts ++ (s ++ "\n") := by
  simp [joinedTexts, String.join_append]

lemma add_holding (texts : List String) (s : String) :
    (holding texts).add (s ++ "\\") = (none, holding (texts ++ [s])) := by
  have hne : texts ++ [s] ≠ [] := by simp
  rw [add_of_continued (continued?_append_backslash s), getD_held_holding, holding, if_neg hne,
    joinedTexts_concat]

lemma addEach_continuedLines (texts more : List String) :
    (holding texts).addEach (continuedLines more) =
      (List.replicate more.length none, holding (texts ++ more)) := by
  induction more generalizing texts with
  | nil => rw [List.append_nil]; rfl
  | cons s more ih =>
    have hcons : continuedLines (s :: more) = (s ++ "\\") :: continuedLines more := rfl
    rw [hcons, addEach_cons, add_holding, ih, List.append_assoc]
    rfl

/-- **One group** gives its input and leaves nothing held. -/
lemma addEach_group (g : LineGroup) : empty.addEach g.lines = (g.results, empty) := by
  have hlast : continued? g.last = none := continued?_eq_none.mpr g.complete
  rw [LineGroup.lines, addEach_append, ← holding_nil, addEach_continuedLines, addEach_cons,
    add_of_not_continued hlast, getD_held_holding]
  rfl

lemma addEach_groups (groups : List LineGroup) (rest : List String) :
    empty.addEach (groups.flatMap LineGroup.lines ++ continuedLines rest) =
      (groups.flatMap LineGroup.results ++ List.replicate rest.length none, holding rest) := by
  induction groups with
  | nil => exact addEach_continuedLines [] rest
  | cons g groups ih =>
    rw [List.flatMap_cons, List.append_assoc, addEach_append, addEach_group, ih, List.flatMap_cons,
      List.append_assoc]

lemma inputs_groups (groups : List LineGroup) (rest : List String) :
    empty.inputs (groups.flatMap LineGroup.lines ++ continuedLines rest) =
      groups.map LineGroup.input := by
  rw [← reduceOption_addEach, addEach_groups, List.reduceOption_append,
    List.reduceOption_replicate_none, List.append_nil]
  induction groups with
  | nil => rfl
  | cons g groups ih =>
    rw [List.flatMap_cons, List.reduceOption_append, ih, LineGroup.results,
      List.reduceOption_append, List.reduceOption_replicate_none]
    rfl

/-- The last line is continued just if there is a remainder. -/
lemma rest_eq_nil_iff (groups : List LineGroup) (rest : List String) :
    rest = [] ↔ groups.flatMap LineGroup.lines ++ continuedLines rest = [] ∨
      ∃ line, (groups.flatMap LineGroup.lines ++ continuedLines rest).getLast? = some line ∧
        line.toList.getLast? ≠ some '\\' := by
  rcases List.eq_nil_or_concat rest with rfl | ⟨rest, s, rfl⟩
  · rcases List.eq_nil_or_concat groups with rfl | ⟨groups, g, rfl⟩
    · exact iff_of_true rfl (.inl rfl)
    · refine iff_of_true rfl (.inr ⟨g.last, ?_, g.complete⟩)
      simp [continuedLines, LineGroup.lines]
  · simp [continuedLines]

lemma join_map_joined (groups : List LineGroup) (rest : List String) :
    String.join ((groups.flatMap LineGroup.lines ++ continuedLines rest).map joined) =
      String.join (groups.map LineGroup.input) ++ joinedTexts rest := by
  have hrest (texts : List String) :
      String.join ((continuedLines texts).map joined) = joinedTexts texts := by
    rw [continuedLines, List.map_map]
    exact congrArg String.join (List.map_congr_left fun s _ => joined_append_backslash s)
  have hgroup (g : LineGroup) : String.join (g.lines.map joined) = g.input := by
    rw [LineGroup.lines, List.map_append, String.join_append, hrest, List.map_singleton,
      joined_of_complete g.complete]
    simp [LineGroup.input]
  rw [List.map_append, String.join_append, hrest]
  congr 1
  induction groups with
  | nil => rfl
  | cons g groups ih =>
    rw [List.flatMap_cons, List.map_append, String.join_append, hgroup, ih]
    simp

/-- **Joining loses nothing and duplicates nothing.** -/
theorem addEach_eq (lines : List String) :
    (empty.addEach lines).1.map Option.isSome =
        lines.map (fun line => decide (line.toList.getLast? ≠ some '\\')) ∧
      (∃ (groups : List LineGroup) (rest : List String),
        lines = groups.flatMap LineGroup.lines ++ continuedLines rest ∧
        (empty.addEach lines).1 =
          groups.flatMap LineGroup.results ++ List.replicate rest.length none ∧
        empty.inputs lines = groups.map LineGroup.input ∧
        (empty.addEach lines).2 = if rest = [] then empty else ⟨some (joinedTexts rest)⟩) ∧
      ((empty.addEach lines).2 = empty ↔ lines = [] ∨
        ∃ line, lines.getLast? = some line ∧ line.toList.getLast? ≠ some '\\') ∧
      String.join (empty.inputs lines) ++ (empty.addEach lines).2.held.getD "" =
        String.join (lines.map joined) ∧
      ∀ (before after : List String) (input : String), lines = before ++ after →
        (empty.addEach before).1.getLast? = some (some input) →
          empty.addEach lines =
            ((empty.addEach before).1 ++ (empty.addEach after).1, (empty.addEach after).2) := by
  refine ⟨map_isSome_addEach empty lines, ?_⟩
  obtain ⟨groups, rest, rfl⟩ := exists_groups lines
  have hall := addEach_groups groups rest
  refine ⟨⟨groups, rest, rfl, ?_, inputs_groups groups rest, ?_⟩, ?_, ?_, ?_⟩
  · rw [hall]
  · rw [hall, holding]
  · rw [hall, holding_eq_empty]
    exact rest_eq_nil_iff groups rest
  · rw [hall, getD_held_holding, inputs_groups, join_map_joined]
  · intro before after input hsplit hinput
    rw [hsplit, addEach_append, addEach_snd_of_getLast? hinput]

/-- Two backslashes at the end of a line, and lines that are empty but for one. -/
def doubledBackslashes : List String := ["a\\\\", "\\", "b", "", "\\"]

theorem addEach_doubledBackslashes :
    empty.addEach doubledBackslashes =
      ([none, none, some "a\\\n\nb", some "", none], ⟨some "\n"⟩) := by
  obtain ⟨-, -, -, -, h⟩ := addEach_eq doubledBackslashes
  rw [h ["a\\\\", "\\", "b"] ["", "\\"] "a\\\n\nb" rfl (by decide)]
  decide

end OpenInput

end TypedLambda
