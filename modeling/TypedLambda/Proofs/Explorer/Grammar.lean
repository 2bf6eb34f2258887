import TypedLambda.Explorer.Session
import TypedLambda.Proofs.Explorer.Catalogue
import TypedLambda.Proofs.Text.Blank

/-!
What the explorer makes of an input. Behind a colon comes a word and an argument, in an input
without a colon the whole is an argument. Main statement: word and argument decide what is said,
as a table of commands has it, so blanks may be put in at will where there are some already or at
either end, and an input without a colon is what `:render` is asked for.
-/

namespace TypedLambda

namespace Explorer

open Text

/-- The words that stand for a command. -/
def commandWords : List String :=
  ["l", "ls", "list", "", "r", "render", "e", "eval", "evaluate", "h", "he", "hel", "help"]

/-- The help, as it stands in print. -/
def usage : String :=
  "name                -- same as :render name\n" ++
  ":list               -- list the example terms\n" ++
  ":render     name    -- pretty-print the term\n" ++
  ":eval       name    -- evaluate the term\n" ++
  ":help               -- show this message\n"

/-- What is said to a word and its argument, on either stream. -/
inductive Replies : String → String → Speech → Prop
  | list {word arg : String} (h : word ∈ ["l", "ls", "list"]) :
      Replies word arg ⟨String.join (catalogue.map fun p => p.1 ++ "\n"), ""⟩
  | text {word arg w : String} {a : Ty} {e : Expr [] a} (h : word ∈ ["", "r", "render"])
      (he : (arg, ⟨a, e⟩) ∈ catalogue) (hw : e.render = .ok w) :
      Replies word arg ⟨w ++ "\n", ""⟩
  | value {word arg w : String} {a : Ty} {e : Expr [] a} (h : word ∈ ["e", "eval", "evaluate"])
      (he : (arg, ⟨a, e⟩) ∈ catalogue) (hw : Seen a e.value (some w)) :
      Replies word arg ⟨w ++ "\n", ""⟩
  | noValue {word arg : String} {a : Ty} {e : Expr [] a} (h : word ∈ ["e", "eval", "evaluate"])
      (he : (arg, ⟨a, e⟩) ∈ catalogue) (hw : Seen a e.value none) :
      Replies word arg ⟨arg ++ " denotes a function\n", ""⟩
  | noTerm {word arg : String} (h : word ∈ ["", "r", "render", "e", "eval", "evaluate"])
      (unknown : ∀ p ∈ catalogue, p.1 ≠ arg) :
      Replies word arg ⟨"", "Unknown term `" ++ arg ++ "`, try :list\n"⟩
  | help {word arg : String} (h : word ∈ ["h", "he", "hel", "help"]) :
      Replies word arg ⟨usage, ""⟩
  | noCommand {word arg : String} (h : word ∉ commandWords) :
      Replies word arg ⟨usage, "Unknown command " ++ word ++ "\n"⟩

lemma outLine_append (s t : String) : Speech.outLine (s ++ t) = ⟨s ++ (t ++ "\n"), ""⟩ := by
  rw [Speech.outLine, String.append_assoc]

lemma errLine_append (s t : String) : Speech.errLine (s ++ t) = ⟨"", s ++ (t ++ "\n")⟩ := by
  rw [Speech.errLine, String.append_assoc]

namespace Command

lemma answer_list : list.answer = ⟨String.join (catalogue.map fun p => p.1 ++ "\n"), ""⟩ := by
  decide +kernel

lemma answer_help : help.answer = ⟨usage, ""⟩ := by decide +kernel

lemma answer_unknown (word : String) :
    (unknown word).answer = ⟨usage, "Unknown command " ++ word ++ "\n"⟩ := by
  change .errLine ("Unknown command " ++ word) ++ help.answer = _
  rw [answer_help]
  change Speech.mk ("" ++ usage) ("Unknown command " ++ word ++ "\n" ++ "") = _
  rw [String.empty_append, String.append_empty]

variable {word arg w : String} {said : Speech} {x : Exhibit}

lemma about_name (x : Exhibit) (say : Exhibit → String) : about x.name say = .outLine (say x) := by
  rw [about, Exhibit.find?_name]

lemma answer_render (h : x.expr.render = .ok w) : (render x.name).answer = ⟨w ++ "\n", ""⟩ := by
  have htext : x.text = w := Except.ok.inj (x.render_eq.symm.trans h)
  rw [answer, about_name, htext]
  rfl

lemma answer_value (h : Seen x.type x.expr.value (some w)) :
    (value x.name).answer = ⟨w ++ "\n", ""⟩ := by
  rw [answer, about_name, (seen_iff x).mp h]
  rfl

lemma answer_noValue (h : Seen x.type x.expr.value none) :
    (value x.name).answer = ⟨x.name ++ " denotes a function\n", ""⟩ := by
  rw [answer, about_name, (seen_iff x).mp h]
  exact outLine_append x.name " denotes a function"

lemma about_unknown (h : ∀ p ∈ catalogue, p.1 ≠ arg) (say : Exhibit → String) :
    about arg say = ⟨"", "Unknown term `" ++ arg ++ "`, try :list\n"⟩ := by
  have hfind : Exhibit.find? arg = none := by
    cases hx : Exhibit.find? arg with
    | none => rfl
    | some x => exact absurd (Exhibit.find?_eq_some.mp hx) (h _ (mem_catalogue.mpr ⟨x, rfl⟩))
  rw [about, hfind]
  exact errLine_append ("Unknown term `" ++ arg) "`, try :list"

/-- The argument is looked up as it is written. -/
lemma name_cases (arg : String) :
    (∃ x : Exhibit, x.name = arg) ∨ ∀ p ∈ catalogue, p.1 ≠ arg := by
  by_cases h : ∃ x : Exhibit, x.name = arg
  · exact .inl h
  · refine .inr fun p hp hname => h ?_
    obtain ⟨x, rfl⟩ := mem_catalogue.mp hp
    exact ⟨x, hname⟩

lemma replies_render (h : word ∈ ["", "r", "render"]) (arg : String) :
    Replies word arg (render arg).answer := by
  obtain ⟨x, rfl⟩ | hx := name_cases arg
  · rw [answer_render x.render_eq]
    exact .text h (mem_catalogue.mpr ⟨x, rfl⟩) x.render_eq
  · rw [answer, about_unknown hx]
    exact .noTerm (List.mem_append_left ["e", "eval", "evaluate"] h) hx

lemma replies_value (h : word ∈ ["e", "eval", "evaluate"]) (arg : String) :
    Replies word arg (value arg).answer := by
  obtain ⟨x, rfl⟩ | hx := name_cases arg
  · have hmem : (x.name, ⟨x.type, x.expr⟩) ∈ catalogue := mem_catalogue.mpr ⟨x, rfl⟩
    obtain ⟨_ | w, hx⟩ := exists_seen x
    · rw [answer_noValue hx]
      exact .noValue h hmem hx
    · rw [answer_value hx]
      exact .value h hmem hx
  · rw [answer, about_unknown hx]
    exact .noTerm (List.mem_append_right ["", "r", "render"] h) hx

/-! ### From words to commands -/

variable (cs : List Char)

lemma ofWord_list (h : word ∈ ["l", "ls", "list"]) : ofWord word.toList cs = list := by
  simp only [List.mem_cons, List.not_mem_nil, or_false] at h
  rcases h with rfl | rfl | rfl <;> rfl

lemma ofWord_render (h : word ∈ ["", "r", "render"]) :
    ofWord word.toList cs = render (String.ofList (trim cs)) := by
  simp only [List.mem_cons, List.not_mem_nil, or_false] at h
  rcases h with rfl | rfl | rfl <;> rfl

lemma ofWord_value (h : word ∈ ["e", "eval", "evaluate"]) :
    ofWord word.toList cs = value (String.ofList (trim cs)) := by
  simp only [List.mem_cons, List.not_mem_nil, or_false] at h
  rcases h with rfl | rfl | rfl <;> rfl

lemma ofWord_help (h : word ∈ ["h", "he", "hel", "help"]) : ofWord word.toList cs = help := by
  simp only [List.mem_cons, List.not_mem_nil, or_false] at h
  rcases h with rfl | rfl | rfl | rfl <;> rfl

lemma ofWord_unknown (h : word ∉ commandWords) : ofWord word.toList cs = unknown word := by
  simp only [commandWords, List.mem_cons, List.not_mem_nil, or_false, not_or] at h
  simp [ofWord, h]

/-- Each command says what the table has for its words. -/
lemma replies_answer (word : String) :
    Replies word (String.ofList (trim cs)) (ofWord word.toList cs).answer := by
  by_cases hword : word ∈ commandWords
  · have hkind : word ∈ ["l", "ls", "list"] ++ (["", "r", "render"] ++
        (["e", "eval", "evaluate"] ++ ["h", "he", "hel", "help"])) := hword
    simp only [List.mem_append] at hkind
    rcases hkind with h | h | h | h
    · rw [ofWord_list cs h, answer_list]
      exact .list h
    · rw [ofWord_render cs h]
      exact replies_render h _
    · rw [ofWord_value cs h]
      exact replies_value h _
    · rw [ofWord_help cs h, answer_help]
      exact .help h
  · rw [ofWord_unknown cs hword, answer_unknown]
    exact .noCommand hword

/-- The table has nothing else for them. -/
lemma answer_of_replies (h : Replies word (String.ofList (trim cs)) said) :
    (ofWord word.toList cs).answer = said := by
  generalize harg : String.ofList (trim cs) = arg at h
  cases h with
  | list h => rw [ofWord_list cs h, answer_list]
  | text h he hw =>
    obtain ⟨x, hx⟩ := mem_catalogue.mp he
    cases hx
    rw [ofWord_render cs h, harg, answer_render hw]
  | value h he hw =>
    obtain ⟨x, hx⟩ := mem_catalogue.mp he
    cases hx
    rw [ofWord_value cs h, harg, answer_value hw]
  | noValue h he hw =>
    obtain ⟨x, hx⟩ := mem_catalogue.mp he
    cases hx
    rw [ofWord_value cs h, harg, answer_noValue hw]
  | noTerm h unknown =>
    have hkind : word ∈ ["", "r", "render"] ++ ["e", "eval", "evaluate"] := h
    rcases List.mem_append.mp hkind with h | h
    · rw [ofWord_render cs h, harg, answer, about_unknown unknown]
    · rw [ofWord_value cs h, harg, answer, about_unknown unknown]
  | help h => rw [ofWord_help cs h, answer_help]
  | noCommand h => rw [ofWord_unknown cs h, answer_unknown]

lemma ofWord_congr (word : List Char) {u v : List Char} (h : trim u = trim v) :
    ofWord word u = ofWord word v := by
  rw [ofWord, ofWord, h]

end Command

lemma respond_eq_of_ofInput? {input : String} {c : Command} (h : Command.ofInput? input = some c) :
    respond input = c.answer := by
  rw [respond, h]

/-- An input behind a colon is never blank, and it has a word and an argument. -/
lemma respond_colon (cs : List Char) :
    ∃ rest, trim rest = (parts cs).2 ∧
      respond (String.ofList (':' :: cs)) = (Command.ofWord (parts cs).1 rest).answer := by
  obtain ⟨rest, hcut, hrest⟩ := cutAtBlank?_trimLeft cs
  refine ⟨rest, hrest, respond_eq_of_ofInput? ?_⟩
  have hblank : (':' :: cs).all isBlank = false := rfl
  rw [Command.ofInput?, String.toList_ofList, hblank, Command.split, hcut]
  rfl

/-- The word and the argument say all. -/
lemma respond_congr {cs ds : List Char} (h : parts cs = parts ds) :
    respond (String.ofList (':' :: cs)) = respond (String.ofList (':' :: ds)) := by
  obtain ⟨u, hu, hcs⟩ := respond_colon cs
  obtain ⟨v, hv, hds⟩ := respond_colon ds
  have huv : trim u = trim v := by rw [hu, hv, h]
  rw [hcs, hds, h, Command.ofWord_congr _ huv]

/-- Without a colon an input is an argument as it is. -/
lemma respond_of_head_ne {input : String} (hcolon : input.toList.head? ≠ some ':')
    (hblank : ¬ Blanks input.toList) :
    respond input = (Command.ofWord [] input.toList).answer := by
  have hall : ¬ input.toList.all isBlank = true := fun h => hblank (List.all_eq_true.mp h)
  have hsplit : Command.split input.toList = ([], input.toList) := by
    unfold Command.split
    split
    · next h => exact absurd (by rw [h]; rfl) hcolon
    · rfl
  refine respond_eq_of_ofInput? ?_
  rw [Command.ofInput?, if_neg hall, hsplit]

/-- A command as it may be typed: with blanks behind the colon, between its word and its argument,
and at the end. -/
def spaced (b w s a e : List Char) : String := String.ofList (':' :: (b ++ (w ++ (s ++ a)) ++ e))

variable {b w s a e b' s' e' : List Char}

lemma parts_spaced (hb : Blanks b) (he : Blanks e) (cs : List Char) :
    parts (b ++ cs ++ e) = parts cs := by
  rw [parts_append_blanks he, parts_blanks_append hb]

/-- Nothing hangs on the number of the blanks and on which they are. -/
lemma respond_spaced (hb : Blanks b) (hb' : Blanks b') (hw : BlankFree w) (hs : Blanks s)
    (hs' : Blanks s') (he : Blanks e) (he' : Blanks e') (ha : a = [] ∨ s ≠ [] ∧ s' ≠ []) :
    respond (spaced b w s a e) = respond (spaced b' w s' a e') := by
  refine respond_congr ?_
  rw [parts_spaced hb he, parts_spaced hb' he']
  cases w with
  | nil =>
    -- Without a word the separator stands where blanks before a word would.
    rw [List.nil_append, List.nil_append, parts_blanks_append hs, parts_blanks_append hs']
  | cons c w =>
    rw [parts_separated hw hs (ha.imp_right And.left),
      parts_separated hw hs' (ha.imp_right And.right)]

/-- An input without a colon is what `:render` is asked for. -/
lemma respond_render {input : String} (hcolon : input.toList.head? ≠ some ':')
    (hblank : ¬ Blanks input.toList) : respond input = respond (":render " ++ input) := by
  have hw : BlankFree "render".toList := by decide
  have hs : Blanks [' '] := by decide
  have hparts : parts ("render".toList ++ ([' '] ++ input.toList)) =
      ("render".toList, trim input.toList) := parts_separated hw hs (.inr (List.cons_ne_nil _ _))
  obtain ⟨rest, hrest, hrender⟩ := respond_colon ("render".toList ++ ([' '] ++ input.toList))
  have hinput : ":render " ++ input =
      String.ofList (':' :: ("render".toList ++ ([' '] ++ input.toList))) := by
    change _ = String.ofList (":render ".toList ++ input.toList)
    rw [String.ofList_append, String.ofList_toList, String.ofList_toList]
  rw [hparts] at hrest hrender
  rw [hinput, hrender, respond_of_head_ne hcolon hblank, Command.ofWord, Command.ofWord, hrest]
  rfl

/-- **What the explorer says is said to a word and an argument.** -/
theorem respond_replies :
    (∀ (cs : List Char) (said : Speech),
      respond (String.ofList (':' :: cs)) = said ↔
        Replies (String.ofList (parts cs).1) (String.ofList (parts cs).2) said) ∧
      (∀ cs ds : List Char, parts cs = parts ds →
        respond (String.ofList (':' :: cs)) = respond (String.ofList (':' :: ds))) ∧
      (∀ b w s a e b' s' e' : List Char, BlankFree w → Blanks b → Blanks s → Blanks e →
        Blanks b' → Blanks s' → Blanks e' → (a = [] ∨ s ≠ [] ∧ s' ≠ []) →
          respond (spaced b w s a e) = respond (spaced b' w s' a e')) ∧
      ∀ input : String, input.toList.head? ≠ some ':' → ¬ Blanks input.toList →
        respond input = respond (":render " ++ input) := by
  refine ⟨fun cs said => ?_, fun cs ds => respond_congr, ?_, fun input => respond_render⟩
  · obtain ⟨rest, hrest, hcs⟩ := respond_colon cs
    have hword : (String.ofList (parts cs).1).toList = (parts cs).1 := String.toList_ofList
    rw [hcs, ← hrest, ← congrArg (Command.ofWord · rest) hword]
    constructor
    · rintro rfl
      exact Command.replies_answer rest _
    · exact Command.answer_of_replies rest
  · intro b w s a e b' s' e' hw hb hs he hb' hs' he' ha
    exact respond_spaced hb hb' hw hs hs' he he' ha

/-- The names in print, a text, a list, a count and a function; a wide blank, a line feed and a
tab, and a blank that does not break, around a command; a colon with blanks only; a command behind
a blank. -/
theorem respond_replies_oddBlanks :
    respond ":list" = ⟨"identity\nselfApplication\napp\nkonst\ncompose\nflip\nsucc\nzero\n" ++
        "one\ntwo\naddOne\nrunChurchTwo\nbranch\nguardedList\nmapNot\nincrements\n" ++
        "greetingLength\n", ""⟩ ∧
      respond "branch" = ⟨"if ((not True)) then False else True\n", ""⟩ ∧
      respond ":e increments" = ⟨"[2, 3, 4]\n", ""⟩ ∧
      respond ":\u3000eval\n\ttwo\u00a0" = respond ":eval two" ∧
      respond ":eval two" = ⟨"2\n", ""⟩ ∧
      respond ":eval identity" = ⟨"identity denotes a function\n", ""⟩ ∧
      respond ": \n" = ⟨"", "Unknown term ``, try :list\n"⟩ ∧
      respond " :list" = respond (":render " ++ " :list") := by
  obtain ⟨hreplies, -, hspaced, hrender⟩ := respond_replies
  have hblanks : ∀ cs ∈ [['\u3000'], ['\n', '\t'], ['\u00a0'], [' '], []], Blanks cs := by decide
  have hword : BlankFree "eval".toList := by decide
  refine ⟨by decide +kernel, by decide +kernel, by decide +kernel, ?_, by decide +kernel,
    by decide +kernel, ?_, hrender " :list" (by decide) (by decide)⟩
  · refine hspaced ['\u3000'] "eval".toList ['\n', '\t'] "two".toList ['\u00a0'] [] [' '] []
      hword ?_ ?_ ?_ ?_ ?_ ?_ (.inr (by decide))
    all_goals exact hblanks _ (by decide)
  · exact (hreplies [' ', '\n'] _).mpr (.noTerm (by decide) (by decide))

end Explorer

end TypedLambda
