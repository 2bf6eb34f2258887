import Mathlib.Tactic.SplitIfs
import TypedLambda.Proofs.Input.Dialogue

/-!
How to send inputs so that they arrive. Each line feed in an input is sent as a backslash and a
line end, and a line end is sent behind the input. Main statement: inputs that do not end in a
backslash arrive as they are, and no other input ever arrives, whatever is sent.
-/

namespace TypedLambda

/-! ### Text in bytes -/

/-- A byte below 128 is the number of its character. -/
lemma toNat_eq_of_mem_utf8EncodeChar {c : Char} {b : UInt8} (h : b ∈ String.utf8EncodeChar c)
    (hb : b.toNat < 128) : b.toNat = c.val.toNat := by
  unfold String.utf8EncodeChar at h
  dsimp only at h
  split_ifs at h
  · obtain rfl := List.mem_singleton.mp h
    rw [UInt8.toNat_ofNat']
    omega
  -- The bytes of the longer forms are all 128 or more.
  all_goals simp only [List.mem_cons, List.not_mem_nil, or_false] at h
  · rcases h with rfl | rfl <;> rw [UInt8.toNat_ofNat'] at hb <;> omega
  · rcases h with rfl | rfl | rfl <;> rw [UInt8.toNat_ofNat'] at hb <;> omega
  · rcases h with rfl | rfl | rfl | rfl <;> rw [UInt8.toNat_ofNat'] at hb <;> omega

lemma utf8_ofList (cs : List Char) : utf8 (String.ofList cs) = cs.flatMap String.utf8EncodeChar := by
  simp [utf8, String.toByteArray_ofList, List.utf8Encode]

lemma utf8_ofList_append (cs ds : List Char) :
    utf8 (String.ofList (cs ++ ds)) = utf8 (String.ofList cs) ++ utf8 (String.ofList ds) := by
  rw [String.ofList_append, utf8_append]

lemma lineFeed_notMem_utf8 {cs : List Char} (h : '\n' ∉ cs) : 10 ∉ utf8 (String.ofList cs) := by
  rw [utf8_ofList, List.mem_flatMap]
  rintro ⟨c, hc, hb⟩
  have hn := toNat_eq_of_mem_utf8EncodeChar hb (by decide)
  obtain rfl : '\n' = c := Char.ext (UInt32.toNat_inj.mp hn)
  exact h hc

/-! ### Pieces of a text -/

lemma pieces_utf8_append {u : List Char} (hu : '\n' ∉ u) (cs : List Char) :
    pieces (utf8 (String.ofList (u ++ '\n' :: cs))) =
      utf8 (String.ofList (u ++ ['\n'])) :: pieces (utf8 (String.ofList cs)) := by
  have hlf : utf8 (String.ofList ['\n']) = [10] := by rw [utf8_ofList]; rfl
  have hcs : '\n' :: cs = ['\n'] ++ cs := rfl
  rw [hcs, utf8_ofList_append, utf8_ofList_append, utf8_ofList_append, hlf]
  exact pieces_append (lineFeed_notMem_utf8 hu) _

/-- The pieces of a text are texts. What is read of the first piece already is apart. -/
lemma isText_of_mem_pieces {u cs : List Char} (hu : '\n' ∉ u) {p : List UInt8}
    (hp : p ∈ pieces (utf8 (String.ofList (u ++ cs)))) : ofUtf8? p ≠ none := by
  induction cs generalizing u with
  | nil =>
    rw [List.append_nil] at hp
    rcases hbytes : utf8 (String.ofList u) with _ | ⟨b, bs⟩
    · rw [hbytes] at hp
      cases hp
    · have hne : utf8 (String.ofList u) ≠ [] := by rw [hbytes]; exact List.cons_ne_nil b bs
      rw [pieces_of_not_mem (lineFeed_notMem_utf8 hu) hne, List.mem_singleton] at hp
      rw [hp, ofUtf8?_utf8]
      exact Option.some_ne_none _
  | cons c cs ih =>
    by_cases hc : c = '\n'
    · subst hc
      rw [pieces_utf8_append hu] at hp
      rcases List.mem_cons.mp hp with rfl | hp
      · rw [ofUtf8?_utf8]
        exact Option.some_ne_none _
      · exact ih List.not_mem_nil hp
    · refine ih (u := u ++ [c]) ?_ (by rwa [List.append_assoc])
      rw [List.mem_append, List.mem_singleton, not_or]
      exact ⟨hu, Ne.symm hc⟩

/-! ### Inputs as lines -/

inductive LineEnd where
  | lf
  | crlf
  deriving DecidableEq, Repr

namespace LineEnd

def chars : LineEnd → List Char
  | lf => ['\n']
  | crlf => ['\r', '\n']

/-- The line end can follow without taking anything of the text along when it is taken off. -/
def Spares (e : LineEnd) (cs : List Char) : Prop :=
  match e with
  | lf => cs.getLast? ≠ some '\r'
  | crlf => True

/-- The text over several lines: all but the last end in a backslash. -/
def spread (e : LineEnd) (cs : List Char) : List Char :=
  (cs.flatMap fun c => if c = '\n' then '\\' :: e.chars else [c]) ++ e.chars

/-- The bytes by which the inputs are sent. -/
def send (e : LineEnd) (inputs : List String) : List UInt8 :=
  utf8 (String.ofList (inputs.flatMap fun input => e.spread input.toList))

variable {e : LineEnd} {u cs : List Char}

lemma dropLineEnd_append (h : e.Spares u) : dropLineEnd (u ++ e.chars) = u := by
  cases e with
  | lf => exact dropLineEnd_lf h
  | crlf => exact dropLineEnd_crlf u

lemma spares_backslash (u : List Char) : e.Spares (u ++ ['\\']) := by
  cases e with
  | lf => simp [Spares]
  | crlf => trivial

lemma getLast?_append_cons {c d : Char} (h : cs.getLast? = some d) :
    (u ++ c :: cs).getLast? = some d := by
  simp [List.getLast?_append, List.getLast?_cons, h]

lemma Spares.of_append (h : e.Spares (u ++ '\n' :: cs)) : e.Spares cs := by
  cases e with
  | lf => exact fun hcs => h (getLast?_append_cons hcs)
  | crlf => trivial

lemma readableLines_append (hu : '\n' ∉ u) (h : e.Spares u) (cs : List Char) :
    readableLines (utf8 (String.ofList (u ++ (e.chars ++ cs)))) =
      String.ofList u :: readableLines (utf8 (String.ofList cs)) := by
  obtain ⟨v, hv, hev⟩ : ∃ v, '\n' ∉ v ∧ e.chars = v ++ ['\n'] := by
    cases e with
    | lf => exact ⟨[], by simp, rfl⟩
    | crlf => exact ⟨['\r'], by simp, rfl⟩
  have huv : '\n' ∉ u ++ v := by simp [hu, hv]
  have hsplit : u ++ (e.chars ++ cs) = (u ++ v) ++ '\n' :: cs := by simp [hev]
  have hline : line? (utf8 (String.ofList (u ++ v ++ ['\n']))) = some (String.ofList u) := by
    rw [line?_utf8, String.toList_ofList, List.append_assoc, ← hev, dropLineEnd_append h]
  rw [readableLines, hsplit, pieces_utf8_append huv]
  simp only [List.takeWhile_cons, List.filterMap_cons, hline, Option.isSome_some, if_true]
  rfl

/-- One input is read back, with what is held of it and read of its next line already apart. -/
lemma inputs_spread {p : OpenInput} (cs rest : List Char) (hu : '\n' ∉ u)
    (hb : (u ++ cs).getLast? ≠ some '\\') (he : e.Spares (u ++ cs)) :
    p.inputs (readableLines (utf8 (String.ofList (u ++ (e.spread cs ++ rest))))) =
      (p.held.getD "" ++ String.ofList (u ++ cs)) ::
        OpenInput.empty.inputs (readableLines (utf8 (String.ofList rest))) := by
  induction cs generalizing p u with
  | nil =>
    rw [List.append_nil] at hb he ⊢
    have hspread : e.spread [] = e.chars := rfl
    have hline : continued? (String.ofList u) = none := by
      rwa [continued?_eq_none, String.toList_ofList]
    rw [hspread, readableLines_append hu he, OpenInput.inputs_cons_of_not_continued hline]
  | cons c cs ih =>
    by_cases hc : c = '\n'
    · subst hc
      have hspread : u ++ (e.spread ('\n' :: cs) ++ rest) =
          (u ++ ['\\']) ++ (e.chars ++ ([] ++ (e.spread cs ++ rest))) := by
        simp [spread]
      have hline : continued? (String.ofList (u ++ ['\\'])) =
          some (String.ofList (u ++ ['\n'])) := by
        rw [String.ofList_append, String.ofList_append]
        exact continued?_append_backslash _
      have hu' : '\n' ∉ u ++ ['\\'] := by simp [hu]
      have hb' : ([] ++ cs).getLast? ≠ some '\\' := fun h => hb (getLast?_append_cons h)
      rw [hspread, readableLines_append hu' (spares_backslash u),
        OpenInput.inputs_cons_of_continued hline, ih List.not_mem_nil hb' he.of_append]
      simp [String.ofList_append, String.append_assoc]
    · have hspread : u ++ (e.spread (c :: cs) ++ rest) = (u ++ [c]) ++ (e.spread cs ++ rest) := by
        simp [spread, hc]
      have hu' : '\n' ∉ u ++ [c] := by simp [hu, Ne.symm hc]
      rw [hspread, ih hu' (by simpa using hb) (by simpa using he)]
      simp

lemma completedInputs_send {inputs : List String}
    (hb : ∀ input ∈ inputs, input.toList.getLast? ≠ some '\\')
    (he : ∀ input ∈ inputs, e.Spares input.toList) : completedInputs (e.send inputs) = inputs := by
  induction inputs with
  | nil =>
    have hnil : e.send [] = [] := utf8_ofList []
    rw [hnil]
    rfl
  | cons input inputs ih =>
    obtain ⟨hb₁, hb₂⟩ := List.forall_mem_cons.mp hb
    obtain ⟨he₁, he₂⟩ := List.forall_mem_cons.mp he
    have h := inputs_spread (p := .empty) (u := []) input.toList
      (inputs.flatMap fun input => e.spread input.toList) List.not_mem_nil hb₁ he₁
    have hinput : OpenInput.empty.held.getD "" ++ String.ofList ([] ++ input.toList) = input := by
      rw [List.nil_append, String.ofList_toList]
      exact String.empty_append
    rw [hinput] at h
    exact h.trans (congrArg (input :: ·) (ih hb₂ he₂))

end LineEnd

namespace OpenInput

/-- What is completed does not end in a backslash, as long as what is held at first does not. -/
lemma getLast?_ne_of_mem_inputs {p : OpenInput} (hp : (p.held.getD "").toList.getLast? ≠ some '\\')
    {lines : List String} {input : String} (h : input ∈ p.inputs lines) :
    input.toList.getLast? ≠ some '\\' := by
  induction lines generalizing p with
  | nil => cases h
  | cons line lines ih =>
    rcases hline : continued? line with _ | text
    · rw [inputs_cons_of_not_continued hline] at h
      rcases List.mem_cons.mp h with rfl | h
      · have hl := continued?_eq_none.mp hline
        rw [String.toList_append, List.getLast?_append]
        rcases hlast : line.toList.getLast? with _ | c
        · exact hp
        · rwa [hlast] at hl
      · exact ih (by simp [empty]) h
    · rw [inputs_cons_of_continued hline] at h
      refine ih ?_ h
      unfold continued? at hline
      split at hline
      · cases hline
        simp
      · cases hline

end OpenInput

namespace Handler

variable {σ ε : Type}

/-- Neither refuses an input nor fails to save one. -/
structure NeverFails (h : Handler σ ε) : Prop where
  handles : ∀ input s, ((h.handle input).perform s).1 = .ok ()
  saves : ∀ input s, ((h.save input).perform s).1 = .ok ()

lemma NeverFails.takes {h : Handler σ ε} (hn : h.NeverFails) {inputs : List String} {s t : σ}
    {r : Except (DialogueError ε) Unit} {calls : List Call} (ht : h.Takes inputs s r t calls) :
    r = .ok () ∧ Call.handled calls = inputs := by
  cases ht with
  | all accepted => exact ⟨rfl, Call.handled_accepting inputs⟩
  | @refused done rest input u _ e split accepted failed =>
    have hok := hn.handles input u
    rw [failed] at hok
    cases hok
  | @unsaved done rest input u v _ e split accepted handled failed =>
    have hok := hn.saves input v
    rw [failed] at hok
    cases hok

/-- **What can be sent**: exactly the inputs that do not end in a backslash. Lists of them arrive
as they were sent, with a carriage return in every line end, or with none if no input ends in
one. -/
theorem handled_send (h : Handler σ ε) (s : σ) :
    (h.NeverFails → ∀ (e : LineEnd) (inputs : List String),
      (∀ input ∈ inputs, input.toList.getLast? ≠ some '\\') →
      (∀ input ∈ inputs, e.Spares input.toList) →
        ∃ (t : σ) (calls : List Call),
          (h.logged.converse (e.send inputs)).perform (s, []) = (.ok "Bye!", t, calls) ∧
            Call.handled calls = inputs) ∧
      ∀ bytes : List UInt8,
        ∀ input ∈ Call.handled ((h.logged.converse bytes).perform (s, [])).2.2,
          input.toList.getLast? ≠ some '\\' := by
  constructor
  · intro hn e inputs hb he
    obtain ⟨r, t, calls, ht, -, hl⟩ := h.exists_takes (completedInputs (e.send inputs)) s []
    obtain ⟨rfl, hc⟩ := hn.takes ht
    refine ⟨t, calls, ?_, hc.trans (LineEnd.completedInputs_send hb he)⟩
    have hall : ¬ ∃ p ∈ pieces (e.send inputs), ofUtf8? p = none := by
      rintro ⟨p, hp, hnone⟩
      exact isText_of_mem_pieces (u := []) List.not_mem_nil hp hnone
    rw [perform_converse, hl, if_neg hall]
    rfl
  · intro bytes input hi
    obtain ⟨r, t, calls, ht, -, hl⟩ := h.exists_takes (completedInputs bytes) s []
    rw [perform_converse, hl] at hi
    exact OpenInput.getLast?_ne_of_mem_inputs (by simp [OpenInput.empty])
      (ht.handled_isPrefix.subset hi)

lemma recorder_neverFails : (recorder (fun _ => false) none).NeverFails where
  handles _ _ := rfl
  saves input _ := by
    by_cases h : input = ""
    · subst h
      rfl
    · simp only [recorder, ne_eq, h, not_false_eq_true, if_true]
      rfl

/-- Nothing, characters of line ends in front of line ends, and backslashes where none is added. -/
def awkwardInputs : List String := ["", "\n", "a\\\nb\r\n", "\\\\c"]

theorem handled_send_awkwardInputs :
    (∃ (t : List String) (calls : List Call),
      ((recorder (fun _ => false) none).logged.converse
        (LineEnd.crlf.send ("\r" :: awkwardInputs))).perform ([], []) = (.ok "Bye!", t, calls) ∧
          Call.handled calls = "\r" :: awkwardInputs) ∧
      ∃ (t : List String) (calls : List Call),
        ((recorder (fun _ => false) none).logged.converse
          (LineEnd.lf.send awkwardInputs)).perform ([], []) = (.ok "Bye!", t, calls) ∧
            Call.handled calls = awkwardInputs := by
  obtain ⟨h, -⟩ := handled_send (recorder (fun _ => false) none) []
  have h := h recorder_neverFails
  exact ⟨h .crlf _ (by simp [awkwardInputs]) (fun _ _ => trivial),
    h .lf _ (by simp [awkwardInputs]) (by simp [awkwardInputs, LineEnd.Spares])⟩

end Handler

end TypedLambda
