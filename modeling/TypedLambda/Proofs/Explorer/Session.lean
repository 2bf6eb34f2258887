import TypedLambda.Explorer.Session
import TypedLambda.Proofs.Input.Cutting

/-!
A whole session with the explorer. What is said to one input depends on that input alone, so a
session says the same as many sessions with one input each, and nothing that is asked ends it.
Main statement: what a session says, how it ends, and that it may be held in two parts.
-/

namespace TypedLambda

lemma Speech.append_silence (x : Speech) : x ++ silence = x := by
  change Speech.mk _ _ = x
  simp [silence]

namespace Explorer

/-- What is said to the inputs, one after the other. -/
def responses (inputs : List String) : Speech where
  out := String.join (inputs.map fun input => (respond input).out)
  err := String.join (inputs.map fun input => (respond input).err)

/-- A session that comes to its end, and what is said in it between greeting and farewell. -/
def finished (said : Speech) : Outcome where
  out := greeting ++ said.out ++ "Bye!\n"
  err := said.err
  code := 0

/-- A session that breaks off where the stream is no text, and what is said in it up to there. -/
def brokenOff (said : Speech) : Outcome where
  out := greeting ++ said.out
  err := said.err ++ "Error: stream did not contain valid UTF-8\n"
  code := 1

lemma responses_append (inputs more : List String) :
    responses (inputs ++ more) = responses inputs ++ responses more := by
  change _ = Speech.mk _ _
  simp [responses, String.join_append]

lemma responses_singleton (input : String) : responses [input] = respond input := by
  simp [responses]

/-- Each input is met with what is said to it, and none is refused. -/
lemma perform_forM_accept (inputs : List String) (said : Speech) :
    (inputs.forM handler.accept).perform said = (.ok (), said ++ responses inputs) := by
  induction inputs generalizing said with
  | nil => exact congrArg (Prod.mk (Except.ok ())) said.append_silence.symm
  | cons input inputs ih =>
    have haccept : (handler.accept input).perform said = (.ok (), said ++ respond input) := rfl
    rw [List.forM, Action.perform_bind, haccept, ← List.singleton_append, responses_append,
      responses_singleton, ← Speech.append_assoc]
    exact ih (said ++ respond input)

/-- What has been said since the greeting. -/
lemma greeting_append (said : Speech) :
    (⟨greeting, ""⟩ : Speech) ++ said = ⟨greeting ++ said.out, said.err⟩ := by
  change Speech.mk _ ("" ++ said.err) = _
  rw [String.empty_append]

lemma session_of_text {bytes : List UInt8} (h : ofUtf8? bytes ≠ none) :
    session bytes = finished (responses (completedInputs bytes)) := by
  have hpieces : ¬ ∃ p ∈ pieces bytes, ofUtf8? p = none := by
    rintro ⟨p, hp, hn⟩
    exact isText_iff_pieces.mp h p hp hn
  rw [session, Handler.perform_converse, perform_forM_accept, if_neg hpieces, greeting_append]
  change Outcome.mk (Speech.mk _ ((responses _).err ++ "")) 0 = _
  rw [String.append_empty]
  rfl

lemma session_of_noText {bytes : List UInt8} (h : ∃ p ∈ pieces bytes, ofUtf8? p = none) :
    session bytes = brokenOff (responses (completedInputs bytes)) := by
  rw [session, Handler.perform_converse, perform_forM_accept, if_pos h, greeting_append]
  change Outcome.mk (Speech.mk (greeting ++ (responses _).out ++ "") _) 1 = _
  rw [String.append_empty]
  rfl

lemma respond_of_blank {input : String} (h : ∀ c ∈ input.toList, Text.isBlank c = true) :
    respond input = .silence := by
  rw [respond, Command.ofInput?, if_pos (List.all_eq_true.mpr h)]

lemma completedInputs_of_all_continued {bytes : List UInt8}
    (h : ∀ line ∈ readableLines bytes, continued? line ≠ none) : completedInputs bytes = [] :=
  OpenInput.inputs_of_all_continued h

/-- An input that comes in some stream can be sent on its own. -/
lemma completedInputs_send_of_mem {bytes : List UInt8} {input : String}
    (h : input ∈ completedInputs bytes) :
    completedInputs (LineEnd.crlf.send [input]) = [input] := by
  have hb : input.toList.getLast? ≠ some '\\' :=
    OpenInput.getLast?_ne_of_mem_inputs (by simp [OpenInput.empty]) h
  exact LineEnd.completedInputs_send (by simpa using hb) (fun _ _ => trivial)

lemma isText_utf8 (s : String) : ofUtf8? (utf8 s) ≠ none := by
  rw [ofUtf8?_utf8]
  exact Option.some_ne_none s

/-- **What a session says**: to each completed input in order what a session with that input alone
says to it, whatever the inputs are, and nothing else. -/
theorem session_eq (bytes : List UInt8) :
    (ofUtf8? bytes ≠ none →
      session bytes = finished (responses (completedInputs bytes))) ∧
    ((∃ p ∈ pieces bytes, ofUtf8? p = none) →
      session bytes = brokenOff (responses (completedInputs bytes))) ∧
    (∀ input ∈ completedInputs bytes,
      session (LineEnd.crlf.send [input]) = finished (respond input)) ∧
    (∀ input : String, (∀ c ∈ input.toList, Text.isBlank c = true) →
      respond input = .silence) ∧
    ∀ rest : List UInt8, CutAtInput bytes rest → ofUtf8? (bytes ++ rest) ≠ none →
      ((∀ line ∈ readableLines rest, continued? line ≠ none) →
        session (bytes ++ rest) = session bytes) ∧
      ∃ said more : Speech, session bytes = finished said ∧ session rest = finished more ∧
        session (bytes ++ rest) = finished (said ++ more) := by
  refine ⟨session_of_text, session_of_noText, fun input hi => ?_,
    fun _ => respond_of_blank, fun rest hcut htext => ?_⟩
  · have htext : ofUtf8? (LineEnd.crlf.send [input]) ≠ none := isText_utf8 _
    rw [session_of_text htext, completedInputs_send_of_mem hi, responses_singleton]
  · have hparts := isText_iff_pieces.mp htext
    rw [pieces_append_of_cut hcut.line] at hparts
    have hbytes : ofUtf8? bytes ≠ none :=
      isText_iff_pieces.mpr fun p hp => hparts p (List.mem_append_left _ hp)
    have hrest : ofUtf8? rest ≠ none :=
      isText_iff_pieces.mpr fun p hp => hparts p (List.mem_append_right _ hp)
    have hwhole : session (bytes ++ rest) =
        finished (responses (completedInputs bytes) ++ responses (completedInputs rest)) := by
      rw [session_of_text htext, completedInputs_append hcut hbytes, responses_append]
    refine ⟨fun hopen => ?_, _, _, session_of_text hbytes, session_of_text hrest, hwhole⟩
    rw [session_of_text htext, completedInputs_append hcut hbytes,
      completedInputs_of_all_continued hopen, List.append_nil, session_of_text hbytes]

/-- A command that nobody knows and its argument on a line of its own, a blank line, and a name
that nothing has. -/
def puzzlingInputs : List UInt8 := utf8 ":no\\\npe\n \nthree\r\n"

theorem session_eq_puzzlingInputs :
    session puzzlingInputs =
        { out := greeting ++ (helpText ++ "\n") ++ "Bye!\n"
          err := "Unknown command no\nUnknown term `three`, try :list\n"
          code := 0 } ∧
      session (puzzlingInputs ++ [0xff]) =
        { out := greeting ++ (helpText ++ "\n")
          err := "Unknown command no\nUnknown term `three`, try :list\n" ++
            "Error: stream did not contain valid UTF-8\n"
          code := 1 } ∧
      session (LineEnd.crlf.send ["three"]) = finished (respond "three") ∧
      respond " " = .silence ∧
      session (puzzlingInputs ++ utf8 "zero\\") = session puzzlingInputs := by
  obtain ⟨htext, -, halone, hblank, hcut⟩ := session_eq puzzlingInputs
  obtain ⟨-, hbroken, -⟩ := session_eq (puzzlingInputs ++ [0xff])
  have hinputs : completedInputs puzzlingInputs = [":no\npe", " ", "three"] := by rfl
  have hresponses : responses [":no\npe", " ", "three"] =
      ⟨helpText ++ "\n", "Unknown command no\nUnknown term `three`, try :list\n"⟩ := by
    decide +kernel
  have hblanks : ∀ c ∈ " ".toList, Text.isBlank c = true := by
    intro c hc
    obtain rfl : c = ' ' := by simpa using hc
    decide
  refine ⟨?_, ?_, halone "three" ?_, hblank " " hblanks, (hcut (utf8 "zero\\") ⟨?_, ?_⟩ ?_).1 ?_⟩
  · rw [htext (isText_utf8 _), hinputs, hresponses]
    rfl
  · have hinputs' : completedInputs (puzzlingInputs ++ [0xff]) = [":no\npe", " ", "three"] := by
      rfl
    rw [hbroken ⟨[0xff], by decide, by decide⟩, hinputs', hresponses]
    rfl
  · rw [hinputs]
    decide
  · exact .inl (by decide)
  · exact .inr ⟨"three", by rfl, by rfl⟩
  · rw [puzzlingInputs, ← utf8_append]
    exact isText_utf8 _
  · have hrest : readableLines (utf8 "zero\\") = ["zero\\"] := by rfl
    rw [hrest]
    decide

end Explorer

end TypedLambda
