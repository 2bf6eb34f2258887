import Mathlib.Tactic.Common
import TypedLambda.Proofs.Input.Dialogue
import TypedLambda.Proofs.Output.BoundedLines
import TypedLambda.Tour

/-!
Tours for any writer of lines, and for one writer again and again. A tour starts with the first
exhibit even if the last one broke off in the middle, so that what is held stays a beginning of
all tours in a row is due to the writers: one that has failed stays as it is. Main statement: a
tour stops at the first failure, and tours in a row fill a writer up to where its room ends.
-/

namespace TypedLambda

variable {σ ε : Type}

/-- The texts of the exhibits, in the order they are shown in. -/
def exhibitTexts : List String := Exhibit.all.map Exhibit.text

/-- The texts of so many tours in a row. -/
def textsOfTours (n : Nat) : List String := (List.replicate n exhibitTexts).flatten

namespace LineWriter

/-! ### One tour -/

/-- Does what the writer does, and keeps a list of the lines it is given. -/
def logged (writer : LineWriter σ ε) : LineWriter (σ × List String) ε where
  write line := (writer.write line).noting line

/-- From the first state to the last, the lines are written one after the other without a
failure. -/
inductive Writes (writer : LineWriter σ ε) : List String → σ → σ → Prop
  | nil {s : σ} : Writes writer [] s s
  | cons {line : String} {lines : List String} {s t u : σ}
      (written : (writer.write line).perform s = (.ok (), t)) (rest : Writes writer lines t u) :
      Writes writer (line :: lines) s u

/-- How lines are written up to the first failure, with the state that is left and the lines that
are given. -/
inductive Gives (writer : LineWriter σ ε) (lines : List String) (s : σ) :
    Except ε Unit → σ → List String → Prop
  | all {t : σ} (written : writer.Writes lines s t) : Gives writer lines s (.ok ()) t lines
  | stopped {done rest : List String} {line : String} {t u : σ} {e : ε}
      (split : lines = done ++ line :: rest) (written : writer.Writes done s t)
      (failed : (writer.write line).perform t = (.error e, u)) :
      Gives writer lines s (.error e) u (done ++ [line])

lemma Gives.cons {writer : LineWriter σ ε} {line : String} {lines given : List String}
    {s t u : σ} {r : Except ε Unit} (written : (writer.write line).perform s = (.ok (), t))
    (rest : writer.Gives lines t r u given) :
    writer.Gives (line :: lines) s r u (line :: given) := by
  cases rest with
  | all written' => exact .all (.cons written written')
  | stopped split written' failed =>
    exact .stopped (congrArg (line :: ·) split) (.cons written written') failed

/-- One run of the writer, with and without the list of the lines it is given. -/
lemma exists_gives (writer : LineWriter σ ε) (lines : List String) (s : σ)
    (earlier : List String) :
    ∃ (r : Except ε Unit) (t : σ) (given : List String),
      writer.Gives lines s r t given ∧ (lines.forM writer.write).perform s = (r, t) ∧
        (lines.forM writer.logged.write).perform (s, earlier) = (r, t, earlier ++ given) := by
  induction lines generalizing s earlier with
  | nil => exact ⟨.ok (), s, [], .all .nil, rfl, by rw [List.append_nil]; rfl⟩
  | cons line lines ih =>
    rw [List.forM, List.forM, Action.perform_bind, Action.perform_bind, logged,
      Action.perform_noting]
    rcases written : (writer.write line).perform s with ⟨e | ⟨⟩, t⟩
    · have hg : writer.Gives (line :: lines) s (.error e) t ([] ++ [line]) :=
        .stopped rfl .nil written
      exact ⟨_, t, [line], hg, rfl, rfl⟩
    · obtain ⟨r, u, given, hg, hr, hl⟩ := ih t (earlier ++ [line])
      refine ⟨r, u, line :: given, hg.cons written, hr, hl.trans ?_⟩
      rw [List.append_assoc]
      rfl

/-! ### Writers that fail for good -/

/-- The writer can be followed, and after a failure it stays as it is and goes on failing. -/
structure Halts (writer : LineWriter σ ε) (state : List String → σ)
    (result : List String → Except ε Unit) : Prop extends writer.Follows state result where
  stays : ∀ lines line, result lines ≠ .ok () →
    result (lines ++ [line]) = result lines ∧ state (lines ++ [line]) = state lines

variable {writer : LineWriter σ ε} {state : List String → σ} {result : List String → Except ε Unit}

lemma Halts.stays_append (h : writer.Halts state result) {lines : List String}
    (hr : result lines ≠ .ok ()) (more : List String) :
    result (lines ++ more) = result lines ∧ state (lines ++ more) = state lines := by
  induction more generalizing lines with
  | nil => simp
  | cons line more ih =>
    obtain ⟨hr', hs'⟩ := h.stays lines line hr
    have hfailed : result (lines ++ [line]) ≠ .ok () := by rwa [hr']
    have hmore := ih hfailed
    rw [List.append_assoc, List.singleton_append] at hmore
    exact ⟨hmore.1.trans hr', hmore.2.trans hs'⟩

/-- Lines that are given up to the first failure leave the same state as if all were given. -/
lemma Halts.perform_forM (h : writer.Halts state result) (earlier lines : List String) :
    (lines.forM writer.write).perform (state earlier) =
      (if lines = [] then .ok () else result (earlier ++ lines), state (earlier ++ lines)) := by
  induction lines generalizing earlier with
  | nil => rw [List.append_nil]; rfl
  | cons line lines ih =>
    have hsplit : earlier ++ line :: lines = earlier ++ [line] ++ lines := by simp
    rw [List.forM, Action.perform_bind, h.write, if_neg (List.cons_ne_nil line lines), hsplit]
    rcases hr : result (earlier ++ [line]) with e | ⟨⟩
    · have hfailed : result (earlier ++ [line]) ≠ .ok () := by simp [hr]
      obtain ⟨hr', hs'⟩ := h.stays_append hfailed lines
      rw [hr', hs', hr]
    · refine (ih (earlier ++ [line])).trans ?_
      by_cases hnil : lines = []
      · subst hnil
        rw [if_pos rfl, List.append_nil, hr]
      · rw [if_neg hnil]

end LineWriter

/-- A tour comes to what writing all its texts comes to, with their number if that succeeds. -/
lemma perform_tour (writer : LineWriter σ ε) (s : σ) :
    (tour writer).perform s =
      (((exhibitTexts.forM writer.write).perform s).1.map fun _ => 17,
        ((exhibitTexts.forM writer.write).perform s).2) := by
  have htexts : exhibitTexts.forM writer.write = Exhibit.all.forM fun x => writer.write x.text := by
    rw [exhibitTexts, List.forM_eq_forM, List.forM_map]
    rfl
  rw [tour, Action.perform_bind, htexts]
  rcases (Exhibit.all.forM fun x => writer.write x.text).perform s with ⟨_ | _, t⟩ <;> rfl

lemma length_exhibitTexts : exhibitTexts.length = 17 := rfl

lemma textsOfTours_succ (n : Nat) : textsOfTours (n + 1) = textsOfTours n ++ exhibitTexts := by
  simp [textsOfTours, List.replicate_succ']

lemma length_textsOfTours (n : Nat) : (textsOfTours n).length = 17 * n := by
  induction n with
  | zero => rfl
  | succ n ih => rw [textsOfTours_succ, List.length_append, ih, length_exhibitTexts, Nat.mul_succ]

lemma lineBytes_textsOfTours (n : Nat) :
    lineBytes (textsOfTours n) = (List.replicate n (lineBytes exhibitTexts)).flatten := by
  induction n with
  | zero => rfl
  | succ n ih =>
    rw [textsOfTours_succ, lineBytes_append, ih, List.replicate_succ', List.flatten_append,
      List.flatten_singleton]

namespace LineWriter

variable {writer : LineWriter σ ε} {state : List String → σ} {result : List String → Except ε Unit}

/-- Each tour leaves the writer as if it and all tours before it had been given whole. -/
lemma Halts.tours_eq (h : writer.Halts state result) (n : Nat) :
    tours writer n (state []) = (List.range' 1 n).map fun k =>
      ((result (textsOfTours k)).map fun _ => 17, state (textsOfTours k)) := by
  have hne : exhibitTexts ≠ [] := by decide
  have hsteps : ∀ k (hk : k < (List.replicate n (tour writer)).length),
      (List.replicate n (tour writer))[k].perform (state (textsOfTours k)) =
        ((result (textsOfTours (k + 1))).map fun _ => 17, state (textsOfTours (k + 1))) := by
    intro k hk
    rw [List.getElem_replicate, perform_tour, h.perform_forM, if_neg hne, textsOfTours_succ]
  have htrace := Action.trace_eq (fun k => (result (textsOfTours k)).map fun _ => 17)
    (fun k => state (textsOfTours k)) hsteps
  rwa [List.length_replicate] at htrace

lemma Halts.stateAfter_tours (h : writer.Halts state result) (n : Nat) :
    Action.stateAfter (state []) (tours writer n (state [])) = state (textsOfTours n) := by
  rw [h.tours_eq]
  exact Action.stateAfter_map_range' _ (fun k => state (textsOfTours k)) n

lemma halts_memory (held : List String) :
    memory.Halts (fun lines => held ++ lines) fun _ => .ok () where
  write lines line := by rw [← List.append_assoc]; rfl
  stays _ _ h := absurd rfl h

lemma halts_limited (limit : Nat) :
    (limited limit).Halts (List.take limit)
      fun lines => if lines.length ≤ limit then .ok () else .error ⟨limit⟩ where
  write lines line := by
    have hlen : (lines ++ [line]).length = lines.length + 1 := List.length_append
    simp only [limited, Action.perform_bind, Action.perform_get, hlen]
    by_cases hroom : lines.length < limit
    · have htake : lines.take limit = lines := List.take_of_length_le (Nat.le_of_lt hroom)
      have htake' : (lines ++ [line]).take limit = lines ++ [line] :=
        List.take_of_length_le (by rwa [hlen])
      rw [htake, htake', if_pos hroom, if_pos (Nat.succ_le_of_lt hroom), Action.perform_set]
    · have hheld : (lines.take limit).length = limit := List.length_take_of_le (by omega)
      have htake : (lines ++ [line]).take limit = lines.take limit :=
        List.take_append_of_le_length (by omega)
      rw [hheld, htake, if_neg (Nat.lt_irrefl limit), if_neg (by omega)]
      rfl
  stays lines line h := by
    have hfull : ¬ lines.length ≤ limit := fun hle => h (if_pos hle)
    have hfull' : ¬ (lines ++ [line]).length ≤ limit := by
      rw [List.length_append, List.length_singleton]
      omega
    exact ⟨by rw [if_neg hfull, if_neg hfull'], List.take_append_of_le_length (by omega)⟩

end LineWriter

lemma Bounds.halts {b : Bounds} (h : b.failFlush = none) :
    b.stream.lines.Halts b.written b.resultOf where
  write := b.follows.write
  stays lines line hr := by
    have hrefuses : ∀ n, b.refuses n = false := by simp [refuses, h]
    have hfull : ¬ b.fits (totalBytes lines lines.length) = true := by
      intro hfit
      refine hr ?_
      rw [resultOf, if_pos hfit, hrefuses]
      rfl
    have hfull' : ¬ b.fits (totalBytes (lines ++ [line]) (lines.length + 1)) = true := by
      intro hfit
      refine hfull (fits_of_le ?_ hfit)
      rw [← totalBytes_append (Nat.le_refl _) [line]]
      exact totalBytes_mono _ (Nat.le_succ _)
    have hkept : b.kept (lineBytes (lines ++ [line])) = b.kept (lineBytes lines) := by
      rw [lineBytes_append, kept_append_of_not_fits (by rwa [length_lineBytes])]
    have hflushed := flushedAt_concat_of_not_fits (eq_false_of_ne_true hfull')
    constructor
    · rw [resultOf, resultOf, List.length_append, List.length_singleton, if_neg hfull,
        if_neg hfull']
    · exact congrArg₂ Written.mk hkept hflushed

/-! ### Tours in a row -/

lemma tours_memory (n : Nat) (held : List String) :
    (tours .memory n held).map Prod.fst = List.replicate n (.ok 17) ∧
      Action.stateAfter held (tours .memory n held) =
        held ++ (List.replicate n exhibitTexts).flatten := by
  have h := LineWriter.halts_memory held
  have htours := h.tours_eq n
  have hlast := h.stateAfter_tours n
  rw [List.append_nil] at htours hlast
  refine ⟨?_, hlast⟩
  rw [htours, List.map_map]
  exact (List.map_const' ..).trans (by rw [List.length_range'])

/-- Results that are of one kind up to a number and of another kind from then on. -/
lemma map_range'_le {α : Type} (x y : α) (n limit : Nat) :
    ((List.range' 1 n).map fun k => if 17 * k ≤ limit then x else y) =
      List.replicate (min n (limit / 17)) x ++ List.replicate (n - min n (limit / 17)) y := by
  refine List.ext_getElem ?_ fun k hk _ => ?_
  · simp only [List.length_map, List.length_range', List.length_append, List.length_replicate]
    omega
  · rw [List.length_map, List.length_range'] at hk
    rw [List.getElem_map, List.getElem_range', List.getElem_append]
    simp only [List.length_replicate, List.getElem_replicate]
    by_cases hx : 17 * (1 + 1 * k) ≤ limit
    · rw [if_pos hx, dif_pos (by omega)]
    · rw [if_neg hx, dif_neg (by omega)]

lemma tours_limited (n limit : Nat) :
    (tours (.limited limit) n []).map Prod.fst =
        List.replicate (min n (limit / 17)) (.ok 17) ++
          List.replicate (n - min n (limit / 17)) (.error ⟨limit⟩) ∧
      Action.stateAfter [] (tours (.limited limit) n []) =
        ((List.replicate n exhibitTexts).flatten).take (min limit (17 * n)) := by
  have h := LineWriter.halts_limited limit
  have htours := h.tours_eq n
  have hlast := h.stateAfter_tours n
  rw [List.take_nil] at htours hlast
  constructor
  · rw [htours, List.map_map, ← map_range'_le]
    refine List.map_congr_left fun k _ => ?_
    simp only [Function.comp, length_textsOfTours]
    split <;> rfl
  · have hlen : (textsOfTours n).length = 17 * n := length_textsOfTours n
    rw [hlast, ← hlen, ← textsOfTours, ← List.take_eq_take_min]

lemma bytes_tours_stream (n capacity : Nat) (whenFull : WhenFull) :
    (Action.stateAfter .none
      (tours (Bounds.stream ⟨some capacity, whenFull, none⟩).lines n .none)).bytes =
        ((List.replicate n (lineBytes exhibitTexts)).flatten).take
          (min capacity (n * (lineBytes exhibitTexts).length)) := by
  have h := Bounds.halts (b := ⟨some capacity, whenFull, none⟩) rfl
  have hlen : (lineBytes (textsOfTours n)).length = n * (lineBytes exhibitTexts).length := by
    rw [lineBytes_textsOfTours, List.length_flatten, List.map_replicate, List.sum_replicate_nat]
  have hlast := h.stateAfter_tours n
  rw [Bounds.written_nil] at hlast
  rw [hlast, ← lineBytes_textsOfTours, ← hlen]
  rfl

/-- **A tour breaks off where a line fails, and tours in a row fill a writer.** -/
theorem tours_fill (writer : LineWriter σ ε) (s : σ) :
    (∃ (r : Except ε Unit) (t : σ) (given : List String),
      writer.Gives exhibitTexts s r t given ∧
        (tour writer.logged).perform (s, []) = (r.map fun _ => 17, t, given) ∧
        (tour writer).perform s = (r.map fun _ => 17, t)) ∧
      (Exhibit.all.map fun x => x.expr.render) = exhibitTexts.map .ok ∧
      ∀ n : Nat,
        (∀ held : List String,
          (tours .memory n held).map Prod.fst = List.replicate n (.ok 17) ∧
            Action.stateAfter held (tours .memory n held) =
              held ++ (List.replicate n exhibitTexts).flatten) ∧
        (∀ limit : Nat,
          (tours (.limited limit) n []).map Prod.fst =
              List.replicate (min n (limit / 17)) (.ok 17) ++
                List.replicate (n - min n (limit / 17)) (.error ⟨limit⟩) ∧
            Action.stateAfter [] (tours (.limited limit) n []) =
              ((List.replicate n exhibitTexts).flatten).take (min limit (17 * n))) ∧
        ∀ (capacity : Nat) (whenFull : WhenFull),
          (Action.stateAfter .none
            (tours (Bounds.stream ⟨some capacity, whenFull, none⟩).lines n .none)).bytes =
              ((List.replicate n (lineBytes exhibitTexts)).flatten).take
                (min capacity (n * (lineBytes exhibitTexts).length)) := by
  refine ⟨?_, ?_, fun n => ⟨tours_memory n, tours_limited n, bytes_tours_stream n⟩⟩
  · obtain ⟨r, t, given, hg, hr, hl⟩ := writer.exists_gives exhibitTexts s []
    refine ⟨r, t, given, hg, ?_, ?_⟩
    · rw [perform_tour, hl]
      rfl
    · rw [perform_tour, hr]
  · rw [exhibitTexts, List.map_map]
    exact List.map_congr_left fun x _ => x.render_eq

end TypedLambda
