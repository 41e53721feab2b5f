import PagedSearch.Proofs.Unicode.Mark

/-!
# Composition around a letter

A starter that is never joined to what stands before it cuts a text: the parts are put in order and
composed each for itself. Behind a letter only marks are joined to it, and what marks weigh nothing
for does not see which marks stand in a text and how they are composed.
-/

namespace PagedSearch.Unicode

/-- What a character is joined to the starter before it to, where no mark between them keeps it
from the starter. -/
def attached? (starter : Char) (marks : List Char) (c : Char) : Option Char :=
  let reaches := match marks with
    | [] => true
    | mark :: _ => combiningClass mark < combiningClass c
  if reaches then composite? starter c else none

theorem composeFrom_cons (starter : Char) (marks : List Char) (c : Char) (rest : List Char) :
    composeFrom starter marks (c :: rest) =
      (attached? starter marks c).elim
        (if combiningClass c = 0 then starter :: (marks.reverse ++ composeFrom c [] rest)
          else composeFrom starter (c :: marks) rest)
        (composeFrom · marks rest) := by
  rw [composeFrom.eq_def]
  dsimp only
  split
  case h_1 joined hjoined =>
    have hattached : attached? starter marks c = some joined := hjoined
    rw [hattached, Option.elim_some]
  case h_2 hnone =>
    have hattached : attached? starter marks c = none := hnone
    rw [hattached, Option.elim_none]

/-- A character is joined to the starter before it, begins a stretch of its own or stays with the
marks, whatever stands behind it. -/
theorem composeFrom_step (starter : Char) (marks : List Char) (c : Char) :
    (∃ joined, composite? starter c = some joined ∧
      ∀ rest, composeFrom starter marks (c :: rest) = composeFrom joined marks rest) ∨
    (combiningClass c = 0 ∧ ∀ rest, composeFrom starter marks (c :: rest) =
      starter :: (marks.reverse ++ composeFrom c [] rest)) ∨
    (combiningClass c ≠ 0 ∧
      ∀ rest, composeFrom starter marks (c :: rest) = composeFrom starter (c :: marks) rest) := by
  cases hattached : attached? starter marks c with
  | some joined =>
    refine .inl ⟨joined, (Option.ite_none_right_eq_some.mp hattached).2, fun rest => ?_⟩
    rw [composeFrom_cons, hattached, Option.elim_some]
  | none =>
    have hapart (rest : List Char) : composeFrom starter marks (c :: rest) =
        if combiningClass c = 0 then starter :: (marks.reverse ++ composeFrom c [] rest)
        else composeFrom starter (c :: marks) rest := by
      rw [composeFrom_cons, hattached, Option.elim_none]
    by_cases hclass : combiningClass c = 0
    · exact .inr (.inl ⟨hclass, fun rest => by rw [hapart, if_pos hclass]⟩)
    · exact .inr (.inr ⟨hclass, fun rest => by rw [hapart, if_neg hclass]⟩)

section Starter

variable {starter c : Char} (h : combiningClass starter = 0)

include h

theorem insertMark_starter (text : List Char) : insertMark starter text = starter :: text := by
  cases text with
  | nil => rfl
  | cons mark rest =>
    rw [insertMark, if_neg]
    simp [h]

private theorem insertMark_append_starter (front rest : List Char) :
    insertMark c (front ++ starter :: rest) = insertMark c front ++ starter :: rest := by
  induction front with
  | nil => simp [insertMark, h]
  | cons mark front ih =>
    rw [List.cons_append, insertMark, insertMark, ih]
    split <;> rfl

theorem orderMarks_append_starter (front rest : List Char) :
    orderMarks (front ++ starter :: rest) = orderMarks front ++ starter :: orderMarks rest := by
  induction front with
  | nil => exact insertMark_starter h _
  | cons mark front ih =>
    rw [List.cons_append, orderMarks, ih, insertMark_append_starter h, orderMarks]

variable (hapart : ∀ first, composite? first starter = none)

include hapart

private theorem composeFrom_append_starter (first : Char) (marks front rest : List Char) :
    composeFrom first marks (front ++ starter :: rest) =
      composeFrom first marks front ++ composeFrom starter [] rest := by
  induction front generalizing first marks with
  | nil =>
    rcases composeFrom_step first marks starter with
      ⟨joined, hjoined, -⟩ | ⟨-, hstep⟩ | ⟨hclass, -⟩
    · rw [hapart] at hjoined
      cases hjoined
    · exact hstep rest
    · exact absurd h hclass
  | cons c front ih =>
    rcases composeFrom_step first marks c with ⟨joined, -, hstep⟩ | ⟨-, hstep⟩ | ⟨-, hstep⟩
    · rw [List.cons_append, hstep, hstep, ih]
    · rw [List.cons_append, hstep, hstep, ih, List.cons_append, List.append_assoc]
    · rw [List.cons_append, hstep, hstep, ih]

theorem compose_append_starter (front rest : List Char) :
    compose (front ++ starter :: rest) = compose front ++ composeFrom starter [] rest := by
  induction front with
  | nil => simp [compose, h]
  | cons c front ih =>
    rw [List.cons_append, compose, compose, ih]
    split
    · exact composeFrom_append_starter h hapart c [] front rest
    · rfl

end Starter

section Weights

variable {α : Type} {weights : Char → List α} (hweights : ∀ c, isMark c = true → weights c = [])

include hweights

theorem flatMap_marks {marks : List Char} (hmarks : ∀ c ∈ marks, isMark c = true) :
    marks.flatMap weights = [] :=
  List.flatMap_eq_nil_iff.mpr fun c hc => hweights c (hmarks c hc)

private theorem flatMap_composeFrom_mark {mark : Char} {marks : List Char}
    (hmark : isMark mark = true) (hmarks : ∀ c ∈ marks, isMark c = true) (text : List Char) :
    (composeFrom mark marks text).flatMap weights = (compose text).flatMap weights := by
  induction text generalizing mark marks with
  | nil =>
    rw [composeFrom, compose, List.flatMap_cons, hweights mark hmark, List.nil_append,
      flatMap_marks hweights (by simpa using hmarks), List.flatMap_nil]
  | cons c rest ih =>
    -- However it is composed, a mark at the head of the text weighs nothing.
    have hhead (hc : isMark c = true) :
        (compose (c :: rest)).flatMap weights = (compose rest).flatMap weights := by
      rw [compose]
      split
      · exact ih hc (by simp)
      · rw [List.flatMap_cons, hweights c hc, List.nil_append]
    rcases composeFrom_step mark marks c with
      ⟨joined, hjoined, hstep⟩ | ⟨hclass, hstep⟩ | ⟨hclass, hstep⟩
    · obtain ⟨hjoined, hc⟩ := isMark_of_composite? hmark hjoined
      rw [hstep, hhead hc]
      exact ih hjoined hmarks
    · rw [hstep, List.flatMap_cons, List.flatMap_append, hweights mark hmark,
        flatMap_marks hweights (by simpa using hmarks), compose, if_pos hclass]
      rfl
    · have hc := isMark_of_combiningClass hclass
      rw [hstep, hhead hc]
      exact ih hmark (List.forall_mem_cons.mpr ⟨hc, hmarks⟩)

private theorem flatMap_compose_cons {mark : Char} (hmark : isMark mark = true) (text : List Char) :
    (compose (mark :: text)).flatMap weights = (compose text).flatMap weights := by
  rw [compose]
  split
  · exact flatMap_composeFrom_mark hweights hmark (by simp) text
  · rw [List.flatMap_cons, hweights mark hmark, List.nil_append]

/-- A mark weighs nothing wherever it is put. -/
theorem flatMap_compose_insertMark {mark : Char} (hmark : isMark mark = true) (text : List Char) :
    (compose (insertMark mark text)).flatMap weights = (compose text).flatMap weights := by
  induction text with
  | nil => exact flatMap_compose_cons hweights hmark []
  | cons c rest ih =>
    rw [insertMark]
    split
    · rename_i hclass
      have hc : combiningClass c ≠ 0 := by
        simp only [Bool.and_eq_true] at hclass
        exact of_decide_eq_true hclass.1
      rw [compose, compose, if_neg hc, if_neg hc, List.flatMap_cons, List.flatMap_cons, ih]
    · exact flatMap_compose_cons hweights hmark (c :: rest)

theorem flatMap_compose_orderMarks {marks : List Char} (hmarks : ∀ c ∈ marks, isMark c = true)
    (text : List Char) :
    (compose (orderMarks (marks ++ text))).flatMap weights =
      (compose (orderMarks text)).flatMap weights := by
  induction marks with
  | nil => rfl
  | cons mark marks ih =>
    obtain ⟨hmark, hrest⟩ := List.forall_mem_cons.mp hmarks
    rw [List.cons_append, orderMarks, flatMap_compose_insertMark hweights hmark, ih hrest]

theorem exists_composeFrom_letter {letters : Char → Prop}
    (hletters : ∀ c mark joined, letters c → composite? c mark = some joined →
      letters joined ∧ isMark mark = true)
    {letter : Char} {marks : List Char} (hletter : letters letter)
    (hmarks : ∀ c ∈ marks, isMark c = true) (text : List Char) :
    ∃ joined rest, composeFrom letter marks text = joined :: rest ∧ letters joined ∧
      rest.flatMap weights = (compose text).flatMap weights := by
  induction text generalizing letter marks with
  | nil =>
    refine ⟨letter, marks.reverse, by rw [composeFrom], hletter, ?_⟩
    exact flatMap_marks hweights (by simpa using hmarks)
  | cons c rest ih =>
    rcases composeFrom_step letter marks c with
      ⟨joined, hjoined, hstep⟩ | ⟨hclass, hstep⟩ | ⟨hclass, hstep⟩
    · obtain ⟨hjoined, hc⟩ := hletters letter c joined hletter hjoined
      rw [hstep, flatMap_compose_cons hweights hc]
      exact ih hjoined hmarks
    · refine ⟨letter, _, hstep rest, hletter, ?_⟩
      rw [List.flatMap_append, flatMap_marks hweights (by simpa using hmarks), compose,
        if_pos hclass]
      rfl
    · have hc := isMark_of_combiningClass hclass
      rw [hstep, flatMap_compose_cons hweights hc]
      exact ih hletter (List.forall_mem_cons.mpr ⟨hc, hmarks⟩)

end Weights

end PagedSearch.Unicode
