import PagedSearch.Proofs.Excerpt.Tiling
import PagedSearch.Proofs.Text.Split

/-!
# Words as maximal runs

The words of a text are its maximal runs of word characters. Scanning cuts a text into gaps and
words that take turns; from this cut follow the order of the words, that none of them can be made
longer, that no run is missed, and that nothing between two of them belongs to a word.
-/

namespace PagedSearch

open Unicode (isWordChar)

namespace WordSpan

/-- A span is a maximal run of word characters: it holds some and nothing else, and none stands next
to it in the text. -/
def IsRun (text : List Char) (w : WordSpan) : Prop :=
  w.chars ≠ [] ∧ (∀ c ∈ w.chars, isWordChar c = true) ∧
    ∃ before after, before ++ (w.chars ++ after) = text ∧ byteSize before = w.start ∧
      Stops isWordChar before.reverse ∧ Stops isWordChar after

def range (w : WordSpan) : Nat × Nat := (w.start, w.stop)

variable {text : List Char} {w : WordSpan}

theorem IsRun.slice?_eq (h : w.IsRun text) : slice? text w.start w.stop = some w.chars := by
  obtain ⟨-, -, before, after, htext, hstart, -⟩ := h
  exact slice?_eq_some_iff.mpr ⟨before, after, htext, hstart, rfl⟩

theorem IsRun.start_lt_stop (h : w.IsRun text) : w.start < w.stop := by
  have hsize : byteSize w.chars ≠ 0 := mt eq_nil_of_byteSize h.1
  rw [stop]
  omega

end WordSpan

/-- The parts of a text before, between and behind some ranges, from an offset on. -/
def gaps? (text : List Char) (offset : Nat) : List (Nat × Nat) → List (Option (List Char))
  | [] => [slice? text offset (byteSize text)]
  | (start, stop) :: rest => slice? text offset start :: gaps? text stop rest

inductive Scanned : List Char → List Char → List WordSpan → Prop where
  | done {earlier gap} (between : ∀ c ∈ gap, isWordChar c = false) : Scanned earlier gap []
  | word {earlier gap word rest spans}
      (between : ∀ c ∈ gap, isWordChar c = false)
      (filled : word ≠ [])
      (inside : ∀ c ∈ word, isWordChar c = true)
      (stops : Stops isWordChar rest)
      (behind : Scanned (earlier ++ (gap ++ word)) rest spans) :
      Scanned earlier (gap ++ (word ++ rest)) (⟨byteSize (earlier ++ gap), word⟩ :: spans)

namespace Scanned

variable {earlier text rest : List Char} {spans : List WordSpan}

private theorem cons_word {word : List Char} (filled : word ≠ [])
    (inside : ∀ c ∈ word, isWordChar c = true) (stops : Stops isWordChar rest)
    (behind : Scanned (earlier ++ word) rest spans) :
    Scanned earlier (word ++ rest) (⟨byteSize earlier, word⟩ :: spans) := by
  have hscanned : Scanned earlier ([] ++ (word ++ rest))
      (⟨byteSize (earlier ++ []), word⟩ :: spans) :=
    .word (List.forall_mem_nil _) filled inside stops behind
  rwa [List.append_nil, List.nil_append] at hscanned

private theorem cons_gap {c : Char} (hc : isWordChar c = false)
    (h : Scanned (earlier ++ [c]) rest spans) : Scanned earlier (c :: rest) spans := by
  generalize hfront : earlier ++ [c] = front at h
  cases h with
  | done between => exact .done (List.forall_mem_cons.mpr ⟨hc, between⟩)
  | @word _ gap word rest spans between filled inside stops behind =>
    subst hfront
    have hbehind : Scanned (earlier ++ (c :: gap ++ word)) rest spans := by simpa using behind
    simpa using
      Scanned.word (List.forall_mem_cons.mpr ⟨hc, between⟩) filled inside stops hbehind

theorem of_wordSpans (earlier rest : List Char) :
    Scanned earlier rest (wordSpans (byteSize earlier) rest) := by
  generalize hoffset : byteSize earlier = offset
  induction offset, rest using wordSpans.induct generalizing earlier with
  | case1 offset =>
    rw [wordSpans]
    exact .done (List.forall_mem_nil _)
  | case2 offset c rest hc word =>
    rename_i ih
    have hsplit : c :: rest = word ++ rest.dropWhile isWordChar := by
      simp [word, List.takeWhile_append_dropWhile]
    have hinside : ∀ d ∈ word, isWordChar d = true :=
      List.forall_mem_cons.mpr ⟨hc, fun d hd => List.mem_takeWhile_imp hd⟩
    have hbehind := ih (earlier ++ word) (by rw [byteSize_append, hoffset])
    have hscanned :=
      cons_word (List.cons_ne_nil c _) hinside (stops_dropWhile isWordChar rest) hbehind
    rw [← hsplit, hoffset] at hscanned
    rw [wordSpans, if_pos hc]
    exact hscanned
  | case3 offset c rest hc ih =>
    rw [wordSpans, if_neg hc]
    refine cons_gap (by simpa using hc) (ih (earlier ++ [c]) ?_)
    rw [byteSize_append, hoffset, byteSize, byteSize, Nat.add_zero]

private theorem le_start (h : Scanned earlier text spans) :
    ∀ w ∈ spans, byteSize earlier ≤ w.start := by
  induction h with
  | done between => exact nofun
  | word between filled inside stops behind ih =>
    simp only [byteSize_append] at ih ⊢
    refine List.forall_mem_cons.mpr ⟨by simp, fun w hw => ?_⟩
    have := ih w hw
    omega

private theorem lt_start (h : Scanned earlier text spans) (hstops : Stops isWordChar text) :
    ∀ w ∈ spans, byteSize earlier < w.start := by
  cases h with
  | done between => exact nofun
  | @word _ gap word rest spans between filled inside stops behind =>
    have hgap : gap ≠ [] := by
      rintro rfl
      exact not_stops_append filled inside rest hstops
    have hsize : byteSize gap ≠ 0 := mt eq_nil_of_byteSize hgap
    have hlater := behind.le_start
    simp only [byteSize_append] at hlater ⊢
    refine List.forall_mem_cons.mpr ⟨by simp; omega, fun w hw => ?_⟩
    have := hlater w hw
    omega

theorem pairwise (h : Scanned earlier text spans) :
    spans.Pairwise fun v w => v.stop < w.start := by
  induction h with
  | done between => exact .nil
  | word between filled inside stops behind ih =>
    refine List.pairwise_cons.mpr ⟨fun w hw => ?_, ih⟩
    have hlater := behind.lt_start stops w hw
    rwa [← List.append_assoc, byteSize_append] at hlater

theorem gaps_between (h : Scanned earlier rest spans) (htext : earlier ++ rest = text) :
    ∀ gap ∈ gaps? text (byteSize earlier) (spans.map WordSpan.range),
      ∃ part, gap = some part ∧ ∀ c ∈ part, isWordChar c = false := by
  induction h with
  | @done earlier gap between =>
    subst htext
    have hgap := slice?_append [] (congrArg (earlier ++ ·) (List.append_nil gap))
    exact List.forall_mem_singleton.mpr ⟨gap, hgap, between⟩
  | @word earlier gap word rest spans between filled inside stops behind ih =>
    have hgap := slice?_append (word ++ rest) htext
    have hbehind := ih (by simpa using htext)
    rw [← List.append_assoc, byteSize_append] at hbehind
    exact List.forall_mem_cons.mpr ⟨⟨gap, hgap, between⟩, hbehind⟩

private theorem run_eq_word {front run after gap word : List Char}
    (hsplit : front ++ (run ++ after) = gap ++ (word ++ rest))
    (hlt : byteSize front < byteSize (gap ++ word))
    (hbetween : ∀ c ∈ gap, isWordChar c = false) (hinside : ∀ c ∈ word, isWordChar c = true)
    (hstops : Stops isWordChar rest) (hfilled : run ≠ [])
    (hrun : ∀ c ∈ run, isWordChar c = true) (hbefore : Stops isWordChar front.reverse)
    (hafter : Stops isWordChar after) : front = gap ∧ run = word := by
  obtain rfl : front = gap := by
    rcases List.append_eq_append_iff.mp hsplit with ⟨more, rfl, hmore⟩ | ⟨more, rfl, hmore⟩
    -- a gap that is longer would begin the run
    · cases more with
      | nil => simp
      | cons d more =>
        obtain ⟨c, others, rfl⟩ := List.exists_cons_of_ne_nil hfilled
        obtain ⟨rfl, -⟩ := List.cons.inj hmore
        have hc := hrun c List.mem_cons_self
        rw [hbetween c (by simp)] at hc
        cases hc
    -- a front that is longer would end within the word
    · rw [byteSize_append, byteSize_append] at hlt
      obtain ⟨v, rfl, -⟩ := exists_append_of_byteSize_le hmore.symm (by omega)
      rcases List.eq_nil_or_concat more with rfl | ⟨first, last, rfl⟩
      · simp
      · have hlast : isWordChar last = false := hbefore last (by simp)
        rw [hinside last (by simp)] at hlast
        cases hlast
  have hrest := List.append_cancel_left hsplit
  have htake := congrArg (List.takeWhile isWordChar) hrest
  rw [takeWhile_append_of_stops hrun hafter, takeWhile_append_of_stops hinside hstops] at htake
  exact ⟨rfl, htake⟩

theorem isRun_of_mem (h : Scanned earlier rest spans)
    (hcut : Stops isWordChar earlier.reverse ∨ Stops isWordChar rest) :
    ∀ w ∈ spans, w.IsRun (earlier ++ rest) := by
  induction h with
  | done between => exact nofun
  | @word earlier gap word rest spans between filled inside stops behind ih =>
    have hbefore : Stops isWordChar (earlier ++ gap).reverse := by
      rw [List.reverse_append, stops_append_iff]
      refine ⟨stops_of_forall (by simpa using between), fun hgap => ?_⟩
      obtain rfl := List.reverse_eq_nil_iff.mp hgap
      exact hcut.resolve_right (not_stops_append filled inside rest)
    have hbehind := ih (.inr stops)
    rw [List.append_assoc, List.append_assoc] at hbehind
    exact List.forall_mem_cons.mpr ⟨⟨filled, inside, earlier ++ gap, rest,
      List.append_assoc earlier gap _, rfl, hbefore, stops⟩, hbehind⟩

/-- No run is missed. -/
theorem mem_of_isRun (h : Scanned earlier rest spans) {w : WordSpan}
    (hle : byteSize earlier ≤ w.start) (hrun : w.IsRun (earlier ++ rest)) : w ∈ spans := by
  induction h with
  | @done earlier gap between =>
    obtain ⟨hfilled, hchars, before, after, htext, hstart, -⟩ := hrun
    obtain ⟨front, -, hgap⟩ := exists_append_of_byteSize_le htext.symm (by omega)
    obtain ⟨c, more, hcons⟩ := List.exists_cons_of_ne_nil hfilled
    have hc := hchars c (by simp [hcons])
    rw [between c (by simp [hgap, hcons])] at hc
    cases hc
  | @word earlier gap word rest spans between filled inside stops behind ih =>
    rcases Nat.lt_or_ge w.start (byteSize (earlier ++ (gap ++ word))) with hlt | hge
    · obtain ⟨hfilled, hchars, before, after, htext, hstart, hbefore, hafter⟩ := hrun
      obtain ⟨front, rfl, hsplit⟩ := exists_append_of_byteSize_le htext.symm (by omega)
      rw [List.reverse_append, stops_append_iff] at hbefore
      rw [← hstart, byteSize_append, byteSize_append] at hlt
      obtain ⟨rfl, hword⟩ := run_eq_word hsplit.symm (by omega) between inside stops hfilled
        hchars hbefore.1 hafter
      rw [hstart, ← hword]
      exact List.mem_cons_self
    · rw [← List.append_assoc gap word rest, ← List.append_assoc] at hrun
      exact List.mem_cons_of_mem _ (ih hge hrun)

end Scanned

theorem mem_wordSpans_iff {text : List Char} {w : WordSpan} :
    w ∈ wordSpans 0 text ↔ w.IsRun text :=
  ⟨(Scanned.of_wordSpans [] text).isRun_of_mem (.inl .nil) w,
    (Scanned.of_wordSpans [] text).mem_of_isRun (Nat.zero_le _)⟩

end PagedSearch
