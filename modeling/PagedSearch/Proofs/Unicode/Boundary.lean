import PagedSearch.Proofs.Text.Split
import PagedSearch.Proofs.Unicode.LetterForms

/-!
# Where a letter ends

A character that is no mark is decomposed into a first part that is none either, so a text that does
not begin with a mark does not begin with one when it is decomposed. A letter in front of such a
text is composed as it is alone.
-/

namespace PagedSearch.Unicode

private theorem singleTables :
    (canonicalSingles.all fun (code, other) =>
      hasBit markBits code == hasBit markBits other) = true := by
  decide +kernel

section Code

variable {code : Nat}

private theorem isMarkCode_eq_of_single {other : Nat} (h : (code, other) ∈ canonicalSingles) :
    isMarkCode code = isMarkCode other := by
  have htable := List.all_eq_true.mp singleTables _ h
  simpa [hasBit_markBits] using htable

private theorem Hangul.exists_parts (code : Nat) :
    ∃ rest, parts code = (leadBase + (code - syllableBase) / (vowelCount * tailCount)) :: rest := by
  unfold parts
  dsimp only
  split <;> exact ⟨_, rfl⟩

private theorem exists_decomposeCode (steps : Nat) (h : isMarkCode code = false) :
    ∃ first rest, decomposeCode steps code = first :: rest ∧ isMarkCode first = false := by
  induction steps generalizing code with
  | zero => exact ⟨code, [], rfl, h⟩
  | succ steps ih =>
    rcases decomposeCode_cases steps code with
      hself | ⟨hsyllable, hparts⟩ | ⟨first, second, hpair, hparts⟩ | ⟨other, hsingle, hparts⟩
    · exact ⟨code, [], hself, h⟩
    · obtain ⟨rest, hrest⟩ := Hangul.exists_parts code
      refine ⟨_, rest, hparts.trans hrest, ?_⟩
      by_contra hmark
      have hlead : (0x1100, 0x1112) ∈ unmarkedRanges := by simp [unmarkedRanges]
      obtain ⟨hfirst, hlast⟩ := Hangul.isSyllable_eq_true hsyllable
      refine not_mem_unmarked (Bool.eq_true_of_not_eq_false hmark) hlead ?_
      simp only [Hangul.leadBase, Hangul.syllableBase, Hangul.vowelCount, Hangul.tailCount]
      omega
    · obtain ⟨hfirst, -⟩ := isMarkCode_of_pair hpair
      obtain ⟨part, rest, hrest, hpart⟩ := ih (hfirst.symm.trans h)
      exact ⟨part, _, by rw [hparts, hrest, List.cons_append], hpart⟩
    · rw [hparts]
      exact ih ((isMarkCode_eq_of_single hsingle).symm.trans h)

end Code

section Text

variable {c : Char} {text : List Char}

theorem combiningClass_of_not_isMark (h : isMark c = false) : combiningClass c = 0 := by
  by_contra hclass
  rw [isMark_of_combiningClass hclass] at h
  cases h

private theorem isMark_ofNat_eq_false {code : Nat} (h : isMarkCode code = false) :
    isMark (.ofNat code) = false := by
  by_cases hvalid : code.isValidChar
  · rw [isMark, toNat_ofNat hvalid]
    exact h
  · rw [ofNat_of_not_isValidChar hvalid]
    decide

private theorem exists_decomposition_bare (h : isMark c = false) :
    ∃ first rest, decomposition c = first :: rest ∧ isMark first = false := by
  obtain ⟨first, rest, hparts, hfirst⟩ := exists_decomposeCode mappingDepth h
  exact ⟨.ofNat first, rest.map .ofNat, by rw [decomposition, hparts, List.map_cons],
    isMark_ofNat_eq_false hfirst⟩

private theorem orderMarks_cons_bare (h : isMark c = false) (rest : List Char) :
    orderMarks (c :: rest) = c :: orderMarks rest :=
  insertMark_starter (combiningClass_of_not_isMark h) _

private theorem insertMark_perm (c : Char) (text : List Char) :
    (insertMark c text).Perm (c :: text) := by
  induction text with
  | nil => rfl
  | cons mark rest ih =>
    rw [insertMark]
    split
    · exact (ih.cons mark).trans (.swap c mark rest)
    · rfl

theorem orderMarks_perm (text : List Char) : (orderMarks text).Perm text := by
  induction text with
  | nil => rfl
  | cons c rest ih => exact (insertMark_perm c _).trans (ih.cons c)

private theorem stops_orderMarks (h : Stops isMark text) : Stops isMark (orderMarks text) := by
  cases text with
  | nil => exact .nil
  | cons c rest =>
    rw [orderMarks_cons_bare (h c rfl)]
    exact .cons (h c rfl) _

private theorem orderMarks_append (h : Stops isMark text) (front : List Char) :
    orderMarks (front ++ text) = orderMarks front ++ orderMarks text := by
  cases text with
  | nil => rw [List.append_nil, orderMarks, List.append_nil]
  | cons c rest =>
    have hc : isMark c = false := h c rfl
    rw [orderMarks_append_starter (combiningClass_of_not_isMark hc), orderMarks_cons_bare hc]

private theorem stops_flatMap_decomposition (h : Stops isMark text) :
    Stops isMark (text.flatMap decomposition) := by
  cases text with
  | nil => exact nofun
  | cons c rest =>
    obtain ⟨first, others, hparts, hfirst⟩ := exists_decomposition_bare (h c rfl)
    rw [List.flatMap_cons, hparts]
    rintro d ⟨⟩
    exact hfirst

private theorem head?_composeFrom {letter : Char}
    (hletter : ∀ mark joined, composite? letter mark = some joined → isMark mark = true)
    (marks : List Char) (htext : Stops isMark text) :
    (composeFrom letter marks text).head? = some letter := by
  cases text with
  | nil => rw [composeFrom, List.head?_cons]
  | cons c rest =>
    have hc : isMark c = false := htext c rfl
    rcases composeFrom_step letter marks c with
      ⟨joined, hjoined, -⟩ | ⟨-, hstep⟩ | ⟨hclass, -⟩
    · rw [hletter c joined hjoined] at hc
      cases hc
    · rw [hstep, List.head?_cons]
    · exact absurd (combiningClass_of_not_isMark hc) hclass

private theorem head?_composeFrom_append {letters : Char → Prop}
    (hletters : ∀ c mark joined, letters c → composite? c mark = some joined →
      letters joined ∧ isMark mark = true)
    {letter : Char} {front rest : List Char} (hletter : letters letter)
    (hfront : ∀ c ∈ front, isMark c = true) (hrest : Stops isMark rest) (marks : List Char) :
    (composeFrom letter marks (front ++ rest)).head? = (composeFrom letter marks front).head? := by
  induction front generalizing letter marks with
  | nil =>
    have halone (mark joined : Char) (hjoined : composite? letter mark = some joined) :
        isMark mark = true := (hletters letter mark joined hletter hjoined).2
    rw [List.nil_append, head?_composeFrom halone marks hrest, head?_composeFrom halone marks .nil]
  | cons c front ih =>
    obtain ⟨-, hmarks⟩ := List.forall_mem_cons.mp hfront
    rcases composeFrom_step letter marks c with
      ⟨joined, hjoined, hstep⟩ | ⟨-, hstep⟩ | ⟨-, hstep⟩
    · rw [List.cons_append, hstep, hstep]
      exact ih (hletters letter c joined hletter hjoined).1 hmarks marks
    · rw [List.cons_append, hstep, hstep]
      rfl
    · rw [List.cons_append, hstep, hstep]
      exact ih hletter hmarks (c :: marks)

private theorem isMark_of_composite?_low {mark joined : Char} (hc : c.toNat < 0x1100)
    (h : composite? c mark = some joined) : isMark mark = true := by
  obtain ⟨-, ⟨syllable, hsyllable, -⟩ | ⟨code, hpair, -⟩⟩ := composite?_cases h
  · rw [Hangul.join?_eq_none (by omega) (.inl hc)] at hsyllable
    cases hsyllable
  · exact isMarkCode_second hpair (by omega)

end Text

section Letter

variable {c letter : Char} {marks : List Char} (hdecomposition : decomposition c = letter :: marks)
  (hlow : letter.toNat < 0x300)

include hdecomposition hlow

private theorem composed_cons_letter (v : List Char) : composed (c :: v) =
    composeFrom letter [] (orderMarks (marks ++ v.flatMap decomposition)) := by
  have hclass := combiningClass_of_lt hlow
  rw [composed, decomposed, List.flatMap_cons, hdecomposition, List.cons_append, orderMarks,
    insertMark_starter hclass, compose, if_pos hclass]

/-- A letter cuts a text: what stands before it is composed for itself. -/
theorem composed_append_letter (u v : List Char) :
    composed (u ++ c :: v) = composed u ++ composed (c :: v) := by
  have hclass := combiningClass_of_lt hlow
  have hapart (first : Char) : composite? first letter = none := by
    rw [composite?, if_pos hlow]
  rw [composed_cons_letter hdecomposition hlow, composed, decomposed, List.flatMap_append,
    List.flatMap_cons, hdecomposition, List.cons_append, orderMarks_append_starter hclass,
    compose_append_starter hclass hapart, composed, decomposed]

theorem head?_composed_cons {letters : Char → Prop}
    (hletters : ∀ c mark joined, letters c → composite? c mark = some joined →
      letters joined ∧ isMark mark = true)
    (hletter : letters letter) (hmarks : ∀ mark ∈ marks, isMark mark = true) {v : List Char}
    (hv : Stops isMark v) : (composed (c :: v)).head? = (composed [c]).head? := by
  have hparts := stops_flatMap_decomposition hv
  have hordered : ∀ mark ∈ orderMarks marks, isMark mark = true := fun mark hmark =>
    hmarks mark ((orderMarks_perm marks).mem_iff.mp hmark)
  rw [composed_cons_letter hdecomposition hlow, composed_cons_letter hdecomposition hlow,
    orderMarks_append hparts, head?_composeFrom_append hletters hletter hordered
      (stops_orderMarks hparts), List.flatMap_nil, List.append_nil]

end Letter

theorem head?_composed_bare {c : Char} (hdecomposition : decomposition c = [c])
    (hlow : c.toNat < 0x300) {v : List Char} (hv : Stops isMark v) :
    (composed (c :: v)).head? = some c := by
  have hletter (mark joined : Char) (h : composite? c mark = some joined) : isMark mark = true :=
    isMark_of_composite?_low (by omega) h
  rw [composed_cons_letter hdecomposition hlow, List.nil_append]
  exact head?_composeFrom hletter [] (stops_orderMarks (stops_flatMap_decomposition hv))

end PagedSearch.Unicode
