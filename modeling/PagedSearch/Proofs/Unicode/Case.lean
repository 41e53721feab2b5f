import PagedSearch.Unicode.Case

/-!
# Letters without case

Lowercasing changes the uppercase letters and a few more: the titlecase letters, which are written
with a capital in front and have the Uppercase property as little as the Lowercase one. A text that
has neither is its own lowercase form.
-/

namespace PagedSearch.Unicode

def titlecaseRuns : List CodeRun := [
  ⟨0x1C5, 0x1CB, 3⟩, ⟨0x1F2, 0x1F2, 1⟩, ⟨0x1F88, 0x1F8F, 1⟩, ⟨0x1F98, 0x1F9F, 1⟩,
  ⟨0x1FA8, 0x1FAF, 1⟩, ⟨0x1FBC, 0x1FBC, 1⟩, ⟨0x1FCC, 0x1FCC, 1⟩, ⟨0x1FFC, 0x1FFC, 1⟩]

def isTitlecase (c : Char) : Bool := inRuns titlecaseRuns c.toNat

def CodeRun.span (run : CodeRun) : List Nat := List.range' run.first (run.last + 1 - run.first)

theorem CodeRun.mem_span {run : CodeRun} {code : Nat} (h : run.contains code = true) :
    code ∈ run.span := by
  rw [contains, Bool.and_eq_true, Bool.and_eq_true, decide_eq_true_eq, decide_eq_true_eq] at h
  rw [span, List.mem_range'_1]
  omega

private theorem exists_of_inRuns {runs : List CodeRun} {code : Nat} (h : inRuns runs code = true) :
    ∃ run ∈ runs, run.contains code = true := by
  induction runs with
  | nil => cases h
  | cons run rest ih =>
    rw [inRuns, Bool.and_eq_true, Bool.or_eq_true] at h
    rcases h.2 with hrun | hrest
    · exact ⟨run, List.mem_cons_self, hrun⟩
    · obtain ⟨other, hmem, hother⟩ := ih hrest
      exact ⟨other, List.mem_cons_of_mem run hmem, hother⟩

theorem lowercaseCode_cases (code : Nat) (shifts : List CaseShift) :
    lowercaseCode code shifts = code ∨ ∃ shift ∈ shifts, shift.run.contains code = true ∧
      lowercaseCode code shifts = (code + shift.distance).toNat := by
  induction shifts with
  | nil => exact .inl rfl
  | cons shift rest ih =>
    rw [lowercaseCode]
    split
    · exact .inl rfl
    split
    · rename_i hrun
      exact .inr ⟨shift, List.mem_cons_self, hrun, rfl⟩
    · refine ih.imp_right ?_
      rintro ⟨other, hmem, hother⟩
      exact ⟨other, List.mem_cons_of_mem shift hmem, hother⟩

def shiftedCode (code : Nat) : List CaseShift → Nat
  | [] => code
  | shift :: rest =>
    bif code.blt shift.run.first then code
    else bif shift.run.contains code then (code + shift.distance).toNat
    else shiftedCode code rest

theorem lowercaseCode_eq (code : Nat) (shifts : List CaseShift) :
    lowercaseCode code shifts = shiftedCode code shifts := by
  induction shifts with
  | nil => rfl
  | cons shift rest ih =>
    rw [lowercaseCode, shiftedCode, ih, cond_eq_ite, cond_eq_ite]
    simp [Nat.blt_eq]

theorem toNat_ofNat {code : Nat} (h : code.isValidChar) : (Char.ofNat code).toNat = code := by
  rw [Char.ofNat, dif_pos h]
  rfl

theorem ofNat_of_not_isValidChar {code : Nat} (h : ¬ code.isValidChar) :
    Char.ofNat code = '\x00' := by
  rw [Char.ofNat, dif_neg h]
  rfl

def covers : List CodeRun → CodeRun → Bool
  | [], run => run.span.all fun code => !run.contains code || inRuns titlecaseRuns code
  | first :: rest, run =>
    if first.last < run.first then first.first ≤ run.first && covers rest run
    else run.span.all fun code =>
      !run.contains code || (inRuns (first :: rest) code || inRuns titlecaseRuns code)

private theorem inRuns_of_covers {runs : List CodeRun} {run : CodeRun} {code : Nat}
    (h : covers runs run = true) (hcode : run.contains code = true) :
    inRuns runs code = true ∨ inRuns titlecaseRuns code = true := by
  have hspan := CodeRun.mem_span hcode
  induction runs with
  | nil =>
    have hall := List.all_eq_true.mp h code hspan
    exact .inr (by simpa [hcode] using hall)
  | cons first rest ih =>
    rw [covers] at h
    split at h
    · rw [Bool.and_eq_true, decide_eq_true_eq] at h
      refine (ih h.2).imp_left fun hrest => ?_
      have hfirst : run.first ≤ code := (List.mem_range'_1.mp hspan).1
      simp [inRuns, hrest, Nat.le_trans h.1 hfirst]
    · have hall := List.all_eq_true.mp h code hspan
      simpa [hcode] using hall

private theorem caseTables :
    (lowercaseShifts.all fun shift => covers uppercaseRuns shift.run) = true ∧
    (titlecaseRuns.all fun run => run.span.all fun code =>
      !run.contains code || shiftedCode code lowercaseShifts != code) = true := by
  decide +kernel

section Char

variable {c : Char}

private theorem lowercaseChar_of_caseless (hupper : isUppercase c = false)
    (htitle : isTitlecase c = false) : lowercaseChar c = [c] := by
  have hdotted : c ≠ 'İ' := by
    rintro rfl
    exact absurd hupper (by decide)
  rw [lowercaseChar, if_neg hdotted]
  rcases lowercaseCode_cases c.toNat lowercaseShifts with hself | ⟨shift, hshift, hcontains, -⟩
  · rw [hself, Char.ofNat_toNat]
  · rcases inRuns_of_covers (List.all_eq_true.mp caseTables.1 shift hshift) hcontains with h | h
    · exact absurd hupper (by simp [isUppercase, h])
    · exact absurd htitle (by simp [isTitlecase, h])

private theorem lowercaseChar_ne_of_titlecase (htitle : isTitlecase c = true) :
    lowercaseChar c ≠ [c] := by
  have hdotted : c ≠ 'İ' := by
    rintro rfl
    exact absurd htitle (by decide)
  obtain ⟨run, hrun, hcontains⟩ := exists_of_inRuns htitle
  have htable := List.all_eq_true.mp (List.all_eq_true.mp caseTables.2 run hrun) c.toNat
    (CodeRun.mem_span hcontains)
  have hshifted : lowercaseCode c.toNat lowercaseShifts ≠ c.toNat := by
    rw [lowercaseCode_eq]
    simpa [hcontains] using htable
  rw [lowercaseChar, if_neg hdotted, Ne, List.singleton_inj]
  intro hchar
  by_cases hvalid : (lowercaseCode c.toNat lowercaseShifts).isValidChar
  · apply hshifted
    rw [← toNat_ofNat hvalid, hchar]
  · rw [← hchar, ofNat_of_not_isValidChar hvalid] at htitle
    exact absurd htitle (by decide)

end Char

section Text

variable {text : List Char} (hupper : ∀ c ∈ text, isUppercase c = false)

include hupper

private theorem lowercaseAfter_eq_self_iff (before : List Char) :
    lowercaseAfter before text = text ↔ ∀ c ∈ text, isTitlecase c = false := by
  induction text generalizing before with
  | nil => simp [lowercaseAfter]
  | cons c rest ih =>
    obtain ⟨hfirst, hrest⟩ := List.forall_mem_cons.mp hupper
    have hsigma : c ≠ 'Σ' := by
      rintro rfl
      exact absurd hfirst (by decide)
    have hdotted : c ≠ 'İ' := by
      rintro rfl
      exact absurd hfirst (by decide)
    rw [lowercaseAfter, if_neg hsigma, List.forall_mem_cons, ← ih hrest (c :: before)]
    constructor
    · intro h
      have hchar : lowercaseChar c = [c] := by
        rw [lowercaseChar, if_neg hdotted] at h ⊢
        rw [(List.cons.inj h).1]
      rw [hchar] at h
      refine ⟨?_, (List.cons.inj h).2⟩
      cases htitle : isTitlecase c with
      | false => rfl
      | true => exact absurd hchar (lowercaseChar_ne_of_titlecase htitle)
    · intro h
      rw [lowercaseChar_of_caseless hfirst h.1, h.2]
      rfl

/-- Without uppercase letters a text is its own lowercase form if and only if it has no titlecase
letters either. -/
theorem lowercase_eq_self_iff : lowercase text = text ↔ ∀ c ∈ text, isTitlecase c = false :=
  lowercaseAfter_eq_self_iff hupper []

end Text

end PagedSearch.Unicode
