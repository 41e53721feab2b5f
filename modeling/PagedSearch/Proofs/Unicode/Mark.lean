import Mathlib.Data.Nat.Bitwise
import PagedSearch.Proofs.Unicode.Case
import PagedSearch.Unicode.Canonical

/-!
# Marks

What the character tables say of marks: every character that is no starter is a mark, a mark has no
other letter case, and the mappings of marks lead to marks and to nothing else. To look up the code
points of one table in another, the other is turned into a number whose bits are its code points.
-/

namespace PagedSearch.Unicode

section Bits

variable {ranges : List (Nat × Nat)} {bits other code : Nat}

def rangeBits : List (Nat × Nat) → Nat
  | [] => 0
  | (first, last) :: rest => ((1 <<< (last + 1 - first)) - 1) <<< first ||| rangeBits rest

def hasBit (bits code : Nat) : Bool := Nat.beq ((bits >>> code) % 2) 1

private theorem hasBit_eq_testBit : hasBit bits code = bits.testBit code := by
  rw [hasBit, Nat.shiftRight_eq_div_pow, Nat.testBit_eq_decide_div_mod_eq, Bool.eq_iff_iff,
    Nat.beq_eq, decide_eq_true_eq]

private theorem hasBit_rangeBits :
    hasBit (rangeBits ranges) code = true ↔ ∃ range ∈ ranges, range.1 ≤ code ∧ code ≤ range.2 := by
  rw [hasBit_eq_testBit]
  induction ranges with
  | nil => simp [rangeBits]
  | cons range rest ih =>
    have hrange : (((1 <<< (range.2 + 1 - range.1)) - 1) <<< range.1).testBit code = true ↔
        range.1 ≤ code ∧ code ≤ range.2 := by
      rw [Nat.testBit_shiftLeft, Nat.one_shiftLeft, Nat.testBit_two_pow_sub_one, Bool.and_eq_true,
        decide_eq_true_eq, decide_eq_true_eq]
      omega
    rw [rangeBits, Nat.testBit_or, Bool.or_eq_true, ih, hrange]
    simp only [List.mem_cons, exists_eq_or_imp]

def codeBits (codes : List Nat) : Nat := rangeBits (codes.map fun code => (code, code))

theorem hasBit_codeBits {codes : List Nat} :
    hasBit (codeBits codes) code = true ↔ code ∈ codes := by
  rw [codeBits, hasBit_rangeBits]
  constructor
  · rintro ⟨range, hrange, hfirst, hlast⟩
    obtain ⟨other, hother, rfl⟩ := List.mem_map.mp hrange
    rwa [Nat.le_antisymm hlast hfirst]
  · intro hcode
    exact ⟨_, List.mem_map_of_mem hcode, Nat.le_refl code, Nat.le_refl code⟩

def disjointBits (bits other : Nat) : Bool := Nat.beq (bits &&& other) 0

def includesBits (bits other : Nat) : Bool := Nat.beq (bits ||| other) bits

private theorem hasBit_of_disjointBits (h : disjointBits bits other = true)
    (hcode : hasBit bits code = true) : hasBit other code = false := by
  rw [disjointBits, Nat.beq_eq] at h
  rw [hasBit_eq_testBit] at hcode ⊢
  have hand := Nat.testBit_and bits other code
  rw [h, hcode, Nat.zero_testBit, Bool.true_and] at hand
  exact hand.symm

private theorem hasBit_of_includesBits (h : includesBits bits other = true)
    (hcode : hasBit other code = true) : hasBit bits code = true := by
  rw [includesBits, Nat.beq_eq] at h
  rw [hasBit_eq_testBit] at hcode ⊢
  rw [← h, Nat.testBit_or, hcode, Bool.or_true]

private theorem exists_of_inRanges (h : inRanges ranges code = true) :
    ∃ range ∈ ranges, range.1 ≤ code ∧ code ≤ range.2 := by
  induction ranges with
  | nil => cases h
  | cons range rest ih =>
    rw [inRanges, Bool.and_eq_true, Bool.or_eq_true, decide_eq_true_eq, decide_eq_true_eq] at h
    rcases h.2 with hlast | hrest
    · exact ⟨range, List.mem_cons_self, h.1, hlast⟩
    · obtain ⟨other, hmem, hother⟩ := ih hrest
      exact ⟨other, List.mem_cons_of_mem range hmem, hother⟩

def ascending : List (Nat × Nat) → Bool
  | [] => true
  | [_] => true
  | first :: second :: rest => first.1.ble second.1 && ascending (second :: rest)

private theorem inRanges_of_mem {range : Nat × Nat} (hascending : ascending ranges = true)
    (hmem : range ∈ ranges) (hfirst : range.1 ≤ code) (hlast : code ≤ range.2) :
    inRanges ranges code = true := by
  induction ranges with
  | nil => cases hmem
  | cons first rest ih =>
    rw [inRanges, Bool.and_eq_true, Bool.or_eq_true, decide_eq_true_eq, decide_eq_true_eq]
    rcases List.mem_cons.mp hmem with rfl | hmem
    · exact ⟨hfirst, .inl hlast⟩
    · cases rest with
      | nil => cases hmem
      | cons second rest =>
        rw [ascending, Bool.and_eq_true, Nat.ble_eq] at hascending
        have hrest := ih hascending.2 hmem
        have hsecond : second.1 ≤ code := by
          rw [inRanges, Bool.and_eq_true, decide_eq_true_eq] at hrest
          exact hrest.1
        exact ⟨Nat.le_trans hascending.1 hsecond, .inr hrest⟩

private theorem hasBit_rangeBits_eq (hascending : ascending ranges = true) :
    hasBit (rangeBits ranges) code = inRanges ranges code := by
  rw [Bool.eq_iff_iff, hasBit_rangeBits]
  constructor
  · rintro ⟨range, hmem, hfirst, hlast⟩
    exact inRanges_of_mem hascending hmem hfirst hlast
  · exact exists_of_inRanges

end Bits

def isMarkCode (code : Nat) : Bool := inRanges markRanges code

@[irreducible]
def markBits : Nat := rangeBits markRanges

def unmarkedRanges : List (Nat × Nat) :=
  (0x1100, 0x1112) :: (0xAC00, 0xDFFF) ::
    lowercaseShifts.map fun shift => (shift.run.first, shift.run.last)

private theorem markTables :
    ascending markRanges = true ∧
    (markRanges.all fun range => range.2 < 0x110000) = true ∧
    disjointBits markBits (rangeBits unmarkedRanges) = true ∧
    includesBits markBits
      (rangeBits (combiningClasses.map fun (first, last, _) => (first, last))) = true ∧
    (canonicalPairs.all fun (code, first, second) =>
      hasBit markBits code == hasBit markBits first &&
        (!hasBit markBits first || hasBit markBits second)) = true ∧
    (canonicalSingles.all fun (code, other) =>
      !hasBit markBits code || hasBit markBits other) = true := by
  decide +kernel

section Code

variable {code first second other : Nat}

theorem hasBit_markBits : hasBit markBits code = isMarkCode code := by
  unfold markBits isMarkCode
  exact hasBit_rangeBits_eq markTables.1

theorem isMarkCode_of_pair (h : (code, first, second) ∈ canonicalPairs) :
    isMarkCode code = isMarkCode first ∧ (isMarkCode first = true → isMarkCode second = true) := by
  have htable := List.all_eq_true.mp markTables.2.2.2.2.1 _ h
  simp only [hasBit_markBits, Bool.and_eq_true, beq_iff_eq] at htable
  exact ⟨htable.1, fun hfirst => by simpa [hfirst] using htable.2⟩

private theorem isMarkCode_of_single (h : (code, other) ∈ canonicalSingles)
    (hcode : isMarkCode code = true) : isMarkCode other = true := by
  have htable := List.all_eq_true.mp markTables.2.2.2.2.2 _ h
  simpa [hasBit_markBits, hcode] using htable

theorem not_mem_unmarked (hcode : isMarkCode code = true) {range : Nat × Nat}
    (hrange : range ∈ unmarkedRanges) : ¬ (range.1 ≤ code ∧ code ≤ range.2) := by
  intro hbounds
  have hbit := hasBit_of_disjointBits markTables.2.2.1 (hasBit_markBits.trans hcode)
  rw [hasBit_rangeBits.mpr ⟨range, hrange, hbounds⟩] at hbit
  cases hbit

private theorem syllables_unmarked : (0xAC00, 0xDFFF) ∈ unmarkedRanges := by
  simp [unmarkedRanges]

private theorem isValidChar_of_isMarkCode (hcode : isMarkCode code = true) : code.isValidChar := by
  obtain ⟨range, hrange, -, hlast⟩ := exists_of_inRanges hcode
  have hbound := of_decide_eq_true (List.all_eq_true.mp markTables.2.1 range hrange)
  have hsurrogate := not_mem_unmarked hcode syllables_unmarked
  unfold Nat.isValidChar
  dsimp only at hsurrogate
  omega

private theorem exists_of_classIn {classes : List (Nat × Nat × Nat)}
    (h : classIn classes code ≠ 0) :
    ∃ entry ∈ classes, entry.1 ≤ code ∧ code ≤ entry.2.1 := by
  induction classes with
  | nil => exact absurd rfl h
  | cons entry rest ih =>
    rw [classIn] at h
    split at h
    · exact absurd rfl h
    split at h
    · rename_i hfirst hlast
      exact ⟨entry, List.mem_cons_self, Nat.not_lt.mp hfirst, hlast⟩
    · obtain ⟨other, hmem, hother⟩ := ih h
      exact ⟨other, List.mem_cons_of_mem entry hmem, hother⟩

private theorem mem_of_lookup {α : Type} {l : List (Nat × α)} {a : α} (h : l.lookup code = some a) :
    (code, a) ∈ l := by
  obtain ⟨before, after, rfl, -⟩ := List.lookup_eq_some_iff.mp h
  simp

theorem Hangul.isSyllable_eq_true (h : isSyllable code = true) : 0xAC00 ≤ code ∧ code < 0xD7A4 := by
  rw [isSyllable, Bool.and_eq_true, decide_eq_true_eq, decide_eq_true_eq, syllableBase, leadCount,
    vowelCount, tailCount] at h
  exact h

theorem Hangul.isSyllable_eq_false (h : code < 0xAC00 ∨ 0xDFFF < code) :
    isSyllable code = false := by
  by_contra hsyllable
  have hbounds := isSyllable_eq_true (Bool.eq_true_of_not_eq_false hsyllable)
  omega

private theorem isSyllable_of_isMarkCode (hcode : isMarkCode code = true) :
    Hangul.isSyllable code = false := by
  have hrange := not_mem_unmarked hcode syllables_unmarked
  apply Hangul.isSyllable_eq_false
  dsimp only at hrange
  omega

/-- A code point stands alone, is a syllable with its parts or has a mapping, and what it is mapped
to is decomposed with one step less. -/
theorem decomposeCode_cases (steps code : Nat) :
    decomposeCode (steps + 1) code = [code] ∨
    (Hangul.isSyllable code = true ∧ decomposeCode (steps + 1) code = Hangul.parts code) ∨
    (∃ first second, (code, first, second) ∈ canonicalPairs ∧
      decomposeCode (steps + 1) code = decomposeCode steps first ++ decomposeCode steps second) ∨
    ∃ other, (code, other) ∈ canonicalSingles ∧
      decomposeCode (steps + 1) code = decomposeCode steps other := by
  rw [decomposeCode]
  split
  · exact .inl rfl
  split
  · rename_i hsyllable
    exact .inr (.inl ⟨hsyllable, rfl⟩)
  cases hpair : canonicalPairs.lookup code with
  | some pair => exact .inr (.inr (.inl ⟨pair.1, pair.2, mem_of_lookup hpair, rfl⟩))
  | none =>
    cases hsingle : canonicalSingles.lookup code with
    | some other => exact .inr (.inr (.inr ⟨other, mem_of_lookup hsingle, rfl⟩))
    | none => exact .inl rfl

theorem isMarkCode_of_mem_decomposeCode {steps part : Nat} (hcode : isMarkCode code = true)
    (hpart : part ∈ decomposeCode steps code) : isMarkCode part = true := by
  induction steps generalizing code with
  | zero => rwa [List.mem_singleton.mp hpart]
  | succ steps ih =>
    rcases decomposeCode_cases steps code with
      hself | ⟨hsyllable, -⟩ | ⟨first, second, hpair, hparts⟩ | ⟨other, hsingle, hparts⟩
    · rw [hself] at hpart
      rwa [List.mem_singleton.mp hpart]
    · rw [isSyllable_of_isMarkCode hcode] at hsyllable
      cases hsyllable
    · obtain ⟨hfirst, hsecond⟩ := isMarkCode_of_pair hpair
      rw [hcode] at hfirst
      rw [hparts] at hpart
      rcases List.mem_append.mp hpart with hpart | hpart
      · exact ih hfirst.symm hpart
      · exact ih (hsecond hfirst.symm) hpart
    · exact ih (isMarkCode_of_single hsingle hcode) (hparts ▸ hpart)

end Code

section Char

theorem isMark_ofNat {code : Nat} (h : isMarkCode code = true) : isMark (.ofNat code) = true := by
  rw [isMark, toNat_ofNat (isValidChar_of_isMarkCode h)]
  exact h

variable {c : Char}

theorem isMark_of_combiningClass (h : combiningClass c ≠ 0) : isMark c = true := by
  obtain ⟨entry, hentry, hbounds⟩ := exists_of_classIn h
  have hclass : hasBit (rangeBits
      (combiningClasses.map fun (first, last, _) => (first, last))) c.toNat = true :=
    hasBit_rangeBits.mpr ⟨_, List.mem_map_of_mem hentry, hbounds⟩
  have hbit := hasBit_of_includesBits markTables.2.2.2.1 hclass
  rwa [hasBit_markBits] at hbit

theorem combiningClass_of_lt (h : c.toNat < 0x300) : combiningClass c = 0 := by
  rw [combiningClass, combiningClasses, classIn, if_pos h]

theorem lowercaseChar_of_isMark (h : isMark c = true) : lowercaseChar c = [c] := by
  have hdotted : c ≠ 'İ' := by
    rintro rfl
    exact absurd h (by decide)
  rw [lowercaseChar, if_neg hdotted]
  rcases lowercaseCode_cases c.toNat lowercaseShifts with hself | ⟨shift, hshift, hcontains, -⟩
  · rw [hself, Char.ofNat_toNat]
  · have hrange : (shift.run.first, shift.run.last) ∈ unmarkedRanges :=
      List.mem_cons_of_mem _ (List.mem_cons_of_mem _ (List.mem_map_of_mem hshift))
    have hspan := List.mem_range'_1.mp (CodeRun.mem_span hcontains)
    exact absurd ⟨hspan.1, by omega⟩ (not_mem_unmarked h hrange)

theorem isMark_of_mem_decomposition (h : isMark c = true) {part : Char}
    (hpart : part ∈ decomposition c) : isMark part = true := by
  obtain ⟨code, hcode, rfl⟩ := List.mem_map.mp hpart
  exact isMark_ofNat (isMarkCode_of_mem_decomposeCode h hcode)

theorem composite?_cases {second joined : Char} (h : composite? c second = some joined) :
    0x300 ≤ second.toNat ∧
      ((∃ syllable, Hangul.join? c.toNat second.toNat = some syllable ∧ joined = .ofNat syllable) ∨
        ∃ code, (code, c.toNat, second.toNat) ∈ canonicalPairs ∧ joined = .ofNat code) := by
  rw [composite?] at h
  split at h
  · cases h
  rename_i hsecond
  refine ⟨Nat.not_lt.mp hsecond, ?_⟩
  split at h
  · rename_i syllable hsyllable
    cases h
    exact .inl ⟨syllable, hsyllable, rfl⟩
  split at h
  · rename_i code pair hfind
    have hmem := List.mem_of_find?_eq_some hfind
    have hpair : pair = (c.toNat, second.toNat) := by
      simpa using List.find?_some hfind
    split at h
    · cases h
    · cases h
      exact .inr ⟨code, hpair ▸ hmem, rfl⟩
  · cases h

private theorem Hangul.first_of_join? {first second syllable : Nat}
    (h : join? first second = some syllable) :
    (0x1100 ≤ first ∧ first ≤ 0x1112) ∨ isSyllable first = true := by
  rw [join?] at h
  split at h
  · rename_i hlead
    simp only [Bool.and_eq_true, decide_eq_true_eq] at hlead
    have hfirst : leadBase ≤ first ∧ first < leadBase + leadCount := hlead.1.1
    rw [leadBase, leadCount] at hfirst
    exact .inl ⟨hfirst.1, by omega⟩
  split at h
  · rename_i hsyllable
    simp only [Bool.and_eq_true] at hsyllable
    exact .inr hsyllable.1.1.1
  · cases h

theorem Hangul.join?_eq_none {first : Nat} (hlow : first < 0xAC00)
    (hapart : first < 0x1100 ∨ 0x1112 < first) (second : Nat) : join? first second = none := by
  by_contra hsome
  obtain ⟨syllable, hsyllable⟩ := Option.ne_none_iff_exists'.mp hsome
  rcases first_of_join? hsyllable with hlead | hfirst
  · omega
  · have hbounds := isSyllable_eq_true hfirst
    omega

theorem isMark_of_composite? {joined mark : Char} (h : isMark c = true)
    (hjoined : composite? c mark = some joined) : isMark joined = true ∧ isMark mark = true := by
  obtain ⟨-, ⟨syllable, hsyllable, -⟩ | ⟨code, hpair, rfl⟩⟩ := composite?_cases hjoined
  · rcases Hangul.first_of_join? hsyllable with hlead | hfirst
    · have hrange : (0x1100, 0x1112) ∈ unmarkedRanges := by simp [unmarkedRanges]
      exact absurd hlead (not_mem_unmarked h hrange)
    · rw [isSyllable_of_isMarkCode h] at hfirst
      cases hfirst
  · obtain ⟨hcode, hmark⟩ := isMarkCode_of_pair hpair
    exact ⟨isMark_ofNat (hcode.trans h), hmark h⟩

end Char

end PagedSearch.Unicode
