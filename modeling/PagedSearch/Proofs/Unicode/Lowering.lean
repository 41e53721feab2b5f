import PagedSearch.Proofs.Unicode.Boundary

/-!
# Lowercasing decomposed characters

Putting a character in lower case and decomposing it can be done in either order. Marks stay as they
are and nothing becomes a mark, so a text in lower case is decomposed to the decomposed text with
each of its characters in lower case.
-/

namespace PagedSearch.Unicode

def lowerCode (code : Nat) : Nat := lowercaseCode code lowercaseShifts

def lowered (c : Char) : Char := .ofNat (lowerCode c.toNat)

def loweredSingles : List Nat :=
  [0x1FBB, 0x1FC9, 0x1FCB, 0x1FDB, 0x1FEB, 0x1FF9, 0x1FFB, 0x2126, 0x212A, 0x212B]

@[irreducible]
def shiftedBits : Nat :=
  codeBits (lowercaseShifts.flatMap fun shift => shift.run.span.filter shift.run.contains)

@[irreducible]
def mappedBits : Nat :=
  codeBits (canonicalPairs.map Prod.fst ++ canonicalSingles.map Prod.fst)

@[irreducible]
def specialBits : Nat := codeBits (0x130 :: loweredSingles)

def isPlainCode (code : Nat) : Bool :=
  code.blt 0xAC00 || (Nat.blt 0xDFFF code && code.blt 0x110000)

/-- What the tables say of a code point and another one as its lowercase form: the other has no
lowercase form itself, and a canonical mapping only where the first has one. -/
@[mk_iff]
structure Lowers (code low : Nat) : Prop where
  plain : isPlainCode code = true ∧ isPlainCode low = true
  unjoined : code < 0x1100 ∨ 0x11FF < code
  bare : hasBit markBits low = false
  settled : hasBit shiftedBits low = false ∧ low ≠ 0x130
  mapped : hasBit mappedBits low = true → hasBit mappedBits code = true

instance (code low : Nat) : Decidable (Lowers code low) :=
  decidable_of_iff' _ (lowers_iff code low)

private theorem shiftTables : ∀ shift ∈ lowercaseShifts, ∀ code ∈ shift.run.span,
    shift.run.contains code = true → Lowers code (code + shift.distance).toNat := by
  decide +kernel

private theorem loweredSingleTables :
    (canonicalSingles.all fun (code, other) =>
      (hasBit specialBits code || !hasBit shiftedBits code) &&
        (hasBit shiftedBits code || (!hasBit shiftedBits other && other != 0x130))) = true := by
  decide +kernel

def hasPair (code first second : Nat) : List (Nat × Nat × Nat) → Bool
  | [] => false
  | (other, left, right) :: rest =>
    bif Nat.beq other code then Nat.beq left first && Nat.beq right second
    else hasPair code first second rest

/-- Whether a code point with a lowercase form is mapped as its lowercase form is, with the first
part in lower case, and other mappings do not involve letter case. The mapping of the lowercase form
is searched from the place of the code point on. -/
def pairsLowered (before : List (Nat × Nat × Nat)) : List (Nat × Nat × Nat) → Bool
  | [] => true
  | (code, first, second) :: rest =>
    (bif hasBit shiftedBits code then
      hasPair (shiftedCode code lowercaseShifts) (shiftedCode first lowercaseShifts) second
        (bif code.blt (shiftedCode code lowercaseShifts) then rest else before)
    else
      !hasBit shiftedBits first || Nat.beq code 0x130) &&
    pairsLowered ((code, first, second) :: before) rest

private theorem loweredPairTables :
    pairsLowered [] canonicalPairs = true ∧
    (canonicalPairs.all fun (_, first, second) =>
      !hasBit specialBits first && !hasBit shiftedBits second && Nat.ble 0x300 second) = true := by
  decide +kernel

section Code

variable {code first second other : Nat}

theorem lowerCode_cases (code : Nat) : lowerCode code = code ∨ Lowers code (lowerCode code) := by
  rcases lowercaseCode_cases code lowercaseShifts with hself | ⟨shift, hshift, hcontains, hlow⟩
  · exact .inl hself
  · refine .inr ?_
    rw [lowerCode, hlow]
    exact shiftTables shift hshift code (CodeRun.mem_span hcontains) hcontains

private theorem hasBit_shiftedBits : hasBit shiftedBits code = true ↔
    ∃ shift ∈ lowercaseShifts, shift.run.contains code = true := by
  unfold shiftedBits
  rw [hasBit_codeBits, List.mem_flatMap]
  simp only [List.mem_filter]
  exact ⟨fun ⟨shift, hshift, _, hcontains⟩ => ⟨shift, hshift, hcontains⟩,
    fun ⟨shift, hshift, hcontains⟩ => ⟨shift, hshift, CodeRun.mem_span hcontains, hcontains⟩⟩

theorem lowerCode_eq_self (h : hasBit shiftedBits code = false) : lowerCode code = code := by
  rcases lowercaseCode_cases code lowercaseShifts with hself | ⟨shift, hshift, hcontains, -⟩
  · exact hself
  · rw [hasBit_shiftedBits.mpr ⟨shift, hshift, hcontains⟩] at h
    cases h

private theorem isPlainCode_of_shifted (h : hasBit shiftedBits code = true) :
    isPlainCode code = true := by
  obtain ⟨shift, hshift, hcontains⟩ := hasBit_shiftedBits.mp h
  exact (shiftTables shift hshift code (CodeRun.mem_span hcontains) hcontains).plain.1

theorem lowerCode_lowerCode (code : Nat) : lowerCode (lowerCode code) = lowerCode code := by
  rcases lowerCode_cases code with hself | hlow
  · rw [hself, hself]
  · exact lowerCode_eq_self hlow.settled.1

theorem isValidChar_of_isPlainCode (h : isPlainCode code = true) :
    code.isValidChar ∧ Hangul.isSyllable code = false := by
  simp only [isPlainCode, Bool.or_eq_true, Bool.and_eq_true, Nat.blt_eq] at h
  constructor
  · unfold Nat.isValidChar
    omega
  · exact Hangul.isSyllable_eq_false (by omega)

private theorem mem_of_hasPair {l : List (Nat × Nat × Nat)}
    (h : hasPair code first second l = true) : (code, first, second) ∈ l := by
  induction l with
  | nil => cases h
  | cons pair rest ih =>
    obtain ⟨other, left, right⟩ := pair
    rw [hasPair] at h
    cases hcode : Nat.beq other code with
    | true =>
      simp only [hcode, cond_true, Bool.and_eq_true, Nat.beq_eq] at h
      rw [Nat.beq_eq] at hcode
      simp [hcode, h.1, h.2]
    | false =>
      rw [hcode, cond_false] at h
      exact List.mem_cons_of_mem _ (ih h)

private theorem pair_of_pairsLowered {before rest l : List (Nat × Nat × Nat)}
    (h : pairsLowered before rest = true) (hbefore : before ⊆ l) (hrest : rest ⊆ l)
    (hpair : (code, first, second) ∈ rest) :
    (hasBit shiftedBits code = true ∧ (lowerCode code, lowerCode first, second) ∈ l) ∨
      hasBit shiftedBits code = false ∧ (hasBit shiftedBits first = false ∨ code = 0x130) := by
  induction rest generalizing before with
  | nil => cases hpair
  | cons pair rest ih =>
    obtain ⟨hhead, htail⟩ := List.cons_subset.mp hrest
    rw [pairsLowered, Bool.and_eq_true] at h
    rcases List.mem_cons.mp hpair with rfl | hpair
    · cases hshifted : hasBit shiftedBits code with
      | true =>
        rw [hshifted, cond_true] at h
        refine .inl ⟨rfl, ?_⟩
        rw [lowerCode, lowerCode, lowercaseCode_eq, lowercaseCode_eq]
        cases hside : code.blt (shiftedCode code lowercaseShifts) with
        | true =>
          rw [hside] at h
          exact htail (mem_of_hasPair h.1)
        | false =>
          rw [hside] at h
          exact hbefore (mem_of_hasPair h.1)
      | false =>
        rw [hshifted, cond_false, Bool.or_eq_true, Bool.not_eq_true', Nat.beq_eq] at h
        exact .inr ⟨rfl, h.1⟩
    · exact ih h.2 (List.cons_subset.mpr ⟨hhead, hbefore⟩) htail hpair

theorem pair_cases (h : (code, first, second) ∈ canonicalPairs) :
    (hasBit shiftedBits code = true ∧
        (lowerCode code, lowerCode first, second) ∈ canonicalPairs) ∨
      hasBit shiftedBits code = false ∧ (hasBit shiftedBits first = false ∨ code = 0x130) :=
  pair_of_pairsLowered loweredPairTables.1 (List.nil_subset _) (List.Subset.refl _) h

theorem pair_parts (h : (code, first, second) ∈ canonicalPairs) :
    hasBit specialBits first = false ∧ hasBit shiftedBits second = false ∧ 0x300 ≤ second := by
  have htable := List.all_eq_true.mp loweredPairTables.2 _ h
  simp only [Bool.and_eq_true, Bool.not_eq_true', Nat.ble_eq] at htable
  exact ⟨htable.1.1, htable.1.2, htable.2⟩

theorem hasBit_specialBits : hasBit specialBits code = true ↔ code ∈ 0x130 :: loweredSingles := by
  unfold specialBits
  exact hasBit_codeBits

private theorem ne_of_not_special (h : hasBit specialBits code = false) : code ≠ 0x130 := by
  rintro rfl
  rw [hasBit_specialBits.mpr List.mem_cons_self] at h
  cases h

private theorem single_cases (h : (code, other) ∈ canonicalSingles) :
    (hasBit specialBits code = true ∨ hasBit shiftedBits code = false) ∧
      (hasBit shiftedBits code = true ∨ hasBit shiftedBits other = false ∧ other ≠ 0x130) := by
  have htable := List.all_eq_true.mp loweredSingleTables _ h
  simpa using htable

theorem hasBit_mappedBits : hasBit mappedBits code = true ↔
    (∃ first second, (code, first, second) ∈ canonicalPairs) ∨
      ∃ other, (code, other) ∈ canonicalSingles := by
  unfold mappedBits
  rw [hasBit_codeBits]
  simp

theorem hasBit_mappedBits_eq_false : hasBit mappedBits code = false ↔
    (¬ ∃ first second, (code, first, second) ∈ canonicalPairs) ∧
      ¬ ∃ other, (code, other) ∈ canonicalSingles := by
  rw [← Bool.not_eq_true, hasBit_mappedBits, not_or]

theorem decomposeCode_of_not_mapped (hsyllable : Hangul.isSyllable code = false)
    (h : hasBit mappedBits code = false) (steps : Nat) : decomposeCode steps code = [code] := by
  obtain ⟨hnopair, hnosingle⟩ := hasBit_mappedBits_eq_false.mp h
  cases steps with
  | zero => rfl
  | succ steps =>
    rcases decomposeCode_cases steps code with
      hself | ⟨hparts, -⟩ | ⟨first, second, hpair, -⟩ | ⟨other, hsingle, -⟩
    · exact hself
    · rw [hsyllable] at hparts
      cases hparts
    · exact absurd ⟨first, second, hpair⟩ hnopair
    · exact absurd ⟨other, hsingle⟩ hnosingle

theorem Hangul.parts_bounds (hsyllable : isSyllable code = true) {part : Nat}
    (hpart : part ∈ parts code) : 0x1100 ≤ part ∧ part ≤ 0x11FF := by
  obtain ⟨hfirst, hlast⟩ := isSyllable_eq_true hsyllable
  unfold parts leadBase vowelBase tailBase syllableBase vowelCount tailCount at hpart
  dsimp only at hpart
  split at hpart <;> simp only [List.mem_cons, List.not_mem_nil, or_false] at hpart <;> omega

private theorem lowerCode_of_mem_decomposeCode {steps part : Nat}
    (h : hasBit shiftedBits code = false) (hdotted : code ≠ 0x130)
    (hpart : part ∈ decomposeCode steps code) : lowerCode part = part := by
  induction steps generalizing code with
  | zero =>
    rw [List.mem_singleton.mp hpart]
    exact lowerCode_eq_self h
  | succ steps ih =>
    rcases decomposeCode_cases steps code with
      hself | ⟨hsyllable, hparts⟩ | ⟨first, second, hpair, hparts⟩ | ⟨other, hsingle, hparts⟩
    · rw [hself] at hpart
      rw [List.mem_singleton.mp hpart]
      exact lowerCode_eq_self h
    · rw [hparts] at hpart
      have hbounds := Hangul.parts_bounds hsyllable hpart
      rcases lowerCode_cases part with hself | hlow
      · exact hself
      · have hunjoined := hlow.unjoined
        omega
    · obtain ⟨hspecial, hsecond, hfar⟩ := pair_parts hpair
      rcases pair_cases hpair with ⟨hshifted, -⟩ | ⟨-, hfirst | hcode⟩
      · rw [h] at hshifted
        cases hshifted
      · rw [hparts] at hpart
        rcases List.mem_append.mp hpart with hpart | hpart
        · exact ih hfirst (ne_of_not_special hspecial) hpart
        · exact ih hsecond (by omega) hpart
      · exact absurd hcode hdotted
    · rcases (single_cases hsingle).2 with hshifted | ⟨hother, hdotted⟩
      · rw [h] at hshifted
        cases hshifted
      · exact ih hother hdotted (hparts ▸ hpart)

private theorem map_lowerCode_decomposeCode (h : hasBit shiftedBits code = false)
    (hdotted : code ≠ 0x130) (steps : Nat) :
    (decomposeCode steps code).map lowerCode = decomposeCode steps code :=
  (List.map_congr_left fun _ hpart => lowerCode_of_mem_decomposeCode h hdotted hpart).trans
    (List.map_id _)

/-- A code point in lower case is decomposed into the parts of the code point in lower case. -/
theorem decomposeCode_lowerCode (h : hasBit specialBits code = false) (steps : Nat) :
    decomposeCode steps (lowerCode code) = (decomposeCode steps code).map lowerCode := by
  induction steps generalizing code with
  | zero => rfl
  | succ steps ih =>
    cases hshifted : hasBit shiftedBits code with
    | false =>
      rw [lowerCode_eq_self hshifted,
        map_lowerCode_decomposeCode hshifted (ne_of_not_special h)]
    | true =>
      cases hmapped : hasBit mappedBits code with
      | true =>
        rcases hasBit_mappedBits.mp hmapped with ⟨first, second, hpair⟩ | ⟨other, hsingle⟩
        · obtain ⟨hspecial, hsecond, hfar⟩ := pair_parts hpair
          rcases pair_cases hpair with ⟨-, hlowered⟩ | ⟨hunshifted, -⟩
          -- Both cases are mapped to pairs with the same second part, which has no lowercase form.
          · rw [decomposeCode_of_pair hpair, decomposeCode_of_pair hlowered, ih hspecial,
              List.map_append, map_lowerCode_decomposeCode hsecond (by omega)]
          · rw [hshifted] at hunshifted
            cases hunshifted
        · rcases (single_cases hsingle).1 with hspecial | hunshifted
          · rw [h] at hspecial
            cases hspecial
          · rw [hshifted] at hunshifted
            cases hunshifted
      | false =>
        have hplain := isValidChar_of_isPlainCode (isPlainCode_of_shifted hshifted)
        have hbare := decomposeCode_of_not_mapped hplain.2 hmapped (steps + 1)
        rcases lowerCode_cases code with hself | hlow
        · rw [hself, hbare, List.map_singleton, hself]
        · have hunmapped : hasBit mappedBits (lowerCode code) = false := by
            by_contra hlowered
            rw [hlow.mapped (Bool.eq_true_of_not_eq_false hlowered)] at hmapped
            cases hmapped
          have hplainlow := isValidChar_of_isPlainCode hlow.plain.2
          rw [hbare, decomposeCode_of_not_mapped hplainlow.2 hunmapped, List.map_singleton]

end Code

section Char

variable {c : Char}

private theorem loweredSingles_decomposition : ∀ code ∈ loweredSingles,
    decomposeCode mappingDepth (lowerCode code) =
      (decomposeCode mappingDepth code).map lowerCode := by
  decide +kernel

private theorem isValidChar_lowerCode {code : Nat} (h : code.isValidChar) :
    (lowerCode code).isValidChar := by
  rcases lowerCode_cases code with hself | hlow
  · rwa [hself]
  · exact (isValidChar_of_isPlainCode hlow.plain.2).1

theorem toNat_lowered (c : Char) : (lowered c).toNat = lowerCode c.toNat :=
  toNat_ofNat (isValidChar_lowerCode c.valid)

private theorem lowered_ofNat (code : Nat) : lowered (.ofNat code) = .ofNat (lowerCode code) := by
  by_cases hvalid : code.isValidChar
  · rw [lowered, toNat_ofNat hvalid]
  · rcases lowerCode_cases code with hself | hlow
    · rw [hself, ofNat_of_not_isValidChar hvalid]
      decide
    · exact absurd (isValidChar_of_isPlainCode hlow.plain.1).1 hvalid

theorem lowercaseChar_eq (h : c ≠ 'İ') : lowercaseChar c = [lowered c] := by
  rw [lowercaseChar, if_neg h]
  rfl

theorem lowercaseChar_lowered (c : Char) : lowercaseChar (lowered c) = lowercaseChar c := by
  by_cases hdotted : c = 'İ'
  · subst hdotted
    decide
  · have hlow : lowered c ≠ 'İ' := by
      intro hsame
      have hcode : lowerCode c.toNat = 0x130 := by
        rw [← toNat_lowered, hsame]
        rfl
      rcases lowerCode_cases c.toNat with hself | hlow
      · exact hdotted (Char.toNat_inj.mp (hself.symm.trans hcode))
      · exact hlow.settled.2 hcode
    rw [lowercaseChar_eq hlow, lowercaseChar_eq hdotted, lowered, toNat_lowered,
      lowerCode_lowerCode, lowered]

theorem lowered_of_isMark (h : isMark c = true) : lowered c = c := by
  have hdotted : c ≠ 'İ' := by
    rintro rfl
    exact absurd h (by decide)
  have hlow := lowercaseChar_of_isMark h
  rwa [lowercaseChar_eq hdotted, List.singleton_inj] at hlow

theorem isMark_lowered (c : Char) : isMark (lowered c) = isMark c := by
  cases hmark : isMark c with
  | true => rw [lowered_of_isMark hmark, hmark]
  | false =>
    rw [isMark, toNat_lowered]
    rcases lowerCode_cases c.toNat with hself | hlow
    · rw [hself]
      exact hmark
    · exact hasBit_markBits.symm.trans hlow.bare

theorem combiningClass_lowered (c : Char) : combiningClass (lowered c) = combiningClass c := by
  cases hmark : isMark c with
  | true => rw [lowered_of_isMark hmark]
  | false =>
    rw [combiningClass_of_not_isMark hmark,
      combiningClass_of_not_isMark ((isMark_lowered c).trans hmark)]

theorem flatMap_decomposition_lowercaseChar (c : Char) :
    (lowercaseChar c).flatMap decomposition = (decomposition c).map lowered := by
  by_cases hdotted : c = 'İ'
  · subst hdotted
    decide +kernel
  · have hparts : decomposeCode mappingDepth (lowerCode c.toNat) =
        (decomposeCode mappingDepth c.toNat).map lowerCode := by
      cases hspecial : hasBit specialBits c.toNat with
      | false => exact decomposeCode_lowerCode hspecial mappingDepth
      | true =>
        rcases List.mem_cons.mp (hasBit_specialBits.mp hspecial) with hcode | hcode
        · exact absurd (Char.toNat_inj.mp hcode) hdotted
        · exact loweredSingles_decomposition c.toNat hcode
    rw [lowercaseChar_eq hdotted, List.flatMap_singleton, decomposition, decomposition,
      toNat_lowered, hparts, List.map_map, List.map_map]
    exact List.map_congr_left fun part _ => (lowered_ofNat part).symm

end Char

section Text

variable {f : Char → Char} (hf : ∀ c, combiningClass (f c) = combiningClass c)

include hf

private theorem insertMark_map (c : Char) (text : List Char) :
    insertMark (f c) (text.map f) = (insertMark c text).map f := by
  induction text with
  | nil => rfl
  | cons mark rest ih =>
    rw [List.map_cons, insertMark, insertMark, hf, hf, ih]
    split <;> rfl

private theorem orderMarks_map (text : List Char) :
    orderMarks (text.map f) = (orderMarks text).map f := by
  induction text with
  | nil => rfl
  | cons c rest ih => rw [List.map_cons, orderMarks, orderMarks, ih, insertMark_map hf]

end Text

/-- The decomposed form of a text in lower case is the decomposed form of the text, each character
in lower case. -/
theorem decomposed_lowercaseChar (text : List Char) :
    decomposed (text.flatMap lowercaseChar) = (decomposed text).map lowered := by
  rw [decomposed, decomposed, ← orderMarks_map combiningClass_lowered, List.flatMap_assoc,
    List.map_flatMap]
  simp only [flatMap_decomposition_lowercaseChar]

end PagedSearch.Unicode
