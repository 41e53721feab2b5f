import Mathlib.Data.List.Nodup
import PagedSearch.Proofs.Unicode.Lowering

/-!
# Joined characters

A character that a pair is joined to is decomposed into the parts of the first and those of the
second. The forms of a letter are joined to the same marks in both cases, so a letter in lower case
with what stands behind it is composed to what the letter is composed to, in lower case.
-/

namespace PagedSearch.Unicode

def chained : Nat → List Nat
  | 0 => canonicalPairs.map Prod.fst
  | steps + 1 => joinedTo (chained steps)

private theorem chainTables :
    chained 3 = [] ∧
    (canonicalPairs.all fun (_, first, second) =>
      isPlainCode first && isPlainCode second && !hasBit mappedBits second &&
        !hasBit (codeBits (canonicalSingles.map Prod.fst)) first) = true ∧
    ∀ code ∈ List.range' 0x1100 0x100, hasBit mappedBits code = false := by
  decide +kernel

def joins (codes : List Nat) : List (Nat × Nat × Nat) :=
  canonicalPairs.filter fun (_, first, _) => hasBit (codeBits codes) first

/-- What the tables say of the joins of a letter: a pair is joined to one character only,
composition produces it, and the capital is joined to what the small letter is joined to. -/
@[mk_iff]
structure HasJoins (base : Char) : Prop where
  distinct : ((joins (letterForms (bothCases base))).map Prod.snd).Nodup
  produced : ∀ code ∈ letterForms (bothCases base), inRanges compositionExclusions code = false
  shared : ∀ pair ∈ joins (letterForms (bothCases base)), ∀ code ∈ letterForms (bothCases base),
    Nat.beq (shiftedCode code lowercaseShifts) pair.2.1 = true →
      ((joins (letterForms (bothCases base))).any fun other =>
        Nat.beq other.2.1 code && Nat.beq other.2.2 pair.2.2) = true

instance (base : Char) : Decidable (HasJoins base) := decidable_of_iff' _ (hasJoins_iff base)

private theorem hasJoins {base : Char} (hbase : base ∈ baseLetters) : HasJoins base := by
  have htable : (baseLetters.all fun base => decide (HasJoins base)) = true := by decide +kernel
  exact of_decide_eq_true (List.all_eq_true.mp htable base hbase)

section Code

variable {code first second : Nat}

private theorem pair_unique {other left right : Nat}
    (hpair : (code, first, second) ∈ canonicalPairs)
    (hother : (other, left, right) ∈ canonicalPairs) (h : code = other) :
    first = left ∧ second = right := by
  subst h
  have hsorted := List.isChain_iff_pairwise.mp pairTables.1
  have hsame := (lookup_of_mem hsorted hpair).symm.trans (lookup_of_mem hsorted hother)
  simpa using hsame

private theorem pair_parts_plain (hpair : (code, first, second) ∈ canonicalPairs) :
    Hangul.isSyllable first = false ∧ (∀ other, (first, other) ∉ canonicalSingles) ∧
      Hangul.isSyllable second = false ∧ hasBit mappedBits second = false := by
  have htable := List.all_eq_true.mp chainTables.2.1 _ hpair
  simp only [Bool.and_eq_true, Bool.not_eq_true'] at htable
  obtain ⟨⟨⟨hfirst, hsecond⟩, hunmapped⟩, hsingle⟩ := htable
  refine ⟨(isValidChar_of_isPlainCode hfirst).2, fun other hother => ?_,
    (isValidChar_of_isPlainCode hsecond).2, hunmapped⟩
  rw [hasBit_codeBits.mpr (List.mem_map_of_mem hother)] at hsingle
  cases hsingle

private theorem decomposeCode_succ {steps : Nat} (hsyllable : Hangul.isSyllable code = false)
    (hsingle : ∀ other, (code, other) ∉ canonicalSingles) (h : code ∉ chained steps) :
    decomposeCode (steps + 1) code = decomposeCode steps code := by
  have hnosingle : ¬ ∃ other, (code, other) ∈ canonicalSingles := not_exists.mpr hsingle
  induction steps generalizing code with
  | zero =>
    have hnopair : ¬ ∃ first second, (code, first, second) ∈ canonicalPairs :=
      fun ⟨first, second, hpair⟩ => h (List.mem_map_of_mem hpair)
    have hunmapped := hasBit_mappedBits_eq_false.mpr ⟨hnopair, hnosingle⟩
    exact decomposeCode_of_not_mapped hsyllable hunmapped 1
  | succ steps ih =>
    by_cases hpair : ∃ first second, (code, first, second) ∈ canonicalPairs
    · obtain ⟨first, second, hpair⟩ := hpair
      obtain ⟨hfirst, hsingles, hplain, hunmapped⟩ := pair_parts_plain hpair
      have hsecond := decomposeCode_of_not_mapped hplain hunmapped
      have hchained : first ∉ chained steps := fun hmem =>
        h (mem_joinedTo.mpr ⟨first, hmem, second, hpair⟩)
      -- Only the first part can be mapped again, so the chain goes on with it alone.
      rw [decomposeCode_of_pair hpair, decomposeCode_of_pair hpair, hsecond, hsecond,
        ih hfirst hsingles hchained (not_exists.mpr hsingles)]
    · have hunmapped := hasBit_mappedBits_eq_false.mpr ⟨hpair, hnosingle⟩
      rw [decomposeCode_of_not_mapped hsyllable hunmapped,
        decomposeCode_of_not_mapped hsyllable hunmapped]

private theorem decomposeCode_of_join (hpair : (code, first, second) ∈ canonicalPairs) :
    decomposeCode mappingDepth code =
      decomposeCode mappingDepth first ++ decomposeCode mappingDepth second := by
  obtain ⟨hsyllable, hsingle, hplain, hunmapped⟩ := pair_parts_plain hpair
  have hsecond := decomposeCode_of_not_mapped hplain hunmapped
  have hchained : first ∉ chained 3 := by simp [chainTables.1]
  have hfirst : decomposeCode mappingDepth first = decomposeCode 3 first :=
    decomposeCode_succ hsyllable hsingle hchained
  rw [hfirst, hsecond, ← hsecond 3]
  exact decomposeCode_of_pair hpair 3

private theorem Hangul.part_unmapped (hcode : 0x1100 ≤ code ∧ code < 0x1200) :
    hasBit mappedBits code = false :=
  chainTables.2.2 code (List.mem_range'_1.mpr hcode)

private theorem Hangul.decomposeCode_part {steps : Nat} (hcode : 0x1100 ≤ code ∧ code < 0x1200) :
    decomposeCode steps code = [code] :=
  decomposeCode_of_not_mapped (isSyllable_eq_false (by omega)) (part_unmapped hcode) steps

private theorem Hangul.decomposeCode_syllable {steps : Nat} (hsyllable : isSyllable code = true) :
    decomposeCode (steps + 1) code = parts code := by
  obtain ⟨hfirst, -⟩ := isSyllable_eq_true hsyllable
  rw [decomposeCode, if_neg (by omega), if_pos hsyllable]

private theorem Hangul.isSyllable_of_bounds (hfirst : 0xAC00 ≤ code) (hlast : code < 0xD7A4) :
    isSyllable code = true := by
  rw [isSyllable, Bool.and_eq_true, decide_eq_true_eq, decide_eq_true_eq]
  exact ⟨hfirst, hlast⟩

theorem Hangul.parts_of_join? {syllable : Nat} (h : join? first second = some syllable) :
    isSyllable syllable = true ∧ (0x1100 ≤ second ∧ second < 0x1200) ∧
      ((0x1100 ≤ first ∧ first < 0x1200) ∧ parts syllable = [first, second] ∨
        isSyllable first = true ∧ parts syllable = parts first ++ [second]) := by
  unfold parts
  rw [join?] at h
  unfold leadBase vowelBase tailBase syllableBase leadCount vowelCount tailCount at *
  dsimp only
  split at h
  · rename_i hrange
    simp only [Bool.and_eq_true, decide_eq_true_eq] at hrange
    have hcode := Option.some.inj h
    have hindex : (syllable - 0xAC00) / (21 * 28) = first - 0x1100 ∧
        (syllable - 0xAC00) % (21 * 28) / 28 = second - 0x1161 ∧
        (syllable - 0xAC00) % 28 = 0 := by omega
    obtain ⟨hlead, hvowel, htail⟩ := hindex
    refine ⟨isSyllable_of_bounds (by omega) (by omega), by omega, .inl ⟨by omega, ?_⟩⟩
    rw [hlead, hvowel, if_pos htail, Nat.add_sub_cancel' hrange.1.1.1,
      Nat.add_sub_cancel' hrange.1.2]
  split at h
  · rename_i hrange
    simp only [Bool.and_eq_true, decide_eq_true_eq, beq_iff_eq] at hrange
    obtain ⟨⟨⟨hsyllable, hopen⟩, hfirst⟩, hlast⟩ := hrange
    obtain ⟨hlow, hhigh⟩ := isSyllable_eq_true hsyllable
    have hcode := Option.some.inj h
    have hindex : (syllable - 0xAC00) / (21 * 28) = (first - 0xAC00) / (21 * 28) ∧
        (syllable - 0xAC00) % (21 * 28) / 28 = (first - 0xAC00) % (21 * 28) / 28 ∧
        (syllable - 0xAC00) % 28 = second - 0x11A7 := by omega
    obtain ⟨hlead, hvowel, htail⟩ := hindex
    refine ⟨isSyllable_of_bounds (by omega) (by omega), by omega, .inr ⟨hsyllable, ?_⟩⟩
    rw [hlead, hvowel, htail, if_neg (by omega), if_pos hopen, Nat.add_sub_cancel' hfirst.le]
    rfl
  · cases h

private theorem Hangul.decomposeCode_of_join? {syllable : Nat}
    (h : join? first second = some syllable) :
    decomposeCode mappingDepth syllable =
      decomposeCode mappingDepth first ++ decomposeCode mappingDepth second := by
  obtain ⟨hsyllable, hsecond, ⟨hfirst, hparts⟩ | ⟨hfirst, hparts⟩⟩ := parts_of_join? h
  · rw [mappingDepth, decomposeCode_syllable hsyllable, hparts, decomposeCode_part hfirst,
      decomposeCode_part hsecond, List.singleton_append]
  · rw [mappingDepth, decomposeCode_syllable hsyllable, hparts, decomposeCode_syllable hfirst,
      decomposeCode_part hsecond]

end Code

section Char

variable {c m joined : Char}

theorem decomposition_of_composite? (h : composite? c m = some joined) :
    decomposition joined = decomposition c ++ decomposition m := by
  have hparts {code : Nat} (hvalid : code.isValidChar)
      (hcode : decomposeCode mappingDepth code =
        decomposeCode mappingDepth c.toNat ++ decomposeCode mappingDepth m.toNat) :
      decomposition (.ofNat code) = decomposition c ++ decomposition m := by
    rw [decomposition, toNat_ofNat hvalid, hcode, List.map_append, decomposition, decomposition]
  obtain ⟨-, ⟨syllable, hsyllable, rfl⟩ | ⟨code, hpair, rfl⟩⟩ := composite?_cases h
  · have hbounds := Hangul.isSyllable_eq_true (Hangul.parts_of_join? hsyllable).1
    have hvalid : syllable.isValidChar := .inl (by omega)
    exact hparts hvalid (Hangul.decomposeCode_of_join? hsyllable)
  · exact hparts (pair_bounds hpair).2.1 (decomposeCode_of_join hpair)

theorem second_of_composite? (h : composite? c m = some joined) :
    0x300 ≤ m.toNat ∧ lowerCode m.toNat = m.toNat ∧ hasBit mappedBits m.toNat = false := by
  obtain ⟨hfar, ⟨syllable, hsyllable, -⟩ | ⟨code, hpair, -⟩⟩ := composite?_cases h
  · have hbounds := (Hangul.parts_of_join? hsyllable).2.1
    refine ⟨hfar, ?_, Hangul.part_unmapped hbounds⟩
    rcases lowerCode_cases m.toNat with hself | hlow
    · exact hself
    · have hunjoined := hlow.unjoined
      omega
  · exact ⟨hfar, lowerCode_eq_self (pair_parts hpair).2.1, (pair_parts_plain hpair).2.2.2⟩

private theorem mem_joins {base : Char} {code second : Nat} (h : IsForm base c) :
    (code, c.toNat, second) ∈ joins (letterForms (bothCases base)) ↔
      (code, c.toNat, second) ∈ canonicalPairs := by
  rw [joins, List.mem_filter]
  exact and_iff_left (hasBit_codeBits.mpr h)

private theorem angstrom_not_mem_decomposeCode {code : Nat} (h : code ≠ 0x212B) (steps : Nat) :
    0x212B ∉ decomposeCode steps code := by
  have hsingles : (canonicalSingles.all (·.2 != 0x212B)) = true := by
    decide +kernel
  have hmapped : hasBit mappedBits 0x212B = true := by
    decide +kernel
  induction steps generalizing code with
  | zero => simpa [decomposeCode] using h.symm
  | succ steps ih =>
    rcases decomposeCode_cases steps code with
      hself | ⟨hsyllable, hparts⟩ | ⟨first, second, hpair, hparts⟩ | ⟨other, hsingle, hparts⟩
    · simpa [hself] using h.symm
    · intro hpart
      rw [hparts] at hpart
      have hbounds := Hangul.parts_bounds hsyllable hpart
      omega
    · have hfirst : first ≠ 0x212B := by
        rintro rfl
        have hspecial := (pair_parts hpair).1
        rw [hasBit_specialBits.mpr (by decide)] at hspecial
        cases hspecial
      have hsecond : second ≠ 0x212B := by
        rintro rfl
        rw [(pair_parts_plain hpair).2.2.2] at hmapped
        cases hmapped
      rw [hparts]
      exact List.not_mem_append (ih hfirst) (ih hsecond)
    · have hother := List.all_eq_true.mp hsingles _ hsingle
      rw [hparts]
      exact ih (by simpa using hother)

theorem angstrom_not_mem_decomposed (text : List Char) : '\u212B' ∉ decomposed text := by
  intro hmem
  obtain ⟨c, -, hpart⟩ := List.mem_flatMap.mp ((orderMarks_perm _).mem_iff.mp hmem)
  obtain ⟨code, hcode, hchar⟩ := List.mem_map.mp hpart
  have hangstrom : code = 0x212B := by
    by_cases hvalid : code.isValidChar
    · rw [← toNat_ofNat hvalid, hchar]
      rfl
    · rw [ofNat_of_not_isValidChar hvalid] at hchar
      exact absurd hchar (by decide)
  rw [hangstrom] at hcode
  by_cases hself : c.toNat = 0x212B
  · have hparts : decomposeCode mappingDepth 0x212B = [0x41, 0x30A] := by decide +kernel
    rw [hself, hparts] at hcode
    exact absurd hcode (by decide)
  · exact angstrom_not_mem_decomposeCode hself mappingDepth hcode

section Inert

variable {starter : Char} (hbehind : ∀ second, composite? starter second = none)

include hbehind

private theorem composeFrom_inert (marks text : List Char) :
    composeFrom starter marks text = starter :: (marks.reverse ++ compose text) := by
  induction text generalizing marks with
  | nil => rw [composeFrom, compose, List.append_nil]
  | cons c rest ih =>
    rcases composeFrom_step starter marks c with
      ⟨joined, hjoined, -⟩ | ⟨hc, hstep⟩ | ⟨hc, hstep⟩
    · rw [hbehind] at hjoined
      cases hjoined
    · rw [hstep, compose, if_pos hc]
    · rw [hstep, ih, compose, if_neg hc, List.reverse_cons, List.append_assoc,
        List.singleton_append]

variable (hbefore : ∀ first, composite? first starter = none)
  (hclass : combiningClass starter = 0) (hdecomposition : decomposition starter = [starter])

include hbefore hclass hdecomposition

theorem composed_append_inert (front rest : List Char) :
    composed (front ++ starter :: rest) = composed front ++ starter :: composed rest := by
  rw [composed, decomposed, List.flatMap_append, List.flatMap_cons, hdecomposition,
    List.singleton_append, orderMarks_append_starter hclass,
    compose_append_starter hclass hbefore, composeFrom_inert hbehind, List.reverse_nil,
    List.nil_append, composed, decomposed, composed, decomposed]

end Inert

section Letter

variable {base : Char} (hbase : base ∈ baseLetters)

include hbase

theorem isForm_lowered (h : IsForm base c) :
    IsForm base (lowered c) ∧ (lowered c).toNat ∈ letterForms [base.toNat] := by
  have hsmall : [base.toNat] ⊆ bothCases base := by simp [bothCases]
  have hlow := (lowercaseCode_letterForms hbase h).2
  rw [IsForm, toNat_lowered]
  exact ⟨letterForms_subset hsmall hlow, hlow⟩

theorem isMark_of_isForm (h : IsForm base c) : isMark c = false := by
  by_contra hmark
  rw [Bool.not_eq_false] at hmark
  obtain ⟨low, hlow, -, marks, hparts, -⟩ := h.lowercase hbase
  rw [lowercaseChar_of_isMark hmark, List.singleton_inj] at hlow
  subst hlow
  have hletters : baseLetters.any isMark = false := by decide
  have hpart : base ∈ decomposition c := hparts ▸ List.mem_cons_self
  exact List.any_eq_false.mp hletters base hbase (isMark_of_mem_decomposition hmark hpart)

theorem isForm_cases (h : IsForm base c) :
    (c.toNat < 0x300 ∧ ∀ first second, (c.toNat, first, second) ∉ canonicalPairs) ∨
      ∃ first ∈ letterForms (bothCases base), ∃ second,
        (c.toNat, first, second) ∈ canonicalPairs := by
  have hjoined {codes : List Nat} (hcodes : codes ⊆ letterForms (bothCases base))
      (hmem : c.toNat ∈ joinedTo codes) : ∃ first ∈ letterForms (bothCases base), ∃ second,
        (c.toNat, first, second) ∈ canonicalPairs := by
    obtain ⟨first, hfirst, second, hpair⟩ := mem_joinedTo.mp hmem
    exact ⟨first, hcodes hfirst, second, hpair⟩
  rw [IsForm, letterForms, List.mem_append, List.mem_append] at h
  rcases h with (hletter | honce) | htwice
  · obtain ⟨hlow, hunmapped⟩ := (hasForms hbase).unmapped _ hletter
    refine .inl ⟨hlow, fun first second hpair => ?_⟩
    rcases hunmapped with hbasic | ⟨hnone, -⟩
    · exact absurd (pair_bounds hpair).1 (Nat.not_le.mpr hbasic)
    · rw [lookup_of_mem (List.isChain_iff_pairwise.mp pairTables.1) hpair] at hnone
      cases hnone
  · exact .inr (hjoined (fun _ hmem => by simp [letterForms, hmem]) honce)
  · exact .inr (hjoined (fun _ hmem => by simp [letterForms, hmem]) htwice)

/-- Only a form of a letter is composed to a form of the letter. -/
theorem isForm_of_composite? (h : composite? c m = some joined) (hjoined : IsForm base joined) :
    IsForm base c := by
  obtain ⟨-, ⟨syllable, hsyllable, rfl⟩ | ⟨code, hpair, rfl⟩⟩ := composite?_cases h
  · obtain ⟨hfirst, hlast⟩ := Hangul.isSyllable_eq_true (Hangul.parts_of_join? hsyllable).1
    have hlow := ((hasForms hbase).bounds _ hjoined).2.1
    rw [toNat_ofNat (.inl (by omega))] at hlow
    omega
  · have hcode := toNat_ofNat (pair_bounds hpair).2.1
    rcases isForm_cases hbase hjoined with ⟨-, hnone⟩ | ⟨first, hfirst, second, hother⟩
    · exact absurd (hcode.symm ▸ hpair) (hnone c.toNat m.toNat)
    · rw [IsForm, (pair_unique hpair hother hcode.symm).1]
      exact hfirst

private theorem composite?_eq_some_iff (h : IsForm base c) :
    composite? c m = some joined ↔ (joined.toNat, c.toNat, m.toNat) ∈ canonicalPairs := by
  obtain ⟨-, hlow, hrange, -⟩ := (hasForms hbase).bounds _ h
  have hapart := Hangul.join?_eq_none (by omega) hrange m.toNat
  constructor
  · intro hjoined
    obtain ⟨-, ⟨syllable, hsyllable, -⟩ | ⟨code, hpair, rfl⟩⟩ := composite?_cases hjoined
    · rw [hapart] at hsyllable
      cases hsyllable
    · rwa [toNat_ofNat (pair_bounds hpair).2.1]
  · intro hpair
    rw [composite?, if_neg (Nat.not_lt.mpr (pair_parts hpair).2.2), hapart]
    dsimp only
    split
    · rename_i code pair hfind
      obtain rfl : pair = (c.toNat, m.toNat) := by simpa using List.find?_some hfind
      have hfound := List.mem_of_find?_eq_some hfind
      have hsame := List.inj_on_of_nodup_map (hasJoins hbase).distinct
        ((mem_joins h).mpr hfound) ((mem_joins h).mpr hpair) rfl
      obtain rfl : code = joined.toNat := congrArg Prod.fst hsame
      have hproduced := (hasJoins hbase).produced _ (mem_letterForms_of_pair hbase h hpair)
      rw [hproduced, if_neg Bool.false_ne_true, Char.ofNat_toNat]
    · rename_i hfind
      have hnone := List.find?_eq_none.mp hfind _ hpair
      simp at hnone

private theorem composite?_lowered (h : IsForm base c) (m : Char) :
    composite? (lowered c) (lowered m) = (composite? c m).map lowered := by
  have hlow := (isForm_lowered hbase h).1
  cases hjoined : composite? c m with
  | some joined =>
    obtain ⟨hform, hmark⟩ := IsForm.composite hbase h hjoined
    have hdotted := ((hasForms hbase).bounds _ hform).2.2.2
    have hpair := (composite?_eq_some_iff hbase h).mp hjoined
    rw [Option.map_some, composite?_eq_some_iff hbase hlow, lowered_of_isMark hmark, toNat_lowered,
      toNat_lowered]
    rcases pair_cases hpair with ⟨-, hlowered⟩ | ⟨hcode, hfirst | hspecial⟩
    · exact hlowered
    · rwa [lowerCode_eq_self hcode, lowerCode_eq_self hfirst]
    · exact absurd hspecial hdotted
  | none =>
    rw [Option.map_none]
    by_contra hsome
    obtain ⟨joined, hlowered⟩ := Option.ne_none_iff_exists'.mp hsome
    have hmark := (isMark_lowered m).symm.trans (IsForm.composite hbase hlow hlowered).2
    rw [lowered_of_isMark hmark, composite?_eq_some_iff hbase hlow, ← mem_joins hlow] at hlowered
    have hfirst : Nat.beq (shiftedCode c.toNat lowercaseShifts) (lowered c).toNat = true := by
      rw [Nat.beq_eq, toNat_lowered, lowerCode, lowercaseCode_eq]
    have hshared := (hasJoins hbase).shared _ hlowered c.toNat h hfirst
    obtain ⟨⟨code, first, second⟩, hpair, hsame⟩ := List.any_eq_true.mp hshared
    simp only [Bool.and_eq_true, Nat.beq_eq] at hsame
    obtain ⟨rfl, rfl⟩ := hsame
    rw [mem_joins h] at hpair
    have hjoin : composite? c m = some (.ofNat code) := by
      rwa [composite?_eq_some_iff hbase h, toNat_ofNat (pair_bounds hpair).2.1]
    rw [hjoined] at hjoin
    cases hjoin

private theorem attached?_lowered (h : IsForm base c) (marks : List Char) (m : Char) :
    attached? (lowered c) (marks.map lowered) (lowered m) = (attached? c marks m).map lowered := by
  unfold attached?
  rw [composite?_lowered hbase h]
  cases marks with
  | nil => rfl
  | cons mark marks =>
    simp only [List.map_cons, combiningClass_lowered]
    split <;> rfl

theorem head?_composeFrom_lowered (h : IsForm base c) (marks text : List Char) :
    (composeFrom (lowered c) (marks.map lowered) (text.map lowered)).head? =
      (composeFrom c marks text).head?.map lowered := by
  induction text generalizing c marks with
  | nil => simp [composeFrom]
  | cons m rest ih =>
    rw [List.map_cons, composeFrom_cons, composeFrom_cons, attached?_lowered hbase h,
      combiningClass_lowered]
    cases hjoined : attached? c marks m with
    | some joined =>
      have hform := (IsForm.composite hbase h (Option.ite_none_right_eq_some.mp hjoined).2).1
      exact ih hform marks
    | none =>
      rw [Option.map_none, Option.elim_none, Option.elim_none]
      split
      · rfl
      · exact ih h (m :: marks)

end Letter

end Char

end PagedSearch.Unicode
