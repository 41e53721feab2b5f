import Mathlib.Data.List.Chain
import Mathlib.Tactic.MkIffOfInductiveProp
import PagedSearch.Proofs.Unicode.Composition

/-!
# Forms of letters

The forms of a letter are the characters that marks join it to, one after the other. A form is
decomposed into the letter and marks, what is joined to a form is a form again, and lowercasing
leads from the forms of a letter to those of the small letter.
-/

namespace PagedSearch.Unicode

def joinedTo (codes : List Nat) : List Nat :=
  canonicalPairs.filterMap fun (code, first, _) =>
    bif hasBit (codeBits codes) first then some code else none

def letterForms (letters : List Nat) : List Nat :=
  letters ++ joinedTo letters ++ joinedTo (joinedTo letters)

def bothCases (base : Char) : List Nat := [base.toNat, base.toNat - 0x20]

def baseLetters : List Char := ['a', 'o', 'æ', 'ø']

theorem pairTables :
    (canonicalPairs.map Prod.fst).IsChain (· < ·) ∧
    (canonicalPairs.all fun (code, first, second) =>
      Nat.ble 0xC0 code && Nat.blt code 0x110000 &&
        (Nat.blt code 0xAC00 || Nat.blt 0xDFFF code) &&
        (Nat.ble 0x2000 first || hasBit markBits second)) = true := by
  decide +kernel

/-- What the tables say of a small letter and its capital: no mark is joined to what two marks are
joined to, the letters themselves have no mapping, and lowercasing leads from their forms to those
of the small letter. Besides them only the angstrom sign is led there. -/
@[mk_iff]
structure HasForms (base : Char) : Prop where
  closed : joinedTo (joinedTo (joinedTo (bothCases base))) = []
  unmapped : ∀ letter ∈ bothCases base, letter < 0x300 ∧ (letter < 0xC0 ∨
    canonicalPairs.lookup letter = none ∧ canonicalSingles.lookup letter = none)
  bounds : ∀ code ∈ letterForms (bothCases base),
    0 < code ∧ code < 0x2000 ∧ (code < 0x1100 ∨ 0x1112 < code) ∧ code ≠ 0x130
  lowered : ∀ code ∈ letterForms (bothCases base), shiftedCode code lowercaseShifts ≠ 0xDF ∧
    hasBit (codeBits (letterForms [base.toNat])) (shiftedCode code lowercaseShifts) = true
  raised : ∀ shift ∈ lowercaseShifts, ∀ code ∈ shift.run.span,
    hasBit (codeBits (letterForms [base.toNat])) (code + shift.distance).toNat = true →
      hasBit (codeBits (letterForms (bothCases base))) code = true ∨ code = 0x212B

instance (base : Char) : Decidable (HasForms base) := decidable_of_iff' _ (hasForms_iff base)

theorem hasForms {base : Char} (hbase : base ∈ baseLetters) : HasForms base := by
  have htable : (baseLetters.all fun base => decide (HasForms base)) = true := by decide +kernel
  exact of_decide_eq_true (List.all_eq_true.mp htable base hbase)

section Code

variable {codes others letters : List Nat} {code first second : Nat}

theorem lookup_of_mem {α : Type} {l : List (Nat × α)} {a : α}
    (h : (l.map Prod.fst).Pairwise (· < ·)) (hmem : (code, a) ∈ l) : l.lookup code = some a := by
  obtain ⟨before, after, rfl⟩ := List.append_of_mem hmem
  rw [List.map_append, List.map_cons, List.pairwise_append] at h
  refine List.lookup_eq_some_iff.mpr ⟨before, after, rfl, fun entry hentry => ?_⟩
  have hlt := h.2.2 entry.1 (List.mem_map_of_mem hentry) code List.mem_cons_self
  simpa using (Nat.ne_of_lt hlt).symm

theorem mem_joinedTo :
    code ∈ joinedTo codes ↔ ∃ first ∈ codes, ∃ second, (code, first, second) ∈ canonicalPairs := by
  rw [joinedTo, List.mem_filterMap]
  constructor
  · rintro ⟨⟨joined, first, second⟩, hpair, hjoined⟩
    dsimp only at hjoined
    cases hbit : hasBit (codeBits codes) first with
    | false => simp [hbit] at hjoined
    | true =>
      simp only [hbit, cond_true, Option.some.injEq] at hjoined
      exact ⟨first, hasBit_codeBits.mp hbit, second, hjoined ▸ hpair⟩
  · rintro ⟨first, hfirst, second, hpair⟩
    exact ⟨_, hpair, by simp [hasBit_codeBits.mpr hfirst]⟩

private theorem joinedTo_subset (h : codes ⊆ others) : joinedTo codes ⊆ joinedTo others := by
  intro code hcode
  obtain ⟨first, hfirst, second, hpair⟩ := mem_joinedTo.mp hcode
  exact mem_joinedTo.mpr ⟨first, h hfirst, second, hpair⟩

theorem letterForms_subset (h : codes ⊆ others) : letterForms codes ⊆ letterForms others := by
  intro code hcode
  rw [letterForms, List.mem_append, List.mem_append] at hcode ⊢
  rcases hcode with (hcode | hcode) | hcode
  · exact .inl (.inl (h hcode))
  · exact .inl (.inr (joinedTo_subset h hcode))
  · exact .inr (joinedTo_subset (joinedTo_subset h) hcode)

theorem pair_bounds (hpair : (code, first, second) ∈ canonicalPairs) :
    0xC0 ≤ code ∧ code.isValidChar ∧ Hangul.isSyllable code = false := by
  have htable := List.all_eq_true.mp pairTables.2 _ hpair
  simp only [Bool.and_eq_true, Bool.or_eq_true, Nat.ble_eq, Nat.blt_eq] at htable
  obtain ⟨⟨⟨hfirst, hlast⟩, hrange⟩, -⟩ := htable
  refine ⟨hfirst, ?_, Hangul.isSyllable_eq_false hrange⟩
  unfold Nat.isValidChar
  omega

theorem isMarkCode_second (hpair : (code, first, second) ∈ canonicalPairs)
    (hfirst : first < 0x2000) : isMarkCode second = true := by
  have htable := List.all_eq_true.mp pairTables.2 _ hpair
  simp only [Bool.and_eq_true, Bool.or_eq_true, Nat.ble_eq] at htable
  rcases htable.2 with hfar | hbit
  · exact absurd hfirst (Nat.not_lt.mpr hfar)
  · rwa [hasBit_markBits] at hbit

theorem decomposeCode_of_pair (hpair : (code, first, second) ∈ canonicalPairs) (steps : Nat) :
    decomposeCode (steps + 1) code = decomposeCode steps first ++ decomposeCode steps second := by
  obtain ⟨hfirst, -, hsyllable⟩ := pair_bounds hpair
  have hlookup := lookup_of_mem (List.isChain_iff_pairwise.mp pairTables.1) hpair
  rw [decomposeCode, if_neg (Nat.not_lt.mpr hfirst), hsyllable, if_neg Bool.false_ne_true, hlookup]

def IsMarked (letters : List Nat) (steps code : Nat) : Prop :=
  ∃ letter ∈ letters, ∃ marks, decomposeCode steps code = letter :: marks ∧
    ∀ mark ∈ marks, isMarkCode mark = true

private theorem IsMarked.of_mem_joinedTo {steps : Nat}
    (h : ∀ first ∈ codes, first < 0x2000 ∧ IsMarked letters steps first)
    (hcode : code ∈ joinedTo codes) : IsMarked letters (steps + 1) code := by
  obtain ⟨first, hfirst, second, hpair⟩ := mem_joinedTo.mp hcode
  obtain ⟨hlow, letter, hletter, marks, hmarks, hall⟩ := h first hfirst
  have hsecond := isMarkCode_second hpair hlow
  refine ⟨letter, hletter, marks ++ decomposeCode steps second, ?_, ?_⟩
  · rw [decomposeCode_of_pair hpair, hmarks, List.cons_append]
  · intro mark hmark
    rcases List.mem_append.mp hmark with hmark | hmark
    · exact hall mark hmark
    · exact isMarkCode_of_mem_decomposeCode hsecond hmark

private theorem decomposeCode_of_unmapped (hsyllable : Hangul.isSyllable code = false)
    (h : code < 0xC0 ∨ canonicalPairs.lookup code = none ∧ canonicalSingles.lookup code = none)
    (steps : Nat) : decomposeCode steps code = [code] := by
  cases steps with
  | zero => rfl
  | succ steps =>
    rw [decomposeCode, hsyllable]
    rcases h with hlow | ⟨hpair, hsingle⟩
    · rw [if_pos hlow]
    · rw [hpair, hsingle]
      split <;> rfl

section Letter

variable {base : Char} (hbase : base ∈ baseLetters)

include hbase

theorem bothCases_bounds (hcode : code ∈ bothCases base) :
    code < 0x300 ∧ ∀ steps, decomposeCode steps code = [code] := by
  obtain ⟨hlow, hunmapped⟩ := (hasForms hbase).unmapped code hcode
  have hsyllable : Hangul.isSyllable code = false :=
    Hangul.isSyllable_eq_false (.inl (by omega))
  exact ⟨hlow, decomposeCode_of_unmapped hsyllable hunmapped⟩

theorem lowercaseCode_letterForms (hcode : code ∈ letterForms (bothCases base)) :
    lowercaseCode code lowercaseShifts ≠ 0xDF ∧
      lowercaseCode code lowercaseShifts ∈ letterForms [base.toNat] := by
  rw [lowercaseCode_eq, ← hasBit_codeBits]
  exact (hasForms hbase).lowered code hcode

theorem mem_letterForms_of_pair (hfirst : first ∈ letterForms (bothCases base))
    (hpair : (code, first, second) ∈ canonicalPairs) : code ∈ letterForms (bothCases base) := by
  have hjoined {codes : List Nat} (hcodes : first ∈ codes) : code ∈ joinedTo codes :=
    mem_joinedTo.mpr ⟨first, hcodes, second, hpair⟩
  rw [letterForms, List.mem_append, List.mem_append] at hfirst ⊢
  rcases hfirst with (hfirst | hfirst) | hfirst
  · exact .inl (.inr (hjoined hfirst))
  · exact .inr (hjoined hfirst)
  · have hnone := hjoined hfirst
    rw [(hasForms hbase).closed] at hnone
    cases hnone

theorem isMarked_of_mem_letterForms (hletters : letters ⊆ bothCases base)
    (hcode : code ∈ letterForms letters) : IsMarked letters mappingDepth code := by
  have hlow {codes : List Nat} (hcodes : codes ⊆ letterForms letters) :
      ∀ first ∈ codes, first < 0x2000 := by
    intro first hfirst
    exact ((hasForms hbase).bounds _ (letterForms_subset hletters (hcodes hfirst))).2.1
  have hbare (steps : Nat) : ∀ letter ∈ letters, IsMarked letters steps letter := by
    intro letter hletter
    have hsame := (bothCases_bounds hbase (hletters hletter)).2 steps
    exact ⟨letter, hletter, [], hsame, List.forall_mem_nil _⟩
  have honce (steps : Nat) : ∀ once ∈ joinedTo letters, IsMarked letters (steps + 1) once := by
    intro once hmem
    apply IsMarked.of_mem_joinedTo _ hmem
    intro letter hletter
    refine ⟨hlow (fun other hother => ?_) letter hletter, hbare steps letter hletter⟩
    simp [letterForms, hother]
  have htwice (steps : Nat) :
      ∀ twice ∈ joinedTo (joinedTo letters), IsMarked letters (steps + 2) twice := by
    intro twice hmem
    apply IsMarked.of_mem_joinedTo _ hmem
    intro once hjoined
    refine ⟨hlow (fun other hother => ?_) once hjoined, honce steps once hjoined⟩
    simp [letterForms, hother]
  rw [letterForms, List.mem_append, List.mem_append] at hcode
  rcases hcode with (hcode | hcode) | hcode
  · exact hbare 4 code hcode
  · exact honce 3 code hcode
  · exact htwice 2 code hcode

end Letter

end Code

section Char

variable {base c : Char} (hbase : base ∈ baseLetters)

def IsForm (base c : Char) : Prop := c.toNat ∈ letterForms (bothCases base)

theorem exists_decomposition {letters : List Nat} (h : IsMarked letters mappingDepth c.toNat) :
    ∃ letter ∈ letters, ∃ marks, decomposition c = .ofNat letter :: marks ∧
      ∀ mark ∈ marks, isMark mark = true := by
  obtain ⟨letter, hletter, marks, hmarks, hall⟩ := h
  refine ⟨letter, hletter, marks.map .ofNat, by rw [decomposition, hmarks, List.map_cons], ?_⟩
  intro mark hmark
  obtain ⟨code, hcode, rfl⟩ := List.mem_map.mp hmark
  exact isMark_ofNat (hall code hcode)

include hbase

theorem IsForm.composite {mark joined : Char} (h : IsForm base c)
    (hjoined : composite? c mark = some joined) : IsForm base joined ∧ isMark mark = true := by
  obtain ⟨-, hlow, hrange, -⟩ := (hasForms hbase).bounds _ h
  obtain ⟨-, ⟨syllable, hsyllable, -⟩ | ⟨code, hpair, rfl⟩⟩ := composite?_cases hjoined
  · rw [Hangul.join?_eq_none (by omega) hrange] at hsyllable
    cases hsyllable
  · refine ⟨?_, isMarkCode_second hpair hlow⟩
    rw [IsForm, toNat_ofNat (pair_bounds hpair).2.1]
    exact mem_letterForms_of_pair hbase h hpair

theorem IsForm.lowercase (h : IsForm base c) :
    ∃ low, lowercaseChar c = [low] ∧ low ≠ 'ß' ∧
      ∃ marks, decomposition low = base :: marks ∧ ∀ mark ∈ marks, isMark mark = true := by
  have hdotted : c ≠ 'İ' := by
    rintro rfl
    exact absurd rfl ((hasForms hbase).bounds _ h).2.2.2
  obtain ⟨hsharp, hlow⟩ := lowercaseCode_letterForms hbase h
  have hsmall : [base.toNat] ⊆ bothCases base := by simp [bothCases]
  have hvalid : (lowercaseCode c.toNat lowercaseShifts).isValidChar := by
    have hbound := ((hasForms hbase).bounds _ (letterForms_subset hsmall hlow)).2.1
    unfold Nat.isValidChar
    omega
  have hsingle : lowercaseChar c = [.ofNat (lowercaseCode c.toNat lowercaseShifts)] := by
    rw [lowercaseChar, if_neg hdotted]
  refine ⟨_, hsingle, ?_, ?_⟩
  · intro hsame
    apply hsharp
    rw [← toNat_ofNat hvalid, hsame]
    rfl
  · rw [← toNat_ofNat hvalid] at hlow
    obtain ⟨letter, hletter, marks, hmarks, hall⟩ :=
      exists_decomposition (isMarked_of_mem_letterForms hbase hsmall hlow)
    rw [List.mem_singleton.mp hletter, Char.ofNat_toNat] at hmarks
    exact ⟨marks, hmarks, hall⟩

/-- What has a form of a letter as its lowercase form is a form of the letter itself, or the
angstrom sign. -/
theorem isForm_of_lowercase {low : Char} (hlow : low.toNat ∈ letterForms [base.toNat])
    (hc : lowercaseChar c = [low]) : IsForm base c ∨ c = '\u212B' := by
  have hsmall : [base.toNat] ⊆ bothCases base := by simp [bothCases]
  have hdotted : c ≠ 'İ' := by
    rintro rfl
    cases hc
  rw [lowercaseChar, if_neg hdotted, List.singleton_inj] at hc
  have hcode : low.toNat = lowercaseCode c.toNat lowercaseShifts := by
    by_cases hvalid : (lowercaseCode c.toNat lowercaseShifts).isValidChar
    · rw [← hc, toNat_ofNat hvalid]
    · rw [← hc, ofNat_of_not_isValidChar hvalid] at hlow
      exact absurd rfl ((hasForms hbase).bounds _ (letterForms_subset hsmall hlow)).1.ne
  rcases lowercaseCode_cases c.toNat lowercaseShifts with
    hself | ⟨shift, hshift, hcontains, hshifted⟩
  · rw [hcode, hself] at hlow
    exact .inl (letterForms_subset hsmall hlow)
  · rw [hcode, hshifted, ← hasBit_codeBits] at hlow
    have htable := (hasForms hbase).raised shift hshift c.toNat (CodeRun.mem_span hcontains)
    rcases htable hlow with hform | hangstrom
    · exact .inl (hasBit_codeBits.mp hform)
    · exact .inr (Char.toNat_inj.mp hangstrom)

/-- A letter with marks cuts a text. With what stands behind it, it is composed to one of its forms,
and marks that are left over weigh nothing. -/
theorem exists_composed_letter {α : Type} {weights : Char → List α}
    (hweights : ∀ c, isMark c = true → weights c = [])
    (hc : IsMarked (bothCases base) mappingDepth c.toNat) (v : List Char) :
    ∃ form rest, IsForm base form ∧ rest.flatMap weights = (composed v).flatMap weights ∧
      ∀ u, composed (u ++ c :: v) = composed u ++ form :: rest := by
  obtain ⟨code, hcode, marks, hdecomposition, hmarks⟩ := exists_decomposition hc
  have hlow := (bothCases_bounds hbase hcode).1
  have hnat : (Char.ofNat code).toNat = code := toNat_ofNat (.inl (by omega))
  have hform : IsForm base (.ofNat code) := by
    rw [IsForm, hnat, letterForms]
    simp [hcode]
  have hclass : combiningClass (.ofNat code) = 0 := combiningClass_of_lt (hnat.symm ▸ hlow)
  have hapart (first : Char) : composite? first (.ofNat code) = none := by
    rw [composite?, hnat, if_pos hlow]
  obtain ⟨joined, rest, hcompose, hjoined, hrest⟩ := exists_composeFrom_letter hweights
    (fun _ _ _ h => IsForm.composite hbase h) hform (List.forall_mem_nil _)
    (orderMarks (marks ++ v.flatMap decomposition))
  refine ⟨joined, rest, hjoined, ?_, fun u => ?_⟩
  · rw [hrest, flatMap_compose_orderMarks hweights hmarks, composed, decomposed]
  · rw [composed, decomposed, List.flatMap_append, List.flatMap_cons, hdecomposition,
      List.cons_append, orderMarks_append_starter hclass, compose_append_starter hclass hapart,
      hcompose, composed, decomposed]

end Char

end PagedSearch.Unicode
