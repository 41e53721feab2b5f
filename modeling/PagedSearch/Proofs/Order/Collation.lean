import PagedSearch.Order.TextKey
import PagedSearch.Proofs.Unicode.LetterForms

/-!
# Letters of a language under accents

At the first level a text weighs what its composed characters weigh, and marks weigh nothing. An
accent changes what stands there only where it is composed: a letter that a language sorts behind z
and an accent can make a character that the language has no letter for, and then the base letter
counts.
-/

namespace PagedSearch

open Unicode (IsForm IsMarked baseLetters bothCases composed decomposeCode isMark letterForms
  lowercaseChar mappingDepth)

namespace Collation

def charPrimary (collation : Collation) (c : Char) : List Nat :=
  ((lowercaseChar c).flatMap collation.elements).filterMap CollationElement.primary?

def ownLetter? (collation : Collation) (c : Char) : Option Char :=
  (lowercaseChar c).find? (· ∈ collation.tailoring)

theorem primary_key (collation : Collation) (text : String) :
    (collation.key text).primary = (composed text.toList).flatMap collation.charPrimary := by
  rw [key, List.filterMap_flatMap]
  rfl

def ownLetters : List Char := ['æ', 'ø', 'å', 'ä', 'ö']

theorem lettersOf_subset (language : String) : lettersOf language ⊆ ownLetters := by
  unfold lettersOf ownLetters
  split <;> simp

private theorem lettersOf_length (language : String) : (lettersOf language).length ≤ 3 := by
  unfold lettersOf
  split <;> simp

theorem exists_base_of_ownLetter {letter : Char} (h : letter ∈ ownLetters) :
    ∃ base ∈ baseLetters, letter.toNat ∈ letterForms [base.toNat] := by
  have hforms : (ownLetters.all fun letter => baseLetters.any fun base =>
      decide (letter.toNat ∈ letterForms [base.toNat])) = true := by
    decide +kernel
  obtain ⟨base, hbase, hform⟩ := List.any_eq_true.mp (List.all_eq_true.mp hforms letter h)
  exact ⟨base, hbase, of_decide_eq_true hform⟩

theorem exists_isMarked_of_lowercase {letter t : Char} (hletter : letter ∈ ownLetters)
    (ht : lowercaseChar t = [letter]) :
    ∃ base ∈ baseLetters, IsMarked (bothCases base) mappingDepth t.toNat := by
  obtain ⟨base, hbase, hform⟩ := exists_base_of_ownLetter hletter
  rcases Unicode.isForm_of_lowercase hbase hform ht with ht | rfl
  · exact ⟨base, hbase, Unicode.isMarked_of_mem_letterForms hbase (List.Subset.refl _) ht⟩
  · have hangstrom : decomposeCode mappingDepth 0x212B = [0x41, 0x30A] := by decide +kernel
    exact ⟨'a', by decide, 0x41, by decide, [0x30A], hangstrom, by decide⟩

variable {l : Locale} {base c d : Char}

theorem charPrimary_of_isMark (hc : isMark c = true) : (ofLocale l).charPrimary c = [] := by
  have hown : (ofLocale l).tailoring.idxOf? c = none := by
    rw [List.idxOf?_eq_none_iff]
    intro hmem
    have hletters : ownLetters.any isMark = false := by decide
    exact List.any_eq_false.mp hletters c (lettersOf_subset _ hmem) hc
  have hsharp : c ≠ 'ß' := by
    rintro rfl
    exact absurd hc (by decide)
  rw [charPrimary, Unicode.lowercaseChar_of_isMark hc, List.flatMap_singleton, elements, hown]
  dsimp only
  rw [if_neg hsharp, List.filterMap_map]
  refine List.filterMap_eq_nil_iff.mpr fun part hpart => ?_
  simp [Unicode.isMark_of_mem_decomposition hc hpart, CollationElement.primary?]

private theorem charPrimary_cases (hbase : base ∈ baseLetters) (hc : IsForm base c) :
    (∃ letter place, (ofLocale l).tailoring.idxOf? letter = some place ∧
      (ofLocale l).ownLetter? c = some letter ∧
      (ofLocale l).charPrimary c = [letterWeight 'z' + 1 + place]) ∨
    (ofLocale l).ownLetter? c = none ∧ (ofLocale l).charPrimary c = [letterWeight base] := by
  obtain ⟨low, hlow, hsharp, marks, hmarks, hall⟩ := hc.lowercase hbase
  rw [ownLetter?, charPrimary, hlow, List.flatMap_singleton, elements]
  cases hplace : (ofLocale l).tailoring.idxOf? low with
  | some place =>
    obtain ⟨hlt, hget, -⟩ := List.idxOf?_eq_some_iff.mp hplace
    have hmem : low ∈ (ofLocale l).tailoring := hget ▸ List.getElem_mem hlt
    exact .inl ⟨low, place, hplace, by simp [hmem], by simp [CollationElement.primary?]⟩
  | none =>
    have hmem := List.idxOf?_eq_none_iff.mp hplace
    have hletter : isMark base = false := by
      have hletters : baseLetters.any isMark = false := by decide
      simpa using List.any_eq_false.mp hletters base hbase
    have hnone : marks.filterMap (fun part => CollationElement.primary?
        (if isMark part then .accent part.toNat else .letter (letterWeight part))) = [] :=
      List.filterMap_eq_nil_iff.mpr fun part hpart => by
        simp [hall part hpart, CollationElement.primary?]
    refine .inr ⟨by simp [hmem], ?_⟩
    dsimp only
    rw [if_neg hsharp, hmarks, List.filterMap_map]
    show List.filterMap (fun part => CollationElement.primary? _) (base :: marks) = _
    simp only [List.filterMap_cons, hletter, hnone]
    rfl

private theorem charPrimary_eq_iff (hbase : base ∈ baseLetters) (hc : IsForm base c)
    (hd : IsForm base d) : (ofLocale l).charPrimary c = (ofLocale l).charPrimary d ↔
      (ofLocale l).ownLetter? c = (ofLocale l).ownLetter? d := by
  have hfar {letter : Char} {place : Nat}
      (hplace : (ofLocale l).tailoring.idxOf? letter = some place) :
      letterWeight 'z' + 1 + place ≠ letterWeight base := by
    obtain ⟨hlt, -⟩ := List.idxOf?_eq_some_iff.mp hplace
    have hlength : (ofLocale l).tailoring.length ≤ 3 := lettersOf_length _
    show 122 * 256 + 1 + place ≠ base.toNat * 256
    omega
  rcases charPrimary_cases (l := l) hbase hc with
    ⟨letter, place, hplace, hcown, hcweight⟩ | ⟨hcown, hcweight⟩
  · rcases charPrimary_cases (l := l) hbase hd with
      ⟨other, second, hsecond, hdown, hdweight⟩ | ⟨hdown, hdweight⟩
    · rw [hcown, hcweight, hdown, hdweight, List.singleton_inj, Option.some_inj]
      constructor
      · intro hweights
        obtain rfl : place = second := by omega
        obtain ⟨hlt, hletter, -⟩ := List.idxOf?_eq_some_iff.mp hplace
        obtain ⟨_, hother, -⟩ := List.idxOf?_eq_some_iff.mp hsecond
        exact hletter.symm.trans hother
      · rintro rfl
        rw [Option.some_inj.mp (hplace.symm.trans hsecond)]
    · simp [hcown, hcweight, hdown, hdweight, hfar hplace]
  · rcases charPrimary_cases (l := l) hbase hd with
      ⟨other, second, hsecond, hdown, hdweight⟩ | ⟨hdown, hdweight⟩
    · simp [hcown, hcweight, hdown, hdweight, (hfar hsecond).symm]
    · simp [hcown, hcweight, hdown, hdweight]

/-- An accent behind a letter that the language of a locale sorts behind z, in either case, leaves
the first level of a key as it is exactly where the letter is composed to a character that counts
as the same letter behind z with the accent and without it, or as none in both. -/
theorem primary_accent_iff (l : Locale) {letter t m : Char}
    (hletter : letter ∈ (ofLocale l).tailoring) (ht : lowercaseChar t = [letter])
    (hm : isMark m = true) (u v : String) :
    ((ofLocale l).key (u ++ String.ofList [t, m] ++ v)).primary =
        ((ofLocale l).key (u ++ String.ofList [t] ++ v)).primary ↔
      (composed (t :: m :: v.toList)).head?.bind (ofLocale l).ownLetter? =
        (composed (t :: v.toList)).head?.bind (ofLocale l).ownLetter? := by
  obtain ⟨base, hbase, hmarked⟩ := exists_isMarked_of_lowercase (lettersOf_subset _ hletter) ht
  have hweights : ∀ c, isMark c = true → (ofLocale l).charPrimary c = [] :=
    fun c => charPrimary_of_isMark
  obtain ⟨accented, rest, haccented, hrest, hcut⟩ :=
    Unicode.exists_composed_letter hbase hweights hmarked (m :: v.toList)
  obtain ⟨plain, others, hplain, hothers, hplaincut⟩ :=
    Unicode.exists_composed_letter hbase hweights hmarked v.toList
  have hmark : (composed (m :: v.toList)).flatMap (ofLocale l).charPrimary =
      (composed v.toList).flatMap (ofLocale l).charPrimary := by
    rw [composed, Unicode.decomposed, List.flatMap_cons]
    exact Unicode.flatMap_compose_orderMarks hweights
      (fun part hpart => Unicode.isMark_of_mem_decomposition hm hpart) _
  have hhead : composed (t :: m :: v.toList) = accented :: rest := hcut []
  have hplainhead : composed (t :: v.toList) = plain :: others := hplaincut []
  have htext : (u ++ String.ofList [t, m] ++ v).toList = u.toList ++ t :: m :: v.toList := by simp
  have hplaintext : (u ++ String.ofList [t] ++ v).toList = u.toList ++ t :: v.toList := by simp
  rw [primary_key, primary_key, htext, hplaintext, hcut, hplaincut, hhead, hplainhead, List.flatMap_append,
    List.flatMap_append, List.append_cancel_left_eq, List.flatMap_cons, List.flatMap_cons, hrest,
    hothers, hmark, List.append_cancel_right_eq]
  exact charPrimary_eq_iff hbase haccented hplain

/-- No character is composed of å and a grave accent, so the accent leaves the letter as it is. -/
theorem primary_accent_iff_ring_grave :
    ((ofLocale ⟨"da", none, none⟩).key ("b" ++ String.ofList ['Å', '\u0300'] ++ "t")).primary =
      ((ofLocale ⟨"da", none, none⟩).key ("b" ++ String.ofList ['Å'] ++ "t")).primary := by
  have hletter : 'å' ∈ (ofLocale ⟨"da", none, none⟩).tailoring := by decide
  refine (primary_accent_iff ⟨"da", none, none⟩ hletter (by decide) (by decide) "b" "t").mpr ?_
  decide +kernel

/-- With an acute accent å is composed to a character that Danish has no letter for, and then it
counts as a. -/
theorem primary_ring_acute :
    'å' ∈ (ofLocale ⟨"da", none, none⟩).tailoring ∧ isMark '\u0301' = true ∧
    ((ofLocale ⟨"da", none, none⟩).key "å\u0301").primary ≠
      ((ofLocale ⟨"da", none, none⟩).key "å").primary ∧
    ((ofLocale ⟨"da", none, none⟩).key "å\u0301").primary =
      ((ofLocale ⟨"da", none, none⟩).key "a").primary := by
  decide +kernel

end Collation

end PagedSearch
