import Mathlib.Data.List.Nodup
import PagedSearch.Proofs.Order.Collation
import PagedSearch.Proofs.Unicode.Boundary

/-!
# Letters behind z

Two texts that begin alike and then differ in a letter are told apart by that letter, whatever
stands behind it, if no accent follows it. In the languages with letters behind z each of these
letters comes after the basic ones, and among themselves they come in their order.
-/

namespace PagedSearch

open Unicode (IsForm baseLetters bothCases composed decomposition isMark letterForms lowercaseChar
  lowercaseString)

namespace Collation

def alphabets : List (List String × List Char) :=
  [(["da", "no", "nb", "nn"], ['æ', 'ø', 'å']), (["sv", "fi"], ['å', 'ä', 'ö'])]

private theorem compare_append_cons {first second : Nat} (h : first < second)
    (common rest others : List Nat) :
    compare (common ++ first :: rest) (common ++ second :: others) = .lt := by
  rw [List.compare_eq_compareLex]
  induction common with
  | nil =>
    rw [List.nil_append, List.nil_append, List.compareLex_cons_cons, Nat.compare_eq_lt.mpr h]
    rfl
  | cons weight common ih =>
    rw [List.cons_append, List.cons_append, List.compareLex_cons_cons, ih,
      Nat.compare_eq_eq.mpr rfl]
    rfl

private theorem composed_ownLetter {letter t : Char} (hletter : letter ∈ ownLetters)
    (ht : lowercaseChar t = [letter]) : (composed [t]).map lowercaseChar = [[letter]] := by
  have hcomposed : (ownLetters.all fun letter => baseLetters.all fun base =>
      (letterForms (bothCases base)).all fun code =>
        lowercaseChar (.ofNat code) != [letter] ||
          (composed [.ofNat code]).map lowercaseChar == [[letter]]) = true := by
    decide +kernel
  obtain ⟨base, hbase, hform⟩ := exists_base_of_ownLetter hletter
  rcases Unicode.isForm_of_lowercase hbase hform ht with hcode | rfl
  · have hbases := List.all_eq_true.mp (List.all_eq_true.mp hcomposed letter hletter) base hbase
    have htable := List.all_eq_true.mp hbases t.toNat hcode
    rw [Char.ofNat_toNat] at htable
    simpa [ht] using htable
  · have hangstrom : (composed ['\u212B']).map lowercaseChar = [lowercaseChar '\u212B'] := by
      decide +kernel
    rw [hangstrom, ht]

/-- What a letter weighs in front of a text: with its weight the keys of all texts go on behind the
weights of what stands before it. -/
def Leads (l : Locale) (c : Char) (v : String) (weight : Nat) : Prop :=
  ∀ p : String, ∃ rest, ((ofLocale l).key (p ++ String.ofList [c] ++ v)).primary =
    (composed p.toList).flatMap (ofLocale l).charPrimary ++ weight :: rest

variable {l : Locale} {c t : Char} {v : String}

private theorem Leads.of_head? {letter head : Char} {marks : List Char} {weight : Nat}
    (hdecomposition : decomposition c = letter :: marks) (hlow : letter.toNat < 0x300)
    (hhead : (composed (c :: v.toList)).head? = some head)
    (hweight : (ofLocale l).charPrimary head = [weight]) : Leads l c v weight := by
  intro p
  obtain ⟨rest, hrest⟩ := List.head?_eq_some_iff.mp hhead
  refine ⟨rest.flatMap (ofLocale l).charPrimary, ?_⟩
  have htext : (p ++ String.ofList [c] ++ v).toList = p.toList ++ c :: v.toList := by simp
  rw [primary_key, htext, Unicode.composed_append_letter hdecomposition hlow, List.flatMap_append,
    hrest, List.flatMap_cons, hweight, List.singleton_append]

private theorem compareTexts_of_leads {d : Char} {w : String} {weight other : Nat}
    (hfirst : Leads l c v weight) (hsecond : Leads l d w other) (h : weight < other) (p : String) :
    (ofLocale l).compareTexts (p ++ String.ofList [c] ++ v) (p ++ String.ofList [d] ++ w) =
      .lt := by
  obtain ⟨rest, hrest⟩ := hfirst p
  obtain ⟨others, hothers⟩ := hsecond p
  show TextKey.compare _ _ = .lt
  rw [TextKey.compare, hrest, hothers, compare_append_cons h]
  rfl

private theorem basicLetters : ∀ code < 0x80, (Char.ofNat code).isAlpha = true →
    decomposition (.ofNat code) = [.ofNat code] ∧
    lowercaseChar (.ofNat code) = [(Char.ofNat code).toLower] ∧
    (Char.ofNat code).toLower ∉ 'ß' :: ownLetters ∧
    decomposition (Char.ofNat code).toLower = [(Char.ofNat code).toLower] ∧
    isMark (Char.ofNat code).toLower = false ∧ (Char.ofNat code).toLower.toNat ≤ 'z'.toNat := by
  decide +kernel

private theorem toNat_lt_of_isAlpha (h : c.isAlpha = true) : c.toNat < 0x80 := by
  have hcases : (c.isUpper || c.isLower) = true := h
  rcases Bool.or_eq_true_iff.mp hcases with hupper | hlower
  · have hbound : c.val ≤ 'Z'.val := (of_decide_eq_true hupper).2
    exact Nat.lt_of_le_of_lt (UInt32.le_iff_toNat_le.mp hbound) (by decide)
  · have hbound : c.val ≤ 'z'.val := of_decide_eq_true (Bool.and_eq_true_iff.mp hlower).2
    exact Nat.lt_of_le_of_lt (UInt32.le_iff_toNat_le.mp hbound) (by decide)

private theorem exists_leads_basic (l : Locale) (hc : c.isAlpha = true)
    (hv : Stops isMark v.toList) :
    ∃ weight ≤ letterWeight 'z', Leads l c v weight := by
  have hbasic := basicLetters c.toNat (toNat_lt_of_isAlpha hc)
  rw [Char.ofNat_toNat] at hbasic
  obtain ⟨hdecomposition, hlow, hown, hplain, hmark, hbound⟩ := hbasic hc
  obtain ⟨hsharp, hown⟩ := not_or.mp (mt List.mem_cons.mpr hown)
  have hlatin : c.toNat < 0x300 := Nat.lt_trans (toNat_lt_of_isAlpha hc) (by decide)
  refine ⟨letterWeight c.toLower, Nat.mul_le_mul_right 256 hbound,
    .of_head? hdecomposition hlatin (Unicode.head?_composed_bare hdecomposition hlatin hv) ?_⟩
  have hnone : (ofLocale l).tailoring.idxOf? c.toLower = none :=
    List.idxOf?_eq_none_iff.mpr fun hmem => hown (lettersOf_subset _ hmem)
  rw [charPrimary, hlow, List.flatMap_singleton, elements, hnone]
  simp [hsharp, hplain, hmark, CollationElement.primary?]

private theorem leads_ownLetter {letter : Char} {place : Nat}
    (hplace : (ofLocale l).tailoring.idxOf? letter = some place)
    (ht : lowercaseChar t = [letter]) (hv : Stops isMark v.toList) :
    Leads l t v (letterWeight 'z' + 1 + place) := by
  obtain ⟨hlt, hget, -⟩ := List.idxOf?_eq_some_iff.mp hplace
  have hmem : letter ∈ (ofLocale l).tailoring := hget ▸ List.getElem_mem hlt
  have hown := lettersOf_subset _ hmem
  obtain ⟨base, hbase, hmarked⟩ := exists_isMarked_of_lowercase hown ht
  obtain ⟨code, hcode, marks, hdecomposition, hmarks⟩ := Unicode.exists_decomposition hmarked
  obtain ⟨own, hcomposed, hlow⟩ := List.map_eq_singleton_iff.mp (composed_ownLetter hown ht)
  have hlatin := (Unicode.bothCases_bounds hbase hcode).1
  have hnat : (Char.ofNat code).toNat = code := Unicode.toNat_ofNat (.inl (by omega))
  have hform : IsForm base (.ofNat code) := by
    rw [IsForm, hnat, letterForms]
    simp [hcode]
  have hhead : (composed (t :: v.toList)).head? = some own := by
    rw [Unicode.head?_composed_cons hdecomposition (hnat.symm ▸ hlatin)
      (fun _ _ _ h => IsForm.composite hbase h) hform hmarks hv, hcomposed, List.head?_cons]
  refine .of_head? hdecomposition (hnat.symm ▸ hlatin) hhead ?_
  rw [charPrimary, hlow, List.flatMap_singleton, elements, hplace]
  rfl

private theorem idxOf?_of_alphabet {languages : List String} {letters : List Char}
    (halphabet : (languages, letters) ∈ alphabets)
    (hlanguage : lowercaseString l.language ∈ languages) {place : Nat} {letter : Char}
    (hletter : letters[place]? = some letter) :
    (ofLocale l).tailoring.idxOf? letter = some place := by
  have htailoring : (ofLocale l).tailoring = letters ∧ letters.Nodup := by
    simp only [alphabets, List.mem_cons, Prod.mk.injEq, List.not_mem_nil, or_false] at halphabet
    rcases halphabet with ⟨rfl, rfl⟩ | ⟨rfl, rfl⟩
    · simp only [List.mem_cons, List.not_mem_nil, or_false] at hlanguage
      rcases hlanguage with h | h | h | h <;> simp [ofLocale, lettersOf, h]
    · simp only [List.mem_cons, List.not_mem_nil, or_false] at hlanguage
      rcases hlanguage with h | h <;> simp [ofLocale, lettersOf, h]
  obtain ⟨rfl, hnodup⟩ := htailoring
  obtain ⟨hlt, hget⟩ := List.getElem?_eq_some_iff.mp hletter
  refine List.idxOf?_eq_some_iff.mpr ⟨hlt, hget, fun j hj hsame => ?_⟩
  exact hj.ne (hnodup.getElem_inj_iff.mp (hsame.trans hget.symm))

/-- Texts that begin alike are told apart by the first letter in which they differ, whatever is in
them before it and behind it, if no accent follows it. In the languages with letters behind z the
basic letters come first, then the letters behind z in their order, in either case. -/
theorem compareTexts_alphabet (l : Locale) {languages : List String} {letters : List Char}
    (halphabet : (languages, letters) ∈ alphabets)
    (hlanguage : lowercaseString l.language ∈ languages) {x y : String}
    (hx : Stops isMark x.toList) (hy : Stops isMark y.toList) (p : String) :
    (∀ c t letter, c.isAlpha = true → letter ∈ letters → lowercaseChar t = [letter] →
      (ofLocale l).compareTexts (p ++ String.ofList [c] ++ x) (p ++ String.ofList [t] ++ y) =
        .lt) ∧
    ∀ (i j : Nat) first second t u, i < j → letters[i]? = some first → letters[j]? = some second →
      lowercaseChar t = [first] → lowercaseChar u = [second] →
      (ofLocale l).compareTexts (p ++ String.ofList [t] ++ x) (p ++ String.ofList [u] ++ y) =
        .lt := by
  constructor
  · intro c t letter hc hletter ht
    obtain ⟨place, hplace⟩ := List.mem_iff_getElem?.mp hletter
    obtain ⟨weight, hweight, hleads⟩ := exists_leads_basic l hc hx
    have hown := leads_ownLetter (idxOf?_of_alphabet halphabet hlanguage hplace) ht hy
    exact compareTexts_of_leads hleads hown (by omega) p
  · intro i j first second t u hij hfirst hsecond ht hu
    have hleads := leads_ownLetter (idxOf?_of_alphabet halphabet hlanguage hfirst) ht hx
    have hothers := leads_ownLetter (idxOf?_of_alphabet halphabet hlanguage hsecond) hu hy
    exact compareTexts_of_leads hleads hothers (by omega) p

/-- An accented tail in front of a plain one, and a language in capitals. -/
theorem compareTexts_alphabet_ring :
    (ofLocale ⟨"DA", none, none⟩).compareTexts ("bl" ++ String.ofList ['Z'] ++ "zzz")
      ("bl" ++ String.ofList ['Å'] ++ "") = .lt ∧
    (ofLocale ⟨"Sv", none, none⟩).compareTexts ("e\u0301" ++ String.ofList ['å'] ++ "ö\u0301")
      ("e\u0301" ++ String.ofList ['Ä'] ++ "a") = .lt := by
  have hdanish := @compareTexts_alphabet ⟨"DA", none, none⟩ ["da", "no", "nb", "nn"]
    ['æ', 'ø', 'å'] (by decide) (by decide) "zzz" "" (by decide) (by decide) "bl"
  have hswedish := @compareTexts_alphabet ⟨"Sv", none, none⟩ ["sv", "fi"] ['å', 'ä', 'ö']
    (by decide) (by decide) "ö\u0301" "a" (by decide) (by decide) "e\u0301"
  exact ⟨hdanish.1 'Z' 'Å' 'å' (by decide) (by decide) (by decide),
    hswedish.2 0 1 'å' 'ä' 'å' 'Ä' (by decide) rfl rfl (by decide) (by decide)⟩

end Collation

end PagedSearch
