import PagedSearch.Proofs.Order.Collation
import PagedSearch.Proofs.Unicode.Joined

/-!
# Letter case at the first level

A text in lower case weighs at the first level what the text weighs, but for one letter: at the end
of a word a capital sigma becomes a final sigma, which has a weight of its own.
-/

namespace PagedSearch

open Unicode (IsForm baseLetters combiningClass compose composeFrom composed composite? decomposed
  decomposition hasBit isMark lowerCode lowercaseAfter lowercaseChar lowercaseShifts lowercaseString
  lowered mappedBits reachesCased)

namespace Collation

def loneLetters : List Char := ['ß', 'ẞ', '\u212B']

private theorem loneTables :
    (Unicode.canonicalPairs.all fun (code, first, _) => loneLetters.all fun letter =>
      !Nat.beq code letter.toNat && !Nat.beq first letter.toNat) = true ∧
    (lowercaseShifts.all fun shift => shift.run.span.all fun code =>
      !Nat.beq (code + shift.distance).toNat 0xDF || Nat.beq code 0x1E9E) = true := by
  decide +kernel

/-- Whether a character is no form of a letter that some language has behind z in another form. -/
def IsApart (c : Char) : Prop := ∀ base ∈ baseLetters, ¬ IsForm base c

def partPrimary? (part : Char) : Option Nat :=
  if isMark part then none else some (letterWeight (lowered part))

variable {l : Locale} {c m joined : Char}

private theorem charPrimary_lowered (collation : Collation) (c : Char) :
    collation.charPrimary (lowered c) = collation.charPrimary c := by
  rw [charPrimary, Unicode.lowercaseChar_lowered, charPrimary]

private theorem charPrimary_of_parts {collation : Collation}
    (h : ∀ low ∈ lowercaseChar c, low ∉ collation.tailoring ∧ low ≠ 'ß') :
    collation.charPrimary c = (decomposition c).filterMap partPrimary? := by
  have helements : (lowercaseChar c).flatMap collation.elements =
      ((lowercaseChar c).flatMap decomposition).map fun part =>
        if isMark part then .accent part.toNat else .letter (letterWeight part) := by
    rw [List.map_flatMap]
    refine List.flatMap_congr fun low hlow => ?_
    rw [elements, List.idxOf?_eq_none_iff.mpr (h low hlow).1]
    dsimp only
    rw [if_neg (h low hlow).2]
  rw [charPrimary, helements, Unicode.flatMap_decomposition_lowercaseChar, List.map_map,
    List.filterMap_map]
  refine List.filterMap_congr fun part _ => ?_
  simp only [Function.comp_apply, Unicode.isMark_lowered, partPrimary?]
  split <;> rfl

private theorem ne_sharp (hlone : c ∉ loneLetters) : lowered c ≠ 'ß' := by
  intro hsharp
  have hcode : lowerCode c.toNat = 0xDF := by
    rw [← Unicode.toNat_lowered, hsharp]
    rfl
  have hcases : c.toNat = 0xDF ∨ c.toNat = 0x1E9E := by
    rcases Unicode.lowercaseCode_cases c.toNat lowercaseShifts with
      hself | ⟨shift, hshift, hcontains, hlow⟩
    · exact .inl (hself.symm.trans hcode)
    · have htable := List.all_eq_true.mp (List.all_eq_true.mp loneTables.2 shift hshift) c.toNat
        (Unicode.CodeRun.mem_span hcontains)
      rw [← hlow, ← lowerCode, hcode] at htable
      exact .inr (Nat.beq_eq.mp htable)
  rcases hcases with hcode | hcode
  · exact hlone ((Char.toNat_inj.mp hcode : c = 'ß') ▸ by decide)
  · exact hlone ((Char.toNat_inj.mp hcode : c = 'ẞ') ▸ by decide)

private theorem IsApart.plain (h : IsApart c) (hlone : c ∉ loneLetters) :
    ∀ low ∈ lowercaseChar c, low ∉ (ofLocale l).tailoring ∧ low ≠ 'ß' := by
  by_cases hdotted : c = 'İ'
  · subst hdotted
    have hparts : ∀ low ∈ lowercaseChar 'İ', low ∉ ownLetters ∧ low ≠ 'ß' := by decide
    exact fun low hlow => (hparts low hlow).imp_left (mt (lettersOf_subset _ ·))
  · rw [Unicode.lowercaseChar_eq hdotted]
    rintro low hlow
    rw [List.mem_singleton.mp hlow]
    refine ⟨fun hletter => ?_, ne_sharp hlone⟩
    obtain ⟨base, hbase, hform⟩ := exists_base_of_ownLetter (lettersOf_subset _ hletter)
    rcases Unicode.isForm_of_lowercase hbase hform (Unicode.lowercaseChar_eq hdotted) with
      hc | rfl
    · exact h base hbase hc
    · exact hlone (by decide)

private theorem not_lone_of_composite? (h : composite? c m = some joined) :
    c ∉ loneLetters ∧ joined ∉ loneLetters := by
  have hbounds : ∀ letter ∈ loneLetters,
      letter.toNat < 0xAC00 ∧ (letter.toNat < 0x1100 ∨ 0x1112 < letter.toNat) := by decide
  obtain ⟨-, ⟨syllable, hsyllable, rfl⟩ | ⟨code, hpair, rfl⟩⟩ := Unicode.composite?_cases h
  · obtain ⟨hfirst, hlast⟩ :=
      Unicode.Hangul.isSyllable_eq_true (Unicode.Hangul.parts_of_join? hsyllable).1
    constructor
    · intro hlone
      obtain ⟨hlow, hrange⟩ := hbounds c hlone
      rw [Unicode.Hangul.join?_eq_none hlow hrange] at hsyllable
      cases hsyllable
    · intro hlone
      have hlow := (hbounds _ hlone).1
      rw [Unicode.toNat_ofNat (.inl (by omega))] at hlow
      omega
  · have htable := List.all_eq_true.mp loneTables.1 _ hpair
    simp only [List.all_eq_true, Bool.and_eq_true, Bool.not_eq_true'] at htable
    constructor
    · intro hlone
      simpa using (htable c hlone).2
    · intro hlone
      have hcode := (htable _ hlone).1
      rw [Unicode.toNat_ofNat (Unicode.pair_bounds hpair).2.1] at hcode
      simp at hcode

private theorem IsApart.composite (hc : IsApart c) (h : composite? c m = some joined) :
    IsApart joined ∧ IsApart m ∧ (ofLocale l).charPrimary joined =
      (ofLocale l).charPrimary c ++ (ofLocale l).charPrimary m := by
  obtain ⟨hfar, hsettled, hunmapped⟩ := Unicode.second_of_composite? h
  obtain ⟨hlone, hlonejoined⟩ := not_lone_of_composite? h
  have hjoined : IsApart joined := fun base hbase hform =>
    hc base hbase (Unicode.isForm_of_composite? hbase h hform)
  have hm : IsApart m := by
    intro base hbase hform
    rcases Unicode.isForm_cases hbase hform with ⟨hnear, -⟩ | ⟨first, -, second, hpair⟩
    · omega
    · rw [Unicode.hasBit_mappedBits.mpr (.inl ⟨first, second, hpair⟩)] at hunmapped
      cases hunmapped
  have hmlone : m ∉ loneLetters := by
    have hlone : ∀ letter ∈ loneLetters,
        letter.toNat < 0x300 ∨ lowerCode letter.toNat ≠ letter.toNat := by decide
    intro hmem
    rcases hlone m hmem with hnear | hshifted
    · omega
    · exact hshifted hsettled
  refine ⟨hjoined, hm, ?_⟩
  rw [charPrimary_of_parts (hjoined.plain hlonejoined), charPrimary_of_parts (hc.plain hlone),
    charPrimary_of_parts (hm.plain hmlone), Unicode.decomposition_of_composite? h,
    List.filterMap_append]

private theorem flatMap_composeFrom_apart {marks : List Char} (hc : IsApart c)
    (hmarks : ∀ mark ∈ marks, isMark mark = true) (text : List Char) :
    (composeFrom c marks text).flatMap (ofLocale l).charPrimary =
      (ofLocale l).charPrimary c ++ (compose text).flatMap (ofLocale l).charPrimary := by
  have hleft {marks : List Char} (hmarks : ∀ mark ∈ marks, isMark mark = true) :
      marks.reverse.flatMap (ofLocale l).charPrimary = [] :=
    Unicode.flatMap_marks (fun _ => charPrimary_of_isMark) (by simpa using hmarks)
  induction text generalizing c marks with
  | nil =>
    rw [composeFrom, compose, List.flatMap_cons, hleft hmarks, List.flatMap_nil]
  | cons m rest ih =>
    rcases Unicode.composeFrom_step c marks m with
      ⟨joined, hjoined, hstep⟩ | ⟨hclass, hstep⟩ | ⟨hclass, hstep⟩
    -- The joined character weighs both, and the second weighs alone what it adds to the rest.
    · obtain ⟨hapart, hm, hweight⟩ := hc.composite (l := l) hjoined
      have hrest : (compose (m :: rest)).flatMap (ofLocale l).charPrimary =
          (ofLocale l).charPrimary m ++ (compose rest).flatMap (ofLocale l).charPrimary := by
        rw [compose]
        split
        · exact ih hm (List.forall_mem_nil _)
        · rw [List.flatMap_cons]
      rw [hstep, ih hapart hmarks, hweight, hrest, List.append_assoc]
    · rw [hstep, List.flatMap_cons, List.flatMap_append, hleft hmarks, compose, if_pos hclass]
      rfl
    · have hm := Unicode.isMark_of_combiningClass hclass
      rw [hstep, ih hc (List.forall_mem_cons.mpr ⟨hm, hmarks⟩), compose, if_neg hclass,
        List.flatMap_cons, charPrimary_of_isMark hm, List.nil_append]

private theorem flatMap_compose_apart (hc : IsApart c) (rest : List Char) :
    (compose (c :: rest)).flatMap (ofLocale l).charPrimary =
      (ofLocale l).charPrimary c ++ (compose rest).flatMap (ofLocale l).charPrimary := by
  rw [compose]
  split
  · exact flatMap_composeFrom_apart hc (List.forall_mem_nil _) rest
  · rw [List.flatMap_cons]

private theorem IsApart.lowered (hc : IsApart c) (hangstrom : c ≠ '\u212B') :
    IsApart (lowered c) := by
  intro base hbase hform
  by_cases hdotted : c = 'İ'
  · subst hdotted
    exact hc base hbase hform
  · obtain ⟨-, hlow⟩ := Unicode.isForm_lowered hbase hform
    rw [Unicode.toNat_lowered, Unicode.toNat_lowered, Unicode.lowerCode_lowerCode,
      ← Unicode.toNat_lowered] at hlow
    exact (Unicode.isForm_of_lowercase hbase hlow (Unicode.lowercaseChar_eq hdotted)).elim
      (hc base hbase) hangstrom

private theorem flatMap_compose_form {base : Char} {rest : List Char} (hbase : base ∈ baseLetters)
    (hc : IsForm base c) (hrest : (compose (rest.map lowered)).flatMap (ofLocale l).charPrimary =
      (compose rest).flatMap (ofLocale l).charPrimary) :
    (compose (lowered c :: rest.map lowered)).flatMap (ofLocale l).charPrimary =
      (compose (c :: rest)).flatMap (ofLocale l).charPrimary := by
  have hstarter {d : Char} (hd : IsForm base d) (text : List Char) :
      ∃ form others, compose (d :: text) = form :: others ∧
        composeFrom d [] text = form :: others ∧
        others.flatMap (ofLocale l).charPrimary =
          (compose text).flatMap (ofLocale l).charPrimary := by
    have hclass := Unicode.combiningClass_of_not_isMark (Unicode.isMark_of_isForm hbase hd)
    obtain ⟨form, others, hcompose, -, hothers⟩ :=
      Unicode.exists_composeFrom_letter (fun _ => charPrimary_of_isMark (l := l))
        (fun _ _ _ h => IsForm.composite hbase h) hd (List.forall_mem_nil _) text
    exact ⟨form, others, by rw [compose, if_pos hclass, hcompose], hcompose, hothers⟩
  obtain ⟨form, others, hform, hcompose, hothers⟩ := hstarter hc rest
  obtain ⟨low, lows, hlow, hlowered, hlows⟩ :=
    hstarter (Unicode.isForm_lowered hbase hc).1 (rest.map lowered)
  have hhead := Unicode.head?_composeFrom_lowered hbase hc [] rest
  rw [List.map_nil, hlowered, hcompose, List.head?_cons, List.head?_cons, Option.map_some,
    Option.some_inj] at hhead
  rw [hform, hlow, List.flatMap_cons, List.flatMap_cons, hhead, charPrimary_lowered, hlows, hothers,
    hrest]

private theorem flatMap_compose_lowered {text : List Char} (h : '\u212B' ∉ text) :
    (compose (text.map lowered)).flatMap (ofLocale l).charPrimary =
      (compose text).flatMap (ofLocale l).charPrimary := by
  induction text with
  | nil => rfl
  | cons c rest ih =>
    obtain ⟨hangstrom, hrest⟩ := not_or.mp (mt List.mem_cons.mpr h)
    by_cases hform : ∃ base ∈ baseLetters, IsForm base c
    · obtain ⟨base, hbase, hc⟩ := hform
      exact flatMap_compose_form hbase hc (ih hrest)
    · have hc : IsApart c := fun base hbase hc => hform ⟨base, hbase, hc⟩
      rw [List.map_cons, flatMap_compose_apart hc,
        flatMap_compose_apart (hc.lowered (Ne.symm hangstrom)), charPrimary_lowered, ih hrest]

theorem flatMap_composed_lowercaseChar (text : List Char) :
    (composed (text.flatMap lowercaseChar)).flatMap (ofLocale l).charPrimary =
      (composed text).flatMap (ofLocale l).charPrimary := by
  rw [composed, Unicode.decomposed_lowercaseChar,
    flatMap_compose_lowered (Unicode.angstrom_not_mem_decomposed text), composed]

section Sigma

def sigmas : List Char := ['σ', 'ς']

private theorem sigmaTables :
    (Unicode.canonicalPairs.all fun (_, first, second) => sigmas.all fun sigma =>
      !Nat.beq first sigma.toNat && !Nat.beq second sigma.toNat) = true ∧
    ∀ sigma ∈ sigmas, sigma.toNat < 0x1100 ∧ combiningClass sigma = 0 ∧
      decomposition sigma = [sigma] ∧ [sigma].filterMap partPrimary? = [letterWeight sigma] ∧
      ∀ low ∈ lowercaseChar sigma, low ∉ ownLetters ∧ low ≠ 'ß' := by
  decide +kernel

private theorem composite?_sigma {sigma : Char} (h : sigma ∈ sigmas)
    (hpair : c = sigma ∨ m = sigma) :
    composite? c m = none := by
  have hlow := (sigmaTables.2 sigma h).1
  by_contra hsome
  obtain ⟨joined, hjoined⟩ := Option.ne_none_iff_exists'.mp hsome
  obtain ⟨-, ⟨syllable, hsyllable, -⟩ | ⟨code, hmem, -⟩⟩ := Unicode.composite?_cases hjoined
  · rcases hpair with rfl | rfl
    · rw [Unicode.Hangul.join?_eq_none (by omega) (.inl hlow)] at hsyllable
      cases hsyllable
    · have hbounds := (Unicode.Hangul.parts_of_join? hsyllable).2.1
      omega
  · have htable := List.all_eq_true.mp sigmaTables.1 _ hmem
    simp only [List.all_eq_true, Bool.and_eq_true, Bool.not_eq_true'] at htable
    rcases hpair with rfl | rfl
    · simpa using (htable c h).1
    · simpa using (htable m h).2

private theorem primary_append_sigma {sigma : Char} (h : sigma ∈ sigmas) (front rest : List Char) :
    (composed (front ++ sigma :: rest)).flatMap (ofLocale l).charPrimary =
      (composed front).flatMap (ofLocale l).charPrimary ++ letterWeight sigma ::
        (composed rest).flatMap (ofLocale l).charPrimary := by
  obtain ⟨-, hclass, hdecomposition, hweight, hplain⟩ := sigmaTables.2 sigma h
  have hparts : ∀ low ∈ lowercaseChar sigma, low ∉ (ofLocale l).tailoring ∧ low ≠ 'ß' :=
    fun low hlow => (hplain low hlow).imp_left (mt (lettersOf_subset _ ·))
  have hcharPrimary : (ofLocale l).charPrimary sigma = [letterWeight sigma] := by
    rw [charPrimary_of_parts hparts, hdecomposition, hweight]
  rw [Unicode.composed_append_inert (fun _ => composite?_sigma h (.inl rfl))
    (fun _ => composite?_sigma h (.inr rfl)) hclass hdecomposition, List.flatMap_append,
    List.flatMap_cons, hcharPrimary, List.singleton_append]

def HasFinalSigmaAfter (before text : List Char) : Prop :=
  ∃ front rest, text = front ++ 'Σ' :: rest ∧ reachesCased (front.reverse ++ before) = true ∧
    reachesCased rest = false

private theorem not_hasFinalSigmaAfter_nil {before : List Char} :
    ¬ HasFinalSigmaAfter before [] := by
  rintro ⟨front, rest, htext, -⟩
  simp at htext

private theorem hasFinalSigmaAfter_cons {before rest : List Char} :
    HasFinalSigmaAfter before (c :: rest) ↔
      (c = 'Σ' ∧ reachesCased before = true ∧ reachesCased rest = false) ∨
        HasFinalSigmaAfter (c :: before) rest := by
  constructor
  · rintro ⟨front, rest', htext, hbefore, hrest⟩
    cases front with
    | nil =>
      obtain ⟨rfl, rfl⟩ := List.cons.inj htext
      exact .inl ⟨rfl, hbefore, hrest⟩
    | cons d front =>
      obtain ⟨rfl, rfl⟩ := List.cons.inj htext
      refine .inr ⟨front, rest', rfl, ?_, hrest⟩
      simpa using hbefore
  · rintro (⟨rfl, hbefore, hrest⟩ | ⟨front, rest', rfl, hbefore, hrest⟩)
    · exact ⟨[], rest, rfl, hbefore, hrest⟩
    · exact ⟨c :: front, rest', rfl, by simpa using hbefore, hrest⟩

/-- Behind any text, a text in lower case weighs what its characters weigh in lower case, each by
itself, if and only if no capital sigma in it stands at the end of a word. -/
theorem primary_lowercaseAfter_iff (before front text : List Char) :
    (composed (front ++ lowercaseAfter before text)).flatMap (ofLocale l).charPrimary =
        (composed (front ++ text.flatMap lowercaseChar)).flatMap (ofLocale l).charPrimary ↔
      ¬ HasFinalSigmaAfter before text := by
  induction text generalizing before front with
  | nil => simp [lowercaseAfter, not_hasFinalSigmaAfter_nil]
  | cons c rest ih =>
    rw [hasFinalSigmaAfter_cons, not_or, lowercaseAfter, List.flatMap_cons]
    by_cases hcapital : c = 'Σ'
    · have hlow : lowercaseChar 'Σ' = ['σ'] := by decide
      have hrest := ih ('Σ' :: before) []
      rw [List.nil_append, List.nil_append] at hrest
      subst hcapital
      -- A sigma cuts both texts, so what it becomes and what follows it are compared apart.
      rw [if_pos rfl, hlow, List.singleton_append, List.singleton_append,
        primary_append_sigma (by decide : 'σ' ∈ sigmas)]
      cases hfinal : reachesCased before && !reachesCased rest with
      | true =>
        have hweights : letterWeight 'ς' ≠ letterWeight 'σ' := by decide
        rw [Bool.and_eq_true, Bool.not_eq_true'] at hfinal
        rw [if_pos rfl, primary_append_sigma (by decide : 'ς' ∈ sigmas)]
        simp [hweights, hfinal]
      | false =>
        have hinner : ¬ ('Σ' = 'Σ' ∧ reachesCased before = true ∧ reachesCased rest = false) := by
          rintro ⟨-, hbefore, hbehind⟩
          rw [hbefore, hbehind] at hfinal
          cases hfinal
        rw [if_neg Bool.false_ne_true, primary_append_sigma (by decide : 'σ' ∈ sigmas),
          List.append_cancel_left_eq, List.cons_inj_right, hrest, and_iff_right hinner]
    · rw [if_neg hcapital, ← List.append_assoc, ← List.append_assoc, ih]
      simp [hcapital]

instance decidableHasFinalSigmaAfter (before : List Char) :
    ∀ text, Decidable (HasFinalSigmaAfter before text)
  | [] => .isFalse not_hasFinalSigmaAfter_nil
  | c :: rest =>
    have := decidableHasFinalSigmaAfter (c :: before) rest
    decidable_of_iff' _ hasFinalSigmaAfter_cons

/-- Whether a text has a capital sigma at the end of a word: behind a character that has a case and
before none, if what is ignored for this is left out. -/
def HasFinalSigma (text : List Char) : Prop :=
  ∃ front rest, text = front ++ 'Σ' :: rest ∧ reachesCased front.reverse = true ∧
    reachesCased rest = false

private theorem hasFinalSigma_iff {text : List Char} :
    HasFinalSigma text ↔ HasFinalSigmaAfter [] text := by
  simp only [HasFinalSigma, HasFinalSigmaAfter, List.append_nil]

instance (text : List Char) : Decidable (HasFinalSigma text) :=
  decidable_of_iff' _ hasFinalSigma_iff

private theorem primary_lowercaseString_iff (l : Locale) (text : String) :
    ((ofLocale l).key (lowercaseString text)).primary = ((ofLocale l).key text).primary ↔
      ¬ HasFinalSigma text.toList := by
  have htext := flatMap_composed_lowercaseChar (l := l) text.toList
  rw [hasFinalSigma_iff, ← primary_lowercaseAfter_iff (l := l) [] [] text.toList, List.nil_append,
    List.nil_append, htext, primary_key, primary_key, lowercaseString, Unicode.lowercase,
    String.toList_ofList]

end Sigma

private theorem isLE_primary {collation : Collation} {a b : String}
    (h : collation.compareTexts a b ≠ .gt) :
    (compare (collation.key a).primary (collation.key b).primary).isLE = true := by
  rw [← Ordering.ne_gt_iff_isLE]
  rintro hprimary
  apply h
  show TextKey.compare _ _ = .gt
  rw [TextKey.compare, hprimary]
  rfl

/-- Lowercasing a text leaves the first level of its key as it is if and only if the text has no
capital sigma at the end of a word. Two texts without one that differ in case only have no text with
other base letters between them. -/
theorem primary_lowercase (l : Locale) (s : String) :
    (((ofLocale l).key (lowercaseString s)).primary = ((ofLocale l).key s).primary ↔
      ¬ HasFinalSigma s.toList) ∧
    ∀ t u, lowercaseString t = lowercaseString s →
      ¬ HasFinalSigma s.toList → ¬ HasFinalSigma t.toList →
      (ofLocale l).compareTexts s u ≠ .gt → (ofLocale l).compareTexts u t ≠ .gt →
      ((ofLocale l).key u).primary = ((ofLocale l).key s).primary := by
  refine ⟨primary_lowercaseString_iff l s, fun t u hcase hs ht hsu hut => ?_⟩
  have hprimary : ((ofLocale l).key t).primary = ((ofLocale l).key s).primary := by
    rw [← (primary_lowercaseString_iff l t).mpr ht, hcase, (primary_lowercaseString_iff l s).mpr hs]
  have hlow := isLE_primary hut
  rw [hprimary] at hlow
  exact Std.LawfulEqOrd.eq_of_compare (Std.OrientedCmp.isLE_antisymm hlow (isLE_primary hsu))

/-- The last sigma of the first text is no final one, as a letter follows it. -/
theorem primary_lowercase_sharp :
    ((ofLocale ⟨"da", none, none⟩).key (lowercaseString "Σ ẞΣÅ")).primary =
      ((ofLocale ⟨"da", none, none⟩).key "Σ ẞΣÅ").primary ∧
    ((ofLocale ⟨"da", none, none⟩).key "Öl").primary =
      ((ofLocale ⟨"da", none, none⟩).key "öl").primary := by
  have htext := primary_lowercase ⟨"da", none, none⟩ "Σ ẞΣÅ"
  have hbetween := primary_lowercase ⟨"da", none, none⟩ "öl"
  exact ⟨htext.1.mpr (by decide +kernel), hbetween.2 "ÖL" "Öl" (by decide) (by decide) (by decide)
    (by decide +kernel) (by decide +kernel)⟩

/-- A final sigma has a weight of its own, so a text that ends in a capital one comes behind others
that begin with its small letters. -/
theorem primary_final_sigma :
    ((ofLocale ⟨"en", none, none⟩).key (lowercaseString "ΑΣ")).primary ≠
      ((ofLocale ⟨"en", none, none⟩).key "ΑΣ").primary ∧
    (ofLocale ⟨"en", none, none⟩).compareTexts (lowercaseString "ΑΣ") "αςα" = .lt ∧
    (ofLocale ⟨"en", none, none⟩).compareTexts "αςα" "ΑΣ" = .lt ∧
    ((ofLocale ⟨"en", none, none⟩).key "αςα").primary ≠
      ((ofLocale ⟨"en", none, none⟩).key "ΑΣ").primary := by
  decide +kernel

end Collation

end PagedSearch
