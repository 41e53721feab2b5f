import PagedSearch.Proofs.Number.Sign
import PagedSearch.Proofs.Order.Rendering

/-!
# Numbers for missing values

The numeric comparator takes the number that stands for missing values as its parameter. Hyphens
separate parameters, so a minus sign in front of the number counts as one of them, and the number
that is taken is the one without the sign.
-/

namespace PagedSearch

def Registry.HasNumeric (registry : Registry) : Prop :=
  ∀ parameters, registry.resolve numericIdentifier parameters =
    builtin.resolve numericIdentifier parameters

def numericCriterion (field number : String) : String :=
  field ++ "," ++ Registry.numericIdentifier ++ "(" ++ number ++ ")"

private theorem Registry.resolve_builtin_numeric {digits : List Char} {x : Binary64}
    (h : readBinary? .double digits = some x) :
    builtin.resolve numericIdentifier [.ofList digits] = .ok (.numeric (some x)) := by
  show (firstApplied _ [.plain "NumericComparator()" (.numeric none),
    .numericWithMissing]).mapError _ = _
  simp [firstApplied, ComparatorRecipe.plain, ComparatorRecipe.numericWithMissing, h,
    Except.mapError]

section Decimal

variable {text : List Char}

private theorem mem_of_plain (hplain : ∀ c ∈ (splitSign text).2, c ∈ decimalChars) {c : Char}
    (hc : c ∈ text) : c ∈ '+' :: decimalChars ∨ text.head? = some c ∧ c = '-' := by
  unfold splitSign at hplain
  split at hplain
  · rcases List.mem_cons.mp hc with rfl | hc
    · exact .inr ⟨rfl, rfl⟩
    · exact .inl (List.mem_cons_of_mem _ (hplain c hc))
  · rcases List.mem_cons.mp hc with rfl | hc
    · exact .inl List.mem_cons_self
    · exact .inl (List.mem_cons_of_mem _ (hplain c hc))
  · exact .inl (List.mem_cons_of_mem _ (hplain c hc))

private theorem trim_of_plain (hplain : ∀ c ∈ (splitSign text).2, c ∈ decimalChars) :
    Unicode.trim text = text := by
  have hspace (c : Char) (hc : c ∈ text) : Unicode.isSpace c = false := by
    have hdecimal : ∀ d ∈ '+' :: decimalChars, Unicode.isSpace d = false := by decide
    rcases mem_of_plain hplain hc with hc | ⟨-, rfl⟩
    · exact hdecimal c hc
    · decide
  exact Unicode.trim_eq_self (fun c hc => hspace c (List.mem_of_mem_head? hc))
    (fun c hc => hspace c (List.mem_of_getLast? hc))

private theorem isCore_of_plain (hplain : ∀ c ∈ (splitSign text).2, c ∈ decimalChars)
    (hne : text ≠ []) (hminus : text.head? ≠ some '-') : IsCore ['-', ')', ',', ';'] text := by
  refine ⟨hne, trim_of_plain hplain, fun c hc => ?_⟩
  have hother : ∀ d ∈ '+' :: decimalChars, d ∉ ['-', ')', ',', ';'] := by decide
  rcases mem_of_plain hplain hc with hc | ⟨hhead, rfl⟩
  · exact hother c hc
  · exact absurd hhead hminus

private theorem splitSign_of_plain (hplain : ∀ c ∈ text, c ∈ decimalChars) :
    splitSign text = (false, text) := by
  have hsign : '-' ∉ decimalChars ∧ '+' ∉ decimalChars := by decide
  unfold splitSign
  split
  · exact absurd (hplain '-' List.mem_cons_self) hsign.1
  · exact absurd (hplain '+' List.mem_cons_self) hsign.2
  · rfl

private theorem IsDecimal.behind_minus {digits : List Char} {x : Binary64}
    (h : IsDecimal ('-' :: digits) x) :
    ∃ y, IsDecimal digits y ∧ digits.head? ≠ some '-' ∧ x = -y ∧ y.compareTotal x = .gt := by
  have hplain : ∀ c ∈ digits, c ∈ decimalChars := h.plain
  have hsplit := splitSign_of_plain hplain
  have hread := h.read
  rw [readBinary?_of_plain h.plain] at hread
  obtain ⟨y, hy, hneg, hbehind⟩ := readDecimal?_true BinaryFormat.isProper_double hread
  have hdecimal : IsDecimal digits y := by
    refine ⟨by rwa [hsplit], ?_⟩
    rw [readBinary?_of_plain (by rwa [hsplit]), hsplit]
    exact hy
  refine ⟨y, hdecimal, ?_, hneg, hbehind⟩
  intro hhead
  exact absurd (hplain '-' (List.mem_of_mem_head? hhead)) (by decide)

private theorem IsDecimal.ne_nil {x : Binary64} (h : IsDecimal text x) : text ≠ [] := by
  rintro rfl
  have hread := h.read
  cases hread

private theorem IsDecimal.number?_text {number : String} {x : Binary64}
    (h : IsDecimal number.toList x) : (StoredValue.text number).number? = some x := by
  rw [StoredValue.number?, trim_of_plain h.plain, h.read]

end Decimal

namespace SortSpec

variable {registry : Registry} {field number : String} {x : Binary64}

private theorem ofText_of_spells (hregistry : registry.HasNumeric)
    (hblank : Unicode.trim field.toList ≠ []) (hfield : ∀ c ∈ field.toList, c ∉ [',', ';'])
    {digits : List Char} (hdigits : IsCore ['-', ')', ',', ';'] digits)
    (hread : readBinary? .double digits = some x) (spells : Spells '-' [digits] number.toList) :
    ofText registry (numericCriterion field number) =
      .ok [⟨Unicode.trimString field,
        .custom ⟨Registry.numericIdentifier, [.ofList digits], .numeric (some x)⟩, false⟩] := by
  have hpointed : '.' ∈ Registry.numericIdentifier.toList := by decide
  have hlong : 3 ≤ Registry.numericIdentifier.length := by decide
  have hidentifier : Registry.numericIdentifier.toList.all
      (fun c => !Unicode.isSpace c && !(['(', ')', ',', ';'].contains c)) = true := by decide
  have hwritable : CustomOrder.Writable registry
      ⟨Registry.numericIdentifier, [.ofList digits], .numeric (some x)⟩ :=
    { pointed := hpointed
      long := hlong
      identifier := fun c hc => by simpa using List.all_eq_true.mp hidentifier c hc
      parameters := by simpa using hdigits
      resolves := by rw [hregistry, Registry.resolve_builtin_numeric hread] }
  have hwrites : CriterionKind.Writes
      (.custom ⟨Registry.numericIdentifier, [.ofList digits], .numeric (some x)⟩)
      (Registry.numericIdentifier.toList ++ '(' :: (number.toList ++ [')'])) :=
    .custom (by simpa using spells)
  have hcustom : CriterionKind.Writable registry
      (.custom ⟨Registry.numericIdentifier, [.ofList digits], .numeric (some x)⟩) := hwritable
  have hkind := hwrites.isKind hcustom
  rw [hwritable.trim_applied] at hkind
  have htext : (numericCriterion field number).toList = [','].intercalate
      [field.toList, Registry.numericIdentifier.toList ++ '(' :: (number.toList ++ [')'])] := by
    simp [numericCriterion, List.intercalate_cons_cons]
  have hpiece : pieces ';' (numericCriterion field number).toList =
      [(numericCriterion field number).toList] := by
    apply pieces_of_not_mem
    · intro hmem
      rw [htext] at hmem
      rcases (joins_intercalate _).mem hmem with hcomma | ⟨part, hpart, hmem⟩
      · cases hcomma
      · rcases List.mem_pair.mp hpart with rfl | rfl
        · exact hfield ';' hmem (by decide)
        · exact hwrites.not_mem hcustom (.inr rfl) hmem
    · rw [htext]
      simp [List.intercalate_cons_cons]
  have hlists : Lists ',' [Unicode.trim field.toList,
      Registry.numericIdentifier.toList ++ '(' :: (number.toList ++ [')'])]
      (Unicode.trim (numericCriterion field number).toList) := by
    rw [lists_iff, htext, (spells_intercalate _).trimmedPieces_trim_eq (by decide)]
    · simp [hwritable.trim_applied]
    · refine List.forall_mem_cons.mpr ⟨⟨hblank, fun hc => hfield ',' hc (by decide)⟩,
        List.forall_mem_singleton.mpr ⟨?_, hwrites.not_mem hwritable (.inl rfl)⟩⟩
      rw [hwritable.trim_applied]
      simp
  rw [ofText_eq_ok_iff, hpiece]
  exact .cons (.kind hlists hblank hkind) .nil

/-- The numeric criterion with a decimal literal is read for every field that a criterion can name.
A literal without a minus sign is the number for missing values, which are then sorted as the stored
literal is. A minus sign is passed over: missing values are sorted by the number without it, which
stands behind the stored literal. -/
theorem ofText_numericCriterion (hregistry : registry.HasNumeric)
    (hblank : Unicode.trim field.toList ≠ []) (hfield : ∀ c ∈ field.toList, c ∉ [',', ';'])
    (hnumber : IsDecimal number.toList x) :
    (number.toList.head? ≠ some '-' →
      ofText registry (numericCriterion field number) =
        .ok [⟨Unicode.trimString field,
          .custom ⟨Registry.numericIdentifier, [number], .numeric (some x)⟩, false⟩] ∧
      ∀ value, (ValueComparator.numeric (some x)).order none value =
          (ValueComparator.numeric (some x)).order (some (.text number)) value ∧
        (ValueComparator.numeric (some x)).order value none =
          (ValueComparator.numeric (some x)).order value (some (.text number))) ∧
    ∀ digits, number.toList = '-' :: digits → ∃ y, readBinary? .double digits = some y ∧ x = -y ∧
      ofText registry (numericCriterion field number) =
        .ok [⟨Unicode.trimString field,
          .custom ⟨Registry.numericIdentifier, [.ofList digits], .numeric (some y)⟩, false⟩] ∧
      (ValueComparator.numeric (some y)).order none (some (.text number)) = .ok .gt := by
  have hvalue := hnumber.number?_text
  constructor
  · intro hminus
    have hcore := isCore_of_plain hnumber.plain hnumber.ne_nil hminus
    have hspells : Spells '-' [number.toList] number.toList :=
      ⟨_, .cons (.refl _) .nil, .last _⟩
    constructor
    · simpa using ofText_of_spells hregistry hblank hfield hcore hnumber.read hspells
    · intro value
      simp [ValueComparator.order, ValueComparator.numberOf, hvalue]
  · intro digits hdigits
    obtain ⟨y, hy, hminus, hneg, hbehind⟩ := (hdigits ▸ hnumber).behind_minus
    have hcore := isCore_of_plain hy.plain hy.ne_nil hminus
    have hspells : Spells '-' [digits] number.toList := by
      rw [hdigits]
      exact ⟨_, .cons (.refl _) .nil, .skip (.last _)⟩
    refine ⟨y, hy.read, hneg, ofText_of_spells hregistry hblank hfield hcore hy.read hspells, ?_⟩
    simp [ValueComparator.order, ValueComparator.numberOf, hvalue, hbehind, bind, Except.bind, pure,
      Except.pure]

theorem ofText_numericCriterion_price : ∃ x y : Binary64,
    IsDecimal "2.50".toList x ∧ IsDecimal "-2.50".toList y ∧ y = -x ∧
    ofText .builtin (numericCriterion "price" "2.50") =
      .ok [⟨"price", .custom ⟨Registry.numericIdentifier, ["2.50"], .numeric (some x)⟩, false⟩] ∧
    ofText .builtin (numericCriterion "price" "-2.50") =
      .ok [⟨"price", .custom ⟨Registry.numericIdentifier, ["2.50"], .numeric (some x)⟩,
        false⟩] := by
  have hread : (readBinary? .double "2.50".toList).isSome = true := rfl
  have hnegative : (readBinary? .double "-2.50".toList).isSome = true := rfl
  have hfield : Unicode.trimString "price" = "price" := by decide
  obtain ⟨x, hx⟩ := Option.isSome_iff_exists.mp hread
  obtain ⟨y, hy⟩ := Option.isSome_iff_exists.mp hnegative
  have hplain : IsDecimal "2.50".toList x := ⟨by decide, hx⟩
  have hminus : IsDecimal "-2.50".toList y := ⟨by decide, hy⟩
  have hbuiltin : Registry.builtin.HasNumeric := fun _ => rfl
  have hblank : Unicode.trim "price".toList ≠ [] := by decide
  have hname : ∀ c ∈ "price".toList, c ∉ [',', ';'] := by decide
  have hpositive := ofText_numericCriterion hbuiltin hblank hname hplain
  have hsigned := ofText_numericCriterion hbuiltin hblank hname hminus
  rw [hfield] at hpositive hsigned
  have hkept := hpositive.1 (by decide)
  have hpassed := hsigned.2 ['2', '.', '5', '0'] (by decide)
  obtain ⟨z, hz, hneg, hdropped, -⟩ := hpassed
  have hsame : x = z := Option.some.inj (hx.symm.trans hz)
  subst hsame
  exact ⟨x, y, hplain, hminus, hneg, hkept.1, hdropped⟩

/-- The number minus five is not the one that its criterion takes for missing values. -/
theorem minus_sign_passed_over :
    ¬ ∀ x, IsDecimal "-5".toList x →
      (∃ fault, ofText .builtin (numericCriterion "price" "-5") = .error fault) ∨
      ∃ parameters, ofText .builtin (numericCriterion "price" "-5") =
        .ok [⟨"price", .custom ⟨Registry.numericIdentifier, parameters, .numeric (some x)⟩,
          false⟩] := by
  have hread : (readBinary? .double "-5".toList).isSome = true := rfl
  have hfield : Unicode.trimString "price" = "price" := by decide
  obtain ⟨x, hx⟩ := Option.isSome_iff_exists.mp hread
  have hdecimal : IsDecimal ('-' :: ['5']) x := ⟨by decide, hx⟩
  obtain ⟨y, hy, hminus, -, hbehind⟩ := hdecimal.behind_minus
  have hspells : Spells '-' [['5']] "-5".toList := ⟨_, .cons (.refl _) .nil, .skip (.last _)⟩
  have hbuiltin : Registry.builtin.HasNumeric := fun _ => rfl
  have hblank : Unicode.trim "price".toList ≠ [] := by decide
  have hname : ∀ c ∈ "price".toList, c ∉ [',', ';'] := by decide
  have hcore := isCore_of_plain hy.plain hy.ne_nil hminus
  have htaken := ofText_of_spells hbuiltin hblank hname hcore hy.read hspells
  rw [hfield] at htaken
  intro h
  have hdouble : y ≠ x := by
    rintro rfl
    rw [Binary.compareTotal, Int.compare_eq_gt] at hbehind
    omega
  rcases h x hdecimal with ⟨fault, hfault⟩ | ⟨parameters, hkept⟩
  · rw [htaken] at hfault
    cases hfault
  · rw [htaken] at hkept
    simp only [Except.ok.injEq, List.cons.injEq, Criterion.mk.injEq, CriterionKind.custom.injEq,
      CustomOrder.mk.injEq, ValueComparator.numeric.injEq, Option.some.injEq] at hkept
    exact hdouble hkept.1.2.1.2.2

end SortSpec

end PagedSearch
