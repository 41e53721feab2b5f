import PagedSearch.Proofs.Json.Literal

/-!
# Literals of binary numbers

A finite number is written as a literal with a fraction or with an exponent. What is written for a
number in single precision has a value in double precision: no step of its scaling overflows.
-/

namespace PagedSearch

namespace JsonLiteral

variable {l : JsonLiteral} {significand places : Nat} {digits : List Char} {exponent : Int}

private theorem fill_lt (h : significand < wordBound) (digits : List Char) :
    (fill significand digits).1 < wordBound := by
  induction digits generalizing significand with
  | nil => exact h
  | cons c rest ih =>
    unfold fill
    dsimp only
    split
    · exact ih ‹_›
    · exact h

private theorem pow_le_wordBound (h : places ≤ 19) : 10 ^ places ≤ wordBound :=
  (Nat.pow_le_pow_right (by decide) h).trans (by decide)

private theorem next_lt {c : Char} (hc : isDigit c = true) (h : significand < 10 ^ places) :
    10 * significand + (c.toNat - '0'.toNat) < 10 ^ (places + 1) := by
  have hdigit : c.toNat ≤ '9'.toNat := (Bool.and_eq_true_iff.mp hc).2 |> of_decide_eq_true
  have hnine : '9'.toNat - '0'.toNat = 9 := rfl
  rw [pow_succ]
  omega

private theorem fill_of_short (hdigits : ∀ c ∈ digits, isDigit c = true)
    (h : significand < 10 ^ places) (hshort : places + digits.length ≤ 19) :
    ∃ n, fill significand digits = (n, []) ∧ n < 10 ^ (places + digits.length) := by
  induction digits generalizing significand places with
  | nil => exact ⟨significand, rfl, h⟩
  | cons c rest ih =>
    obtain ⟨hc, hrest⟩ := List.forall_mem_cons.mp hdigits
    rw [List.length_cons] at hshort ⊢
    have hnext := next_lt hc h
    have hword : 10 * significand + (c.toNat - '0'.toNat) < wordBound :=
      hnext.trans_le (pow_le_wordBound (by omega))
    obtain ⟨n, hn, hlt⟩ := ih hrest hnext (by omega)
    refine ⟨n, ?_, by rwa [Nat.add_right_comm, Nat.add_assoc] at hlt⟩
    rw [fill, if_pos hword, hn]

private theorem powerOfTen_eq {n : Nat} (h : n < 400) :
    powerOfTen n = .ofQuotient false (10 ^ n) 1 := by
  have hlength : (Nat.toDigits 10 1).length = 1 := rfl
  have hreach : Binary.decimalReach = 400 := rfl
  have hsmall : (decide (1 = 0) || decide ((n : Int) + (1 : Nat) < -400)) = false := by
    simp
    omega
  unfold powerOfTen Binary.ofDecimal
  dsimp only
  rw [hlength, hreach, hsmall, if_neg Bool.false_ne_true, if_neg (by omega), if_pos (by omega),
    Nat.one_mul]
  rfl

private theorem exists_scale? (hword : significand < wordBound) (hexponent : exponent ≤ 38) :
    ∃ x, scale? significand exponent = some x := by
  have hreach : BinaryFormat.double.reach = 1024 := by decide
  -- the factors are below 2^64 and 2^127, so there is room for three roundings below 2^1024
  have hsignificand : (Binary.ofNat significand : Binary64).Below 66 :=
    Binary.ofQuotient_below BinaryFormat.isProper_double (by omega) Nat.one_pos
      (by rwa [Nat.one_mul]) false
  have hten : 10 ^ exponent.toNat < 1 * 2 ^ 127 :=
    (Nat.pow_le_pow_right (by decide) (by omega : exponent.toNat ≤ 38)).trans_lt (by decide)
  have hpower : (powerOfTen exponent.toNat).Below 129 := by
    rw [powerOfTen_eq (by omega)]
    exact Binary.ofQuotient_below BinaryFormat.isProper_double (by omega) Nat.one_pos hten false
  have hproduct := Binary.mul_below BinaryFormat.isProper_double (by omega) hsignificand hpower
  unfold scale?
  dsimp only
  split
  · exact ⟨_, rfl⟩
  split
  · exact ⟨_, rfl⟩
  rw [if_pos (by unfold scaleLimit; omega), hproduct.isInfinite]
  exact ⟨_, rfl⟩

def exponentValue (l : JsonLiteral) : Int :=
  if l.exponentNegative then -(digitsValue l.exponent : Int) else digitsValue l.exponent

private theorem exists_real? (hdigits : ∀ c ∈ l.whole, isDigit c = true)
    (hwhole : l.whole.length ≤ 19) (hexponent : l.exponentValue ≤ 38) : ∃ x, l.real? = some x := by
  have hone : 0 < 10 ^ 0 := Nat.one_pos
  obtain ⟨n, hfill, hn⟩ := fill_of_short hdigits hone (by omega)
  have hword : n < wordBound := hn.trans_le (pow_le_wordBound (by omega))
  have hfilled := fill_lt hword l.fraction
  rcases hfraction : fill n l.fraction with ⟨significand, ignored⟩
  rw [hfraction] at hfilled
  have hmoderate : ((([] : List Char).length : Int) - (l.fraction.length - ignored.length : Nat)) +
      (if l.exponentNegative then -(digitsValue l.exponent : Int) else digitsValue l.exponent) ≤
      38 := by
    unfold exponentValue at hexponent
    rw [List.length_nil]
    omega
  obtain ⟨x, hx⟩ := exists_scale? hfilled hmoderate
  refine ⟨if l.negative then -x else x, ?_⟩
  unfold real?
  rw [hfill]
  dsimp only
  rw [hfraction]
  dsimp only
  rw [hx]
  rfl

private theorem exists_number? (hdigits : ∀ c ∈ l.whole, isDigit c = true)
    (hwhole : l.whole.length ≤ 19) (hexponent : l.exponentValue ≤ 38)
    (hintegral : (l.fraction.isEmpty && l.exponent.isEmpty) = false) :
    ∃ x, l.number? = some (.real x) := by
  obtain ⟨x, hx⟩ := exists_real? hdigits hwhole hexponent
  refine ⟨x, ?_⟩
  unfold number?
  dsimp only
  rw [hintegral, hx]
  rfl

end JsonLiteral

namespace Decimal

open JsonLiteral

variable {d : Decimal}

def IsReduced (d : Decimal) : Prop := d.digits = 0 → d.exponent = 0

private theorem isDigit_zeros (n : Nat) : ∀ c ∈ zeros n, isDigit c = true := by
  intro c hc
  rw [List.eq_of_mem_replicate hc]
  rfl

private theorem digitChars_ne_nil (d : Decimal) : d.digitChars ≠ [] := Nat.toDigits_ne_nil

private theorem isDigit_digitChars (d : Decimal) : ∀ c ∈ d.digitChars, isDigit c = true :=
  isDigit_of_mem_toDigits

private theorem isDigit_split (d : Decimal) :
    (∀ c ∈ d.split.1, isDigit c = true) ∧ ∀ c ∈ d.split.2, isDigit c = true := by
  have hdigits := d.isDigit_digitChars
  unfold split
  dsimp only
  split
  · exact ⟨List.forall_mem_append.mpr ⟨hdigits, isDigit_zeros _⟩, nofun⟩
  split
  · exact ⟨fun c hc => hdigits c (List.mem_of_mem_take hc),
      fun c hc => hdigits c (List.mem_of_mem_drop hc)⟩
  · exact ⟨by simp [isDigit], List.forall_mem_append.mpr ⟨isDigit_zeros _, hdigits⟩⟩

private theorem split_ne_nil (d : Decimal) : d.split.1 ≠ [] := by
  have hdigits := d.digitChars_ne_nil
  unfold split
  dsimp only
  split
  · simp [hdigits]
  split
  · simp [hdigits]
    omega
  · simp

private theorem leading_split (h : d.IsReduced) :
    d.split.1.head? = some '0' → d.split.1.length = 1 := by
  by_cases hdigits : d.digits = 0
  · have hchars : d.digitChars = ['0'] := by rw [digitChars, hdigits]; rfl
    simp [split, h hdigits, hchars, zeros]
  have hhead : d.digitChars.head? ≠ some '0' := head?_toDigits hdigits
  unfold split
  dsimp only
  split
  · rw [List.head?_append_of_ne_nil _ d.digitChars_ne_nil]
    exact fun hzero => absurd hzero hhead
  split
  · rw [List.head?_take, if_neg (by omega)]
    exact fun hzero => absurd hzero hhead
  · exact fun _ => rfl

private theorem length_split_le {most : Nat} (h : d.leadExponent ≤ most) :
    d.split.1.length ≤ most + 1 := by
  unfold leadExponent at h
  unfold split
  dsimp only
  split
  · simp only [List.length_append, zeros, List.length_replicate]
    omega
  split
  · rw [List.length_take]
    omega
  · simp

def fractionDigits (d : Decimal) : List Char :=
  match d.split.2 with
  | [] => ['0']
  | digits => digits

def pointedLiteral (d : Decimal) (negative : Bool) : JsonLiteral :=
  ⟨negative, d.split.1, d.fractionDigits, false, []⟩

def scientificLiteral (d : Decimal) (negative : Bool) : JsonLiteral :=
  ⟨negative, d.digitChars.take 1, d.digitChars.drop 1, d.leadExponent < 0,
    Nat.toDigits 10 d.leadExponent.natAbs⟩

private theorem fractionDigits_ne_nil (d : Decimal) : d.fractionDigits ≠ [] := by
  unfold fractionDigits
  split
  · simp
  · assumption

private theorem isPlain_pointedLiteral (h : d.IsReduced) (negative : Bool) :
    (d.pointedLiteral negative).IsPlain where
  whole_ne_nil := d.split_ne_nil
  whole_digits := d.isDigit_split.1
  leading := leading_split h
  fraction_digits := by
    dsimp only [pointedLiteral, fractionDigits]
    split
    · simp [isDigit]
    · exact d.isDigit_split.2
  exponent_digits := nofun
  exponent_sign _ := rfl

private theorem isPlain_scientificLiteral (d : Decimal) (negative : Bool) :
    (d.scientificLiteral negative).IsPlain where
  whole_ne_nil := by simp [scientificLiteral, d.digitChars_ne_nil]
  whole_digits c hc := d.isDigit_digitChars c (List.mem_of_mem_take hc)
  leading _ := by
    have hlength : 0 < d.digitChars.length := Nat.length_toDigits_pos
    rw [scientificLiteral, List.length_take]
    omega
  fraction_digits c hc := d.isDigit_digitChars c (List.mem_of_mem_drop hc)
  exponent_digits := isDigit_of_mem_toDigits
  exponent_sign h := absurd h Nat.toDigits_ne_nil

private theorem text_pointedLiteral (d : Decimal) (negative : Bool) :
    (d.pointedLiteral negative).text = (if negative then ['-'] else []) ++ d.pointed := by
  rcases hsplit : d.split with ⟨whole, _ | ⟨c, fraction⟩⟩
  · simp [text, pointedLiteral, fractionText, exponentText, fractionDigits, pointed, hsplit]
  · simp [text, pointedLiteral, fractionText, exponentText, fractionDigits, pointed, hsplit]

private theorem text_scientificLiteral (d : Decimal) (negative : Bool) :
    (d.scientificLiteral negative).text = (if negative then ['-'] else []) ++ (d.mantissa ++
      'e' :: (if d.leadExponent < 0 then '-' else '+') ::
        Nat.toDigits 10 d.leadExponent.natAbs) := by
  have hexponent : (d.scientificLiteral negative).exponentText =
      'e' :: (if d.leadExponent < 0 then '-' else '+') ::
        Nat.toDigits 10 d.leadExponent.natAbs := by
    rw [exponentText_of_ne_nil Nat.toDigits_ne_nil]
    simp [scientificLiteral]
  have hne := d.digitChars_ne_nil
  rw [text, hexponent]
  rcases hdigits : d.digitChars with _ | ⟨c, _ | ⟨c', rest⟩⟩
  · exact absurd hdigits hne
  · simp [scientificLiteral, fractionText, mantissa, hdigits]
  · simp [scientificLiteral, fractionText, mantissa, hdigits]

private theorem exists_number?_pointedLiteral (h : d.leadExponent ≤ 12) (negative : Bool) :
    ∃ x, (d.pointedLiteral negative).number? = some (.real x) := by
  have hlength : d.split.1.length ≤ 13 := length_split_le h
  refine exists_number? d.isDigit_split.1 (hlength.trans (by decide)) ?_ ?_
  · simp [pointedLiteral, exponentValue, digitsValue]
  · simp [pointedLiteral, d.fractionDigits_ne_nil]

private theorem exponentValue_scientificLiteral (d : Decimal) (negative : Bool) :
    (d.scientificLiteral negative).exponentValue = d.leadExponent := by
  simp only [exponentValue, scientificLiteral, digitsValue_toDigits, decide_eq_true_eq]
  omega

private theorem exists_number?_scientificLiteral (h : d.leadExponent ≤ 38) (negative : Bool) :
    ∃ x, (d.scientificLiteral negative).number? = some (.real x) := by
  refine exists_number? (fun c hc => d.isDigit_digitChars c (List.mem_of_mem_take hc)) ?_
    (by rwa [exponentValue_scientificLiteral]) ?_
  · exact (List.length_take_le _ _).trans (by decide)
  · simp [scientificLiteral]

end Decimal

namespace Binary

variable {f : BinaryFormat} {x : Binary f} {reach : JsonReach}

def jsonLiteral (x : Binary f) (reach : JsonReach) : JsonLiteral :=
  let d := x.shortest .toEven
  if x.isZero || (reach.least ≤ d.leadExponent && d.leadExponent ≤ reach.most) then
    d.pointedLiteral x.negative
  else d.scientificLiteral x.negative

private theorem isReduced_shortest (hfinite : x.isFinite = true) (tie : TieRule) :
    (x.shortest tie).IsReduced := by
  intro hdigits
  cases hzero : x.isZero with
  | true => rw [shortest_of_isZero hfinite hzero]
  | false => exact absurd hdigits (shortest_digits hfinite hzero tie)

theorem isPlain_jsonLiteral (hfinite : x.isFinite = true) (reach : JsonReach) :
    (x.jsonLiteral reach).IsPlain := by
  unfold jsonLiteral
  dsimp only
  split
  · exact Decimal.isPlain_pointedLiteral (isReduced_shortest hfinite .toEven) _
  · exact Decimal.isPlain_scientificLiteral _ _

theorem text_jsonLiteral (hfinite : x.isFinite = true) (reach : JsonReach) :
    (x.jsonLiteral reach).text = x.jsonText reach := by
  unfold jsonLiteral jsonText
  rw [if_pos hfinite]
  dsimp only
  split
  · exact Decimal.text_pointedLiteral _ _
  · exact Decimal.text_scientificLiteral _ _

theorem exists_number?_jsonLiteral {x : Binary32} (hfinite : x.isFinite = true) :
    ∃ y, (x.jsonLiteral .single).number? = some (.real y) := by
  unfold jsonLiteral
  dsimp only
  cases hzero : x.isZero with
  | true =>
    rw [Bool.true_or, if_pos rfl, shortest_of_isZero hfinite hzero]
    exact Decimal.exists_number?_pointedLiteral (by decide) _
  | false =>
    have hlead := leadExponent_le_single hfinite hzero .toEven
    split
    · rename_i hreach
      simp only [Bool.false_or, Bool.and_eq_true, decide_eq_true_eq] at hreach
      exact Decimal.exists_number?_pointedLiteral hreach.2 _
    · exact Decimal.exists_number?_scientificLiteral hlead _

end Binary

end PagedSearch
