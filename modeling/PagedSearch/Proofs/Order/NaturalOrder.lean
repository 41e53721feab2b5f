import PagedSearch.Order.Hits
import PagedSearch.Proofs.Order.Comparison

/-!
# The natural order of each kind of criterion

Scores run from best to worst, all else ascends. A value that is missing or does not read as the
type of its criterion counts as zero, and texts that are missing come first. Only a numeric
comparator refuses values, those that are no numbers.
-/

namespace PagedSearch

def Index.documentOf (index : Index) (hit : Hit) : Document :=
  (index.document? hit.id).getD ⟨[]⟩

namespace ValueType

def wordBits? : ValueType → Option Nat
  | int => some 32
  | short => some 16
  | long => some 64
  | byte => some 8
  | float | double | string | stringValue => none

/-- The integer that a value writes in a word of a size, or zero if it is missing or writes none. -/
def CountsAsWord (bits : Nat) (value : Option StoredValue) (i : Int) : Prop :=
  (∃ v, value = some v ∧ readWord? bits (Unicode.trim v.display.toList) = some i) ∨
    i = 0 ∧ ∀ v, value = some v → readWord? bits (Unicode.trim v.display.toList) = none

/-- The number that a value writes, or zero if it is missing or writes none. -/
def CountsAsNumber {f : BinaryFormat} (value : Option StoredValue) (x : Binary f) : Prop :=
  (∃ v, value = some v ∧ readBinary? f (Unicode.trim v.display.toList) = some x) ∨
    x = 0 ∧ ∀ v, value = some v → readBinary? f (Unicode.trim v.display.toList) = none

private theorem getD_bind_eq_iff {α β : Type} {value : Option α} {read : α → Option β}
    {zero x : β} : (value.bind read).getD zero = x ↔
      (∃ v, value = some v ∧ read v = some x) ∨ x = zero ∧ ∀ v, value = some v → read v = none := by
  cases value with
  | none => simp [eq_comm]
  | some v => cases hv : read v <;> simp [hv, eq_comm]

theorem integerOf_eq_iff {bits : Nat} {value : Option StoredValue} {i : Int} :
    integerOf bits value = i ↔ CountsAsWord bits value i := getD_bind_eq_iff

theorem realOf_eq_iff {f : BinaryFormat} {value : Option StoredValue} {x : Binary f} :
    realOf f value = x ↔ CountsAsNumber value x := getD_bind_eq_iff

end ValueType

namespace ValueComparator

/-- An article leads a text if a blank separates it from the rest. -/
def Leads (article text rest : List Char) : Prop :=
  ∃ c behind, text = article ++ c :: behind ∧ Unicode.isSpace c = true ∧
    rest = Unicode.trimStart behind

private theorem afterArticle?_eq_some_iff {article text rest : List Char} :
    afterArticle? article text = some rest ↔ Leads article text rest := by
  unfold afterArticle? Leads
  constructor
  · intro h
    split at h
    · rename_i hlead
      obtain ⟨behind, rfl⟩ := List.isPrefixOf_iff_prefix.mp hlead
      rw [List.drop_left] at h
      cases behind with
      | nil => cases h
      | cons c behind =>
        cases hspace : Unicode.isSpace c <;> simp [hspace] at h
        exact ⟨c, behind, rfl, hspace, h.symm⟩
    · cases h
  · rintro ⟨c, behind, rfl, hspace, rfl⟩
    have hlead : article.isPrefixOf (article ++ c :: behind) = true :=
      List.isPrefixOf_iff_prefix.mpr (List.prefix_append _ _)
    simp [hlead, hspace]

/-- The first of the articles that leads a text is left out with the blanks behind it. -/
theorem skipArticle_cases (articles : List (List Char)) (text : List Char) :
    (∃ before article after, articles = before ++ article :: after ∧
      Leads article text (skipArticle articles text) ∧
      ∀ other ∈ before, ∀ rest, ¬ Leads other text rest) ∨
    (∀ article ∈ articles, ∀ rest, ¬ Leads article text rest) ∧
      skipArticle articles text = text := by
  have hnone {article : List Char} (h : afterArticle? article text = none) (rest : List Char) :
      ¬ Leads article text rest := by
    intro hleads
    rw [afterArticle?_eq_some_iff.mpr hleads] at h
    cases h
  unfold skipArticle
  rcases hfound : articles.findSome? fun article => afterArticle? article text with - | rest
  · right
    refine ⟨?_, rfl⟩
    intro article harticle
    exact hnone (List.findSome?_eq_none_iff.mp hfound article harticle)
  · left
    obtain ⟨before, article, after, rfl, hafter, hbefore⟩ :=
      List.findSome?_eq_some_iff.mp hfound
    exact ⟨before, article, after, rfl, afterArticle?_eq_some_iff.mp hafter,
      fun other hother => hnone (hbefore other hother)⟩

end ValueComparator

def missingFirst {α : Type} [Ord α] : Option α → Option α → Ordering
  | none, none => .eq
  | none, some _ => .lt
  | some _, none => .gt
  | some x, some y => compare x y

theorem compare_eq_missingFirst {α : Type} [Ord α] (x y : Option α) :
    compare x y = missingFirst x y := by
  cases x <;> cases y <;> rfl

namespace Criterion

variable (c : Criterion) (index : Index)

def valueOf (hit : Hit) : Option StoredValue := (index.documentOf hit).value? c.field

def natural (a b : Hit) : Except OrderFault Ordering :=
  c.naturalOrder (c.keyOf a (index.documentOf a)) (c.keyOf b (index.documentOf b))

variable {c index} {a b : Hit}

theorem natural_score (hkind : c.kind = .score) :
    c.natural index a b = .ok (b.score.compareTotal a.score) := by
  simp only [natural, naturalOrder, keyOf, hkind]

theorem natural_doc (hkind : c.kind = .doc) :
    c.natural index a b = .ok (compare a.id b.id) := by
  simp only [natural, naturalOrder, keyOf, hkind]

section Typed

variable {type : ValueType} (hkind : c.kind = .typed type)

include hkind

theorem natural_word {bits : Nat} (hbits : type.wordBits? = some bits) {i j : Int}
    (ha : ValueType.CountsAsWord bits (c.valueOf index a) i)
    (hb : ValueType.CountsAsWord bits (c.valueOf index b) j) :
    c.natural index a b = .ok (compare i j) := by
  rw [← ValueType.integerOf_eq_iff, valueOf] at ha hb
  cases type with
  | int | short | long | byte =>
    obtain rfl := Option.some.inj hbits
    simp only [natural, naturalOrder, keyOf, hkind, ValueType.keyOf, ha, hb]
  | float | double | string | stringValue => cases hbits

/-- Single precision numbers are compared in double precision. -/
theorem natural_float (htype : type = .float) {x y : Binary32}
    (ha : ValueType.CountsAsNumber (c.valueOf index a) x)
    (hb : ValueType.CountsAsNumber (c.valueOf index b) y) :
    c.natural index a b = .ok ((x.convert : Binary64).compareTotal y.convert) := by
  rw [← ValueType.realOf_eq_iff, valueOf] at ha hb
  subst htype
  simp only [natural, naturalOrder, keyOf, hkind, ValueType.keyOf, ha, hb]

theorem natural_double (htype : type = .double) {x y : Binary64}
    (ha : ValueType.CountsAsNumber (c.valueOf index a) x)
    (hb : ValueType.CountsAsNumber (c.valueOf index b) y) :
    c.natural index a b = .ok (x.compareTotal y) := by
  rw [← ValueType.realOf_eq_iff, valueOf] at ha hb
  subst htype
  simp only [natural, naturalOrder, keyOf, hkind, ValueType.keyOf, ha, hb]

theorem natural_text (htype : type = .string ∨ type = .stringValue) :
    c.natural index a b = .ok (missingFirst ((c.valueOf index a).map StoredValue.display)
      ((c.valueOf index b).map StoredValue.display)) := by
  rw [← compare_eq_missingFirst]
  rcases htype with rfl | rfl <;>
    simp only [natural, naturalOrder, keyOf, hkind, ValueType.keyOf, valueOf]

end Typed

theorem natural_collated {locale : Locale} (hkind : c.kind = .collated locale) :
    c.natural index a b = .ok (missingFirst
      ((c.valueOf index a).map fun v => (Collation.ofLocale locale).key v.display)
      ((c.valueOf index b).map fun v => (Collation.ofLocale locale).key v.display)) := by
  rw [← compare_eq_missingFirst]
  simp only [natural, naturalOrder, keyOf, hkind, valueOf]

section Custom

variable {identifier : String} {parameters : List String}

theorem natural_length (hkind : c.kind = .custom ⟨identifier, parameters, .length⟩) :
    c.natural index a b = .ok (compare ((c.valueOf index a).elim 0 (·.display.length))
      ((c.valueOf index b).elim 0 (·.display.length))) := by
  simp only [natural, naturalOrder, keyOf, hkind, ValueComparator.order, Except.mapError, valueOf]
  cases (index.documentOf a).value? c.field <;> cases (index.documentOf b).value? c.field <;> rfl

/-- Texts are trimmed and lowercased before a leading article is left out. -/
theorem natural_articleSkipping {articles : List (List Char)}
    (hkind : c.kind = .custom ⟨identifier, parameters, .articleSkipping articles⟩) :
    c.natural index a b = .ok (missingFirst
      ((c.valueOf index a).map (ValueComparator.titleText articles))
      ((c.valueOf index b).map (ValueComparator.titleText articles))) := by
  rw [← compare_eq_missingFirst]
  simp only [natural, naturalOrder, keyOf, hkind, ValueComparator.order, Except.mapError, valueOf]

/-- The numbers that a numeric criterion compares, or the first value that is none. -/
theorem natural_numeric {missing : Option Binary64}
    (hkind : c.kind = .custom ⟨identifier, parameters, .numeric missing⟩) (a b : Hit) :
    c.natural index a b =
      match ValueComparator.numberOf missing (c.valueOf index a),
        ValueComparator.numberOf missing (c.valueOf index b) with
      | .ok x, .ok y => .ok (x.compareTotal y)
      | .error fault, _ => .error (.comparator identifier c.field fault)
      | .ok _, .error fault => .error (.comparator identifier c.field fault) := by
  simp only [natural, naturalOrder, keyOf, hkind, ValueComparator.order, valueOf]
  rcases ValueComparator.numberOf missing ((index.documentOf a).value? c.field) with f | x <;>
    rcases ValueComparator.numberOf missing ((index.documentOf b).value? c.field) with g | y <;>
      rfl

end Custom

end Criterion

end PagedSearch
