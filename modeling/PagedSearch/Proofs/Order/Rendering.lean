import PagedSearch.Proofs.Order.Grammar
import PagedSearch.Proofs.Related

/-!
# Written sort specifications

A specification is written as a text with its criteria between semicolons. The field, the kind and
the flag of a criterion stand between commas, the parts of a locale and the parameters of a
comparator between hyphens. White space may be put around each of them and delimiters may be
repeated. The text is read back as the specification.
-/

namespace PagedSearch

def Padded (core text : List Char) : Prop :=
  ∃ before after, (∀ c ∈ before, Unicode.isSpace c = true) ∧
    (∀ c ∈ after, Unicode.isSpace c = true) ∧ text = before ++ (core ++ after)

def Spells (delimiter : Char) (cores : List (List Char)) (text : List Char) : Prop :=
  ∃ parts, List.Forall₂ Padded cores parts ∧ Joins delimiter parts text

section Padding

variable {delimiter c : Char} {core text : List Char} {cores : List (List Char)}

theorem Padded.refl (core : List Char) : Padded core core := ⟨[], [], by simp, by simp, by simp⟩

private theorem Padded.before (h : Padded core text) (hc : Unicode.isSpace c = true) :
    Padded core (c :: text) := by
  obtain ⟨before, after, hbefore, hafter, rfl⟩ := h
  exact ⟨c :: before, after, List.forall_mem_cons.mpr ⟨hc, hbefore⟩, hafter, rfl⟩

private theorem Padded.after (h : Padded core text) (hc : Unicode.isSpace c = true) :
    Padded core (text ++ [c]) := by
  obtain ⟨before, after, hbefore, hafter, rfl⟩ := h
  refine ⟨before, after ++ [c], hbefore, fun d hd => ?_, by simp⟩
  rcases List.mem_append.mp hd with hd | hd
  · exact hafter d hd
  · rwa [List.mem_singleton.mp hd]

private theorem Padded.trim_eq (h : Padded core text) : Unicode.trim text = Unicode.trim core := by
  obtain ⟨before, after, hbefore, hafter, rfl⟩ := h
  exact Unicode.trim_append_space hbefore hafter core

private theorem Padded.mem (h : Padded core text) (hc : c ∈ text) :
    Unicode.isSpace c = true ∨ c ∈ core := by
  obtain ⟨before, after, hbefore, hafter, rfl⟩ := h
  simp only [List.mem_append] at hc
  rcases hc with hc | hc | hc
  · exact .inl (hbefore c hc)
  · exact .inr hc
  · exact .inl (hafter c hc)

private theorem Padded.ne_nil (h : Padded core text) (hcore : core ≠ []) : text ≠ [] := by
  obtain ⟨before, after, -, -, rfl⟩ := h
  simp [hcore]

private theorem Padded.not_mem (h : Padded core text) (hspace : Unicode.isSpace c = false)
    (hc : c ∉ core) :
    c ∉ text := by
  intro hmem
  rcases h.mem hmem with hmem | hmem
  · rw [hspace] at hmem
    cases hmem
  · exact hc hmem

private theorem Spells.mem (h : Spells delimiter cores text) (hc : c ∈ text) :
    c = delimiter ∨ Unicode.isSpace c = true ∨ ∃ core ∈ cores, c ∈ core := by
  obtain ⟨parts, hpadded, hjoins⟩ := h
  refine (hjoins.mem hc).imp_right ?_
  rintro ⟨part, hpart, hc⟩
  obtain ⟨core, hcore, padded⟩ := exists_mem_of_forall₂ hpadded hpart
  exact (padded.mem hc).imp_right fun hc => ⟨core, hcore, hc⟩

private theorem Spells.not_mem (h : Spells delimiter cores text) (hne : c ≠ delimiter)
    (hspace : Unicode.isSpace c = false) (hcores : ∀ core ∈ cores, c ∉ core) : c ∉ text := by
  intro hc
  rcases h.mem hc with rfl | hc | ⟨core, hcore, hc⟩
  · exact hne rfl
  · rw [hspace] at hc
    cases hc
  · exact hcores core hcore hc

private theorem Spells.pieces (h : Spells delimiter cores text)
    (hspace : Unicode.isSpace delimiter = false)
    (hcores : ∀ core ∈ cores, core ≠ [] ∧ delimiter ∉ core) :
    List.Forall₂ Padded cores (pieces delimiter text) := by
  obtain ⟨parts, hpadded, hjoins⟩ := h
  rw [hjoins.pieces_eq]
  · exact hpadded
  · intro part hpart
    obtain ⟨core, hcore, padded⟩ := exists_mem_of_forall₂ hpadded hpart
    obtain ⟨hne, hmem⟩ := hcores core hcore
    exact ⟨padded.ne_nil hne, padded.not_mem hspace hmem⟩

private theorem Spells.trimmedPieces_eq (h : Spells delimiter cores text)
    (hspace : Unicode.isSpace delimiter = false)
    (hcores : ∀ core ∈ cores, core ≠ [] ∧ delimiter ∉ core) :
    trimmedPieces delimiter text = cores.map Unicode.trim := by
  have htrim : List.Forall₂ (· = ·) (cores.map Unicode.trim) (trimmedPieces delimiter text) :=
    List.forall₂_map_left_iff.mpr <| List.forall₂_map_right_iff.mpr <|
      (h.pieces hspace hcores).imp fun _ _ padded => padded.trim_eq.symm
  rw [List.forall₂_eq_eq_eq] at htrim
  exact htrim.symm

theorem Spells.trimmedPieces_trim_eq (h : Spells delimiter cores text)
    (hspace : Unicode.isSpace delimiter = false)
    (hcores : ∀ core ∈ cores, Unicode.trim core ≠ [] ∧ delimiter ∉ core) :
    trimmedPieces delimiter (Unicode.trim text) = cores.map Unicode.trim := by
  have hpieces : trimmedPieces delimiter text = cores.map Unicode.trim := by
    refine h.trimmedPieces_eq hspace fun core hcore => ⟨?_, (hcores core hcore).2⟩
    rintro rfl
    exact (hcores [] hcore).1 rfl
  rw [trimmedPieces_trim hspace, hpieces]
  rw [hpieces, List.mem_map]
  rintro ⟨core, hcore, hblank⟩
  exact (hcores core hcore).1 hblank

theorem spells_intercalate (cores : List (List Char)) :
    Spells delimiter cores ([delimiter].intercalate cores) :=
  ⟨cores, List.forall₂_same.mpr fun core _ => .refl core, joins_intercalate cores⟩

end Padding

def IsCore (excluded text : List Char) : Prop :=
  text ≠ [] ∧ Unicode.trim text = text ∧ ∀ c ∈ text, c ∉ excluded

namespace Locale

def parts (locale : Locale) : List (List Char) :=
  locale.language.toList :: (locale.country.toList ++ locale.variant.toList).map String.toList

/-- A locale that a criterion can name: the language has one or two characters and does not begin
with a capital, the country has at most three, and a variant comes with a country. -/
structure Writable (locale : Locale) : Prop where
  parts : ∀ part ∈ locale.parts, IsCore ['-', ',', ';', '.'] part
  language : locale.language.length ≤ 2
  small : SortSpec.BeginsSmall locale.language.toList
  country : ∀ country ∈ locale.country, country.length ≤ 3
  variant : locale.variant.isSome → locale.country.isSome

end Locale

/-- A comparator that a criterion can name: it is constructed in the registry from a pointed
identifier and its parameters. -/
structure CustomOrder.Writable (registry : Registry) (order : CustomOrder) : Prop where
  pointed : '.' ∈ order.identifier.toList
  long : 3 ≤ order.identifier.length
  identifier : ∀ c ∈ order.identifier.toList,
    Unicode.isSpace c = false ∧ c ∉ ['(', ')', ',', ';']
  parameters : ∀ parameter ∈ order.parameters, IsCore ['-', ')', ',', ';'] parameter.toList
  resolves : registry.resolve order.identifier order.parameters = .ok order.comparator

def CriterionKind.Writable (registry : Registry) : CriterionKind → Prop
  | score | doc | typed _ => True
  | collated locale => locale.Writable
  | custom order => order.Writable registry

structure Criterion.Writable (registry : Registry) (criterion : Criterion) : Prop where
  field : IsCore [',', ';'] criterion.field.toList
  kind : criterion.kind.Writable registry

inductive CriterionKind.Writes : CriterionKind → List Char → Prop where
  | score : Writes .score "SCORE".toList
  | doc : Writes .doc "DOC".toList
  | typed (type : ValueType) : Writes (.typed type) type.name.toList
  | collated {locale : Locale} {text : List Char} (spells : Spells '-' locale.parts text) :
      Writes (.collated locale) text
  | custom {order : CustomOrder} {text : List Char}
      (spells : Spells '-' (order.parameters.map String.toList) text) :
      Writes (.custom order) (order.identifier.toList ++ '(' :: (text ++ [')']))
  | bare {order : CustomOrder} (unparametrized : order.parameters = []) :
      Writes (.custom order) order.identifier.toList

def CriterionKind.text : CriterionKind → String
  | score => "SCORE"
  | doc => "DOC"
  | typed type => type.name
  | collated locale => locale.display
  | custom order => order.identifier ++ "(" ++ "-".intercalate order.parameters ++ ")"

private theorem CriterionKind.writes_text (kind : CriterionKind) :
    kind.Writes kind.text.toList := by
  cases kind with
  | score => exact .score
  | doc => exact .doc
  | typed type => exact .typed type
  | collated locale =>
    refine .collated ?_
    rw [text, Locale.display, String.toList_intercalate]
    simpa [Locale.parts] using spells_intercalate locale.parts
  | custom order =>
    have hspells : Spells '-' (order.parameters.map String.toList)
        ("-".intercalate order.parameters).toList := by
      rw [String.toList_intercalate]
      exact spells_intercalate _
    simpa [text] using Writes.custom hspells

namespace Criterion

def flag (criterion : Criterion) : Bool :=
  if criterion.kind = .score then !criterion.reverse else criterion.reverse

def Writes (criterion : Criterion) (text : List Char) : Prop :=
  ∃ kind, criterion.kind.Writes kind ∧
    Spells ',' [criterion.field.toList, kind, (toString criterion.flag).toList] text

def text (criterion : Criterion) : String :=
  ",".intercalate [criterion.field, criterion.kind.text, toString criterion.flag]

private theorem writes_text (criterion : Criterion) : criterion.Writes criterion.text.toList := by
  refine ⟨criterion.kind.text.toList, criterion.kind.writes_text, ?_⟩
  rw [text, String.toList_intercalate]
  exact spells_intercalate _

end Criterion

namespace SortSpec

def Writes (spec : SortSpec) (text : String) : Prop :=
  ∃ criteria, List.Forall₂ Criterion.Writes spec criteria ∧ Spells ';' criteria text.toList

def text (spec : SortSpec) : String := ";".intercalate (spec.map Criterion.text)

private theorem writes_text (spec : SortSpec) : spec.Writes spec.text := by
  refine ⟨spec.map fun criterion => criterion.text.toList, ?_, ?_⟩
  · exact List.forall₂_map_right_iff.mpr (List.forall₂_same.mpr fun c _ => c.writes_text)
  · rw [text, String.toList_intercalate, List.map_map]
    exact spells_intercalate _

end SortSpec

variable {registry : Registry}

theorem CriterionKind.Writes.not_mem {kind : CriterionKind} {text : List Char} {c : Char}
    (h : kind.Writes text) (hkind : kind.Writable registry) (hc : c = ',' ∨ c = ';') :
    c ∉ text := by
  have hspace : Unicode.isSpace c = false := by rcases hc with rfl | rfl <;> decide
  cases h with
  | score => rcases hc with rfl | rfl <;> decide
  | doc => rcases hc with rfl | rfl <;> decide
  | typed type => rcases hc with rfl | rfl <;> cases type <;> decide
  | collated spells =>
    refine spells.not_mem (by rcases hc with rfl | rfl <;> decide) hspace fun part hpart hmem => ?_
    exact (hkind.parts part hpart).2.2 c hmem (by rcases hc with rfl | rfl <;> simp)
  | @custom order text spells =>
    have hidentifier : c ∉ order.identifier.toList := fun hmem =>
      (hkind.identifier c hmem).2 (by rcases hc with rfl | rfl <;> simp)
    have htext : c ∉ text := by
      refine spells.not_mem (by rcases hc with rfl | rfl <;> decide) hspace ?_
      rintro _ hmapped hmem
      obtain ⟨parameter, hparameter, rfl⟩ := List.mem_map.mp hmapped
      exact (hkind.parameters parameter hparameter).2.2 c hmem
        (by rcases hc with rfl | rfl <;> simp)
    have hparentheses : c ≠ '(' ∧ c ≠ ')' := by rcases hc with rfl | rfl <;> decide
    simp [hidentifier, htext, hparentheses]
  | bare unparametrized =>
    exact fun hmem => (hkind.identifier c hmem).2 (by rcases hc with rfl | rfl <;> simp)

private theorem Spells.head?_trim {delimiter c : Char} {first text : List Char}
    {cores : List (List Char)} (h : Spells delimiter (first :: cores) text)
    (hspace : Unicode.isSpace delimiter = false)
    (hne : first ≠ []) (hfirst : Unicode.trim first = first)
    (hc : (Unicode.trim text).head? = some c) : c = delimiter ∨ first.head? = some c := by
  -- White space ends at the first letter of the first part, which is none itself.
  obtain ⟨letter, letters, rfl⟩ := List.exists_cons_of_ne_nil hne
  have hletter := Unicode.head_of_trimmed hfirst
  have hpadded {part rest : List Char} (padded : Padded (letter :: letters) part) :
      (Unicode.trim (part ++ rest)).head? = some letter := by
    obtain ⟨before, after, hbefore, -, rfl⟩ := padded
    rw [Unicode.head?_trim, List.append_assoc, Unicode.trimStart_append_space hbefore,
      List.cons_append, List.cons_append, Unicode.trimStart_cons hletter, List.head?_cons]
  obtain ⟨parts, hparts, hjoins⟩ := h
  cases hjoins with
  | nil => cases hparts
  | skip rest =>
    rw [Unicode.head?_trim, Unicode.trimStart_cons hspace] at hc
    exact .inl (Option.some.inj hc).symm
  | last part =>
    rw [← List.append_nil text, hpadded (List.forall₂_cons.mp hparts).1] at hc
    exact .inr hc
  | part part rest =>
    rw [hpadded (List.forall₂_cons.mp hparts).1] at hc
    exact .inr hc

section Core

variable {delimiter : Char} {text excluded : List Char} {cores : List (List Char)}

private theorem map_trim_cores (hcores : ∀ core ∈ cores, IsCore excluded core) :
    cores.map Unicode.trim = cores := by
  refine (List.map_congr_left fun core hcore => ?_).trans (List.map_id cores)
  exact (hcores core hcore).2.1

variable (hspace : Unicode.isSpace delimiter = false) (hmem : delimiter ∈ excluded)
  (hcores : ∀ core ∈ cores, IsCore excluded core)

include hspace hmem hcores

theorem Spells.lists (h : Spells delimiter cores text) : Lists delimiter cores text := by
  rw [lists_iff, h.trimmedPieces_eq hspace, map_trim_cores hcores]
  intro core hcore
  exact ⟨(hcores core hcore).1, fun h => (hcores core hcore).2.2 delimiter h hmem⟩

theorem Spells.lists_trim (h : Spells delimiter cores text) :
    Lists delimiter cores (Unicode.trim text) := by
  rw [lists_iff, h.trimmedPieces_trim_eq hspace, map_trim_cores hcores]
  intro core hcore
  obtain ⟨hne, htrim, hexcluded⟩ := hcores core hcore
  exact ⟨htrim.symm ▸ hne, fun h => hexcluded delimiter h hmem⟩

end Core

private theorem Locale.Writable.isLocale {locale : Locale} {text : List Char} (h : locale.Writable)
    (spells : Spells '-' locale.parts text) : SortSpec.IsLocale (Unicode.trim text) locale := by
  have hlists : Lists '-' locale.parts (Unicode.trim text) :=
    spells.lists_trim (by decide) (by simp) h.parts
  obtain ⟨language, country, variant⟩ := locale
  have hlanguage : SortSpec.IsLanguage language.toList :=
    ⟨(h.parts _ List.mem_cons_self).1, h.language⟩
  rcases country with - | country
  · rcases variant with - | variant
    · simpa using SortSpec.IsLocale.language hlists hlanguage
    · cases h.variant rfl
  · have hcountry : SortSpec.IsCountry country.toList :=
      ⟨(h.parts country.toList (by simp [Locale.parts])).1, h.country country rfl⟩
    rcases variant with - | variant
    · simpa using SortSpec.IsLocale.country hlists hlanguage hcountry
    · have hvariant : variant.toList ≠ [] := (h.parts variant.toList (by simp [Locale.parts])).1
      simpa using SortSpec.IsLocale.variant hlists hlanguage hcountry hvariant

namespace CustomOrder.Writable

variable {order : CustomOrder} (h : order.Writable registry)

include h

private theorem identifier_ne_nil : order.identifier.toList ≠ [] := by
  intro hnil
  have hpoint := h.pointed
  rw [hnil] at hpoint
  cases hpoint

private theorem parenthesis_not_mem {c : Char} (hc : c = '(' ∨ c = ')') :
    c ∉ order.identifier.toList :=
  fun hmem => (h.identifier c hmem).2 (by rcases hc with rfl | rfl <;> simp)

private theorem trim_identifier : Unicode.trim order.identifier.toList = order.identifier.toList :=
  Unicode.trim_eq_self (fun c hc => (h.identifier c (List.mem_of_mem_head? hc)).1)
    (fun c hc => (h.identifier c (List.mem_of_getLast? hc)).1)

theorem trim_applied (text : List Char) :
    Unicode.trim (order.identifier.toList ++ '(' :: (text ++ [')'])) =
      order.identifier.toList ++ '(' :: (text ++ [')']) := by
  refine Unicode.trim_eq_self (fun c hc => ?_) (fun c hc => ?_)
  · rw [List.head?_append_of_ne_nil _ h.identifier_ne_nil] at hc
    exact (h.identifier c (List.mem_of_mem_head? hc)).1
  · obtain rfl : ')' = c := by simpa [List.getLast?_append, List.getLast?_cons] using hc
    decide

private theorem namesComparator {text : List Char}
    (spells : Spells '-' (order.parameters.map String.toList) text) :
    SortSpec.NamesComparator false (order.identifier.toList ++ '(' :: (text ++ [')']))
      order.identifier order.parameters := by
  have hparameters : ∀ part ∈ order.parameters.map String.toList,
      IsCore ['-', ')', ',', ';'] part := List.forall_mem_map.mpr h.parameters
  have hlists : Lists '-' (order.parameters.map String.toList) text :=
    spells.lists (by decide) (by simp) hparameters
  have hinside : ')' ∉ text :=
    spells.not_mem (by decide) (by decide) fun part hpart hmem =>
      (hparameters part hpart).2.2 ')' hmem (by simp)
  have hnames : SortSpec.NamesComparator false
      (order.identifier.toList ++ '(' :: (text ++ ')' :: [])) (.ofList order.identifier.toList)
      (((order.parameters.map String.toList).filter (!·.isEmpty)).map .ofList) :=
    .applied (h.parenthesis_not_mem (.inl rfl)) (h.parenthesis_not_mem (.inr rfl)) h.long hinside
      hlists (by simp)
  have hfilter : (order.parameters.map String.toList).filter (!·.isEmpty) =
      order.parameters.map String.toList := by
    refine List.filter_eq_self.mpr fun part hpart => ?_
    simpa using (hparameters part hpart).1
  simpa [hfilter, Function.comp_def] using hnames

end CustomOrder.Writable

theorem CriterionKind.Writes.isKind {kind : CriterionKind} {text : List Char}
    (h : kind.Writes text) (hkind : kind.Writable registry) :
    SortSpec.IsKind registry false (Unicode.trim text) kind := by
  cases h with
  | score => exact .score (.inr rfl)
  | doc => exact .doc
  | typed type =>
    have htrim : Unicode.trim type.name.toList = type.name.toList := by cases type <;> decide
    rw [htrim]
    exact .typed type
  | @collated locale text spells =>
    refine .collated (fun hpoint => ?_) (fun c hc => ?_) (hkind.isLocale spells)
    · refine spells.not_mem (c := '.') (by decide) (by decide) (fun part hpart hmem => ?_)
        (Unicode.trim_subset text hpoint)
      exact (hkind.parts part hpart).2.2 '.' hmem (by simp)
    · obtain ⟨hne, htrim, -⟩ := hkind.parts _ List.mem_cons_self
      rcases spells.head?_trim (by decide) hne htrim hc with rfl | hc
      · decide
      · exact hkind.small c hc
  | @custom order text spells =>
    rw [hkind.trim_applied]
    exact .custom (by simp [hkind.pointed]) (hkind.namesComparator spells) hkind.resolves
  | @bare order unparametrized =>
    have hnames : SortSpec.NamesComparator false order.identifier.toList
        (.ofList order.identifier.toList) [] := .bare (hkind.parenthesis_not_mem (.inl rfl))
    rw [String.ofList_toList, ← unparametrized] at hnames
    rw [hkind.trim_identifier]
    exact .custom hkind.pointed hnames hkind.resolves

namespace Criterion

variable {criterion : Criterion} {text : List Char}

private theorem Writes.separator_not_mem (h : criterion.Writes text)
    (hwritable : criterion.Writable registry) : ';' ∉ text := by
  obtain ⟨kind, hkind, spells⟩ := h
  refine spells.not_mem (by decide) (by decide) ?_
  have hfield : ';' ∉ criterion.field.toList := fun hmem => hwritable.field.2.2 ';' hmem (by simp)
  have hflag : ';' ∉ (toString criterion.flag).toList := by cases criterion.flag <;> decide
  simpa [hfield, hflag] using hkind.not_mem hwritable.kind (.inr rfl)

/-- A written criterion is derived, whatever white space is put around it. -/
theorem Writes.derives {piece : List Char} (h : criterion.Writes text)
    (hwritable : criterion.Writable registry) (padded : Padded text piece) :
    SortSpec.Derives registry false piece criterion := by
  obtain ⟨kind, hkind, spells⟩ := h
  obtain ⟨hname, htrim, hexcluded⟩ := hwritable.field
  -- The kind is read without white space at its ends, which may be that of its own parts.
  have hisKind := hkind.isKind hwritable.kind
  have hblank : Unicode.trim kind ≠ [] := by
    intro hnil
    rw [hnil] at hisKind
    exact SortSpec.not_isKind_nil hisKind
  have hflag : Unicode.trim (toString criterion.flag).toList = (toString criterion.flag).toList ∧
      (toString criterion.flag).toList ≠ [] ∧ ',' ∉ (toString criterion.flag).toList := by
    cases criterion.flag <;> decide
  have hlists : Lists ',' [criterion.field.toList, Unicode.trim kind,
      (toString criterion.flag).toList] (Unicode.trim piece) := by
    rw [lists_iff, padded.trim_eq, spells.trimmedPieces_trim_eq (by decide)]
    · simp [htrim, hflag.1]
    · have hcomma : ',' ∉ criterion.field.toList := fun hmem => hexcluded ',' hmem (by simp)
      simpa [htrim, hname, hcomma, hflag, hblank] using hkind.not_mem hwritable.kind (.inl rfl)
  have hisFlag : SortSpec.IsFlag (toString criterion.flag).toList criterion.flag := by
    cases criterion.flag <;> decide
  have hderives := SortSpec.Derives.flag hlists hname hisKind hisFlag (by simp)
  -- The flag of a score is turned around twice, in writing and in reading.
  have hreverse : (if criterion.kind = .score then !criterion.flag else criterion.flag) =
      criterion.reverse := by
    rw [flag]
    split <;> simp
  rwa [hreverse, String.ofList_toList] at hderives

private theorem Writes.ne_nil (h : criterion.Writes text)
    (hwritable : criterion.Writable registry) :
    text ≠ [] := by
  rintro rfl
  exact (h.derives hwritable (.refl [])).trim_ne_nil rfl

end Criterion

namespace SortSpec

variable {spec : SortSpec} {criteria : List (List Char)}

section Criteria

variable (hwrites : List.Forall₂ (fun criterion text =>
  criterion.Writable registry ∧ criterion.Writes text) spec criteria)

include hwrites

private theorem separated_of_writes : ∀ text ∈ criteria, text ≠ [] ∧ ';' ∉ text := by
  induction hwrites with
  | nil => simp
  | cons h _ ih =>
    obtain ⟨hwritable, h⟩ := h
    exact List.forall_mem_cons.mpr ⟨⟨h.ne_nil hwritable, h.separator_not_mem hwritable⟩, ih⟩

private theorem derives_of_writes {pieces : List (List Char)}
    (hpadded : List.Forall₂ Padded criteria pieces) :
    List.Forall₂ (Derives registry false) pieces spec := by
  induction hwrites generalizing pieces with
  | nil =>
    cases hpadded
    exact .nil
  | cons h _ ih =>
    obtain ⟨hwritable, h⟩ := h
    cases hpadded with
    | cons padded rest => exact .cons (h.derives hwritable padded) (ih rest)

end Criteria

/-- A written specification is read back as it was, from its plain text and from every other. -/
theorem ofText_written (hspec : ∀ criterion ∈ spec, criterion.Writable registry) :
    ofText registry spec.text = .ok spec ∧
      ∀ text, spec.Writes text → ofText registry text = .ok spec := by
  have hread (text : String) (h : spec.Writes text) : ofText registry text = .ok spec := by
    obtain ⟨criteria, hwrites, spells⟩ := h
    have hwrites := (List.forall₂_and_left spec criteria).mpr ⟨hspec, hwrites⟩
    rw [ofText_eq_ok_iff]
    exact derives_of_writes hwrites (spells.pieces (by decide) (separated_of_writes hwrites))
  exact ⟨hread spec.text spec.writes_text, hread⟩

def germanTitles : SortSpec :=
  [⟨"title", .custom ⟨"hitpage.sort.ArticleSkippingComparator", ["der", "die"],
    .articleSkipping ["der".toList, "die".toList]⟩, false⟩,
    ⟨"name", .collated ⟨"en", some "US", none⟩, true⟩]

theorem ofText_written_german :
    (∀ criterion ∈ germanTitles, criterion.Writable .builtin) ∧
    ofText .builtin
        "title,hitpage.sort.ArticleSkippingComparator(der - die), false;; name ,, en - US,true" =
      .ok germanTitles := by
  have hidentifier : "hitpage.sort.ArticleSkippingComparator".toList.all
      (fun c => !Unicode.isSpace c && !(['(', ')', ',', ';'].contains c)) = true := by decide
  have hwritable : ∀ criterion ∈ germanTitles, criterion.Writable .builtin := by
    refine List.forall_mem_cons.mpr ⟨⟨?_, ?_⟩, List.forall_mem_singleton.mpr ⟨?_, ?_⟩⟩
    · exact ⟨by decide, by decide, by simp⟩
    · refine ⟨by decide, by decide, fun c hc => ?_, ?_, by decide +kernel⟩
      · simpa using List.all_eq_true.mp hidentifier c hc
      · exact List.forall_mem_cons.mpr ⟨⟨by decide, by decide, by simp⟩,
          List.forall_mem_singleton.mpr ⟨by decide, by decide, by simp⟩⟩
    · exact ⟨by decide, by decide, by simp⟩
    · refine ⟨?_, by decide, by simp [BeginsSmall], by decide, by decide⟩
      exact List.forall_mem_cons.mpr ⟨⟨by decide, by decide, by simp⟩,
        List.forall_mem_singleton.mpr ⟨by decide, by decide, by simp⟩⟩
  refine ⟨hwritable, (ofText_written hwritable).2 _ ?_⟩
  have hspace : Unicode.isSpace ' ' = true := by decide
  have hparameters : Spells '-' ["der".toList, "die".toList] "der - die".toList :=
    ⟨_, .cons ((Padded.refl _).after hspace) (.cons ((Padded.refl _).before hspace) .nil),
      .part _ (.last _)⟩
  have hlocale : Spells '-' ["en".toList, "US".toList] " en - US".toList :=
    ⟨_, .cons (((Padded.refl _).after hspace).before hspace)
      (.cons ((Padded.refl _).before hspace) .nil), .part _ (.last _)⟩
  have htitle : germanTitles[0].Writes
      "title,hitpage.sort.ArticleSkippingComparator(der - die), false".toList :=
    ⟨_, .custom hparameters, _,
      .cons (.refl _) (.cons (.refl _) (.cons ((Padded.refl _).before hspace) .nil)),
      .part _ (.part _ (.last _))⟩
  have hname : germanTitles[1].Writes " name ,, en - US,true".toList :=
    ⟨_, .collated hlocale, _,
      .cons (((Padded.refl _).after hspace).before hspace)
        (.cons (.refl _) (.cons (.refl _) .nil)),
      .part _ (.skip (.part _ (.last _)))⟩
  exact ⟨_, .cons htitle (.cons hname .nil), _, .cons (.refl _) (.cons (.refl _) .nil),
    .part _ (.skip (.last _))⟩

end SortSpec

end PagedSearch
