import PagedSearch.Proofs.Order.Edited
import PagedSearch.Proofs.Order.Rendering

/-!
# Locales displayed in specifications

A locale is displayed as its parts with hyphens between them, without the white space and the
further hyphens that the text it was read from may have. The displayed locale is read as the locale
again, except where the language begins with a capital: it stood behind a hyphen then, and without
that hyphen it is taken for a name in capitals.
-/

namespace PagedSearch

private theorem mem_of_mem_trimmedPieces {delimiter c : Char} {text part : List Char}
    (hpart : part ∈ trimmedPieces delimiter text) (hc : c ∈ part) : c ∈ text ∧ c ≠ delimiter := by
  obtain ⟨piece, hpiece, rfl⟩ := List.mem_map.mp hpart
  have hmem : c ∈ piece := Unicode.trim_subset piece hc
  constructor
  · obtain ⟨place, hplace⟩ := List.getElem?_of_mem hpiece
    obtain ⟨before, after, -, rfl, -⟩ := exists_frames hplace
    simp [hmem]
  · rintro rfl
    exact (mem_pieces hpiece).2 hmem

private theorem exists_getElem?_of_trimmedPieces {delimiter : Char} {text part : List Char}
    {place : Nat} (h : (trimmedPieces delimiter text)[place]? = some part) :
    ∃ raw, (pieces delimiter text)[place]? = some raw := by
  rw [trimmedPieces, List.getElem?_map, Option.map_eq_some_iff] at h
  obtain ⟨raw, hraw, -⟩ := h
  exact ⟨raw, hraw⟩

private theorem isCore_of_mem_trimmedPieces {delimiter : Char} {text part : List Char}
    (hpart : part ∈ trimmedPieces delimiter text) (hne : part ≠ []) : IsCore [delimiter] part := by
  refine ⟨hne, ?_, fun c hc => ?_⟩
  · obtain ⟨piece, -, rfl⟩ := List.mem_map.mp hpart
    exact Unicode.trim_trim piece
  · simpa using (mem_of_mem_trimmedPieces hpart hc).2

private theorem intercalate_cons_ne_nil {delimiter : Char} {core : List Char} (hne : core ≠ [])
    (cores : List (List Char)) : [delimiter].intercalate (core :: cores) ≠ [] := by
  cases cores with
  | nil => rwa [List.intercalate_singleton]
  | cons next cores => simp [List.intercalate_cons_cons]

private theorem trim_intercalate {delimiter : Char} {excluded : List Char}
    {cores : List (List Char)} (hcores : ∀ core ∈ cores, IsCore excluded core) :
    Unicode.trim ([delimiter].intercalate cores) = [delimiter].intercalate cores := by
  induction cores with
  | nil => rfl
  | cons core cores ih =>
    obtain ⟨⟨hne, htrim, -⟩, hrest⟩ := List.forall_mem_cons.mp hcores
    cases cores with
    | nil => rwa [List.intercalate_singleton]
    | cons next cores =>
      have hnext : next ≠ [] := (List.forall_mem_cons.mp hrest).1.1
      rw [List.intercalate_cons_cons, List.append_assoc, List.singleton_append]
      exact Unicode.trim_append_cons htrim (ih hrest) hne (intercalate_cons_ne_nil hnext cores) _

private theorem Locale.toList_display (l : Locale) :
    l.display.toList = ['-'].intercalate l.parts := by
  rw [Locale.display, String.toList_intercalate]
  simp [Locale.parts]

namespace SortSpec

section Display

variable {kind : List Char} {l : Locale} (h : IsLocale kind l)

include h

private theorem IsLocale.trimmedPieces_eq : trimmedPieces '-' kind = l.parts := by
  cases h with
  | language parts => simpa [Locale.parts] using lists_iff.mp parts
  | country parts => simpa [Locale.parts] using lists_iff.mp parts
  | variant parts => simpa [Locale.parts] using lists_iff.mp parts

private theorem IsLocale.isCore_parts : ∀ part ∈ l.parts, IsCore ['-'] part := by
  have hne : ∀ part ∈ l.parts, part ≠ [] := by
    cases h with
    | language parts isLanguage => simp [Locale.parts, isLanguage.1]
    | country parts isLanguage isCountry => simp [Locale.parts, isLanguage.1, isCountry.1]
    | variant parts isLanguage isCountry nonempty =>
      simp [Locale.parts, isLanguage.1, isCountry.1, nonempty]
  intro part hpart
  exact isCore_of_mem_trimmedPieces (h.trimmedPieces_eq.symm ▸ hpart) (hne part hpart)

private theorem IsLocale.trim_display : Unicode.trim l.display.toList = l.display.toList := by
  rw [Locale.toList_display]
  exact trim_intercalate h.isCore_parts

private theorem IsLocale.display_ne_nil : l.display.toList ≠ [] := by
  rw [Locale.toList_display]
  exact intercalate_cons_ne_nil (h.isCore_parts _ List.mem_cons_self).1 _

private theorem IsLocale.not_mem_display {c : Char} (hhyphen : c ≠ '-') (hc : c ∉ kind) :
    c ∉ l.display.toList := by
  rw [Locale.toList_display]
  intro hmem
  rcases (joins_intercalate l.parts).mem hmem with heq | ⟨part, hpart, hmem⟩
  · exact hhyphen heq
  · exact hc (mem_of_mem_trimmedPieces (h.trimmedPieces_eq.symm ▸ hpart) hmem).1

private theorem IsLocale.of_trimmedPieces {other : List Char}
    (hother : trimmedPieces '-' other = trimmedPieces '-' kind) : IsLocale other l := by
  have hlists {parts : List (List Char)} (hparts : Lists '-' parts kind) : Lists '-' parts other :=
    lists_iff.mpr (hother.trans (lists_iff.mp hparts))
  cases h with
  | language parts isLanguage => exact .language (hlists parts) isLanguage
  | country parts isLanguage isCountry => exact .country (hlists parts) isLanguage isCountry
  | variant parts isLanguage isCountry nonempty =>
    exact .variant (hlists parts) isLanguage isCountry nonempty

private theorem IsLocale.display : IsLocale l.display.toList l := by
  have hspells : Spells '-' l.parts l.display.toList := by
    rw [Locale.toList_display]
    exact spells_intercalate l.parts
  have hlists : Lists '-' l.parts l.display.toList :=
    hspells.lists (by decide) (by simp) h.isCore_parts
  exact h.of_trimmedPieces ((lists_iff.mp hlists).trans h.trimmedPieces_eq.symm)

private theorem IsLocale.language_length : l.language.length ≤ 2 := by
  cases h with
  | language parts isLanguage => simpa using isLanguage.2
  | country parts isLanguage isCountry => simpa using isLanguage.2
  | variant parts isLanguage isCountry nonempty => simpa using isLanguage.2

private theorem IsLocale.ne_of_long {name : String} (hlong : 2 < name.length)
    (htrim : Unicode.trim name.toList = name.toList) (hhyphen : '-' ∉ name.toList) :
    .ofList kind ≠ name := by
  rintro rfl
  rw [String.toList_ofList] at htrim hhyphen
  have hne : kind ≠ [] := by
    rintro rfl
    cases hlong
  have hparts := h.trimmedPieces_eq
  rw [trimmedPieces_of_not_mem hhyphen hne, htrim] at hparts
  have hlanguage : l.language.toList = kind := (List.cons.inj hparts).1.symm
  have hlength := h.language_length
  rw [← String.length_toList, hlanguage] at hlength
  rw [String.length_ofList] at hlong
  omega

end Display

section Capital

variable {registry : Registry} {spec criterion : String} {kind : List Char} {l : Locale}

private theorem readKind_of_capital (h : IsLocale kind l) (hpoint : '.' ∉ kind)
    (hcapital : ¬ BeginsSmall kind) :
    readKind registry spec criterion kind =
      .error (.malformed spec (.unknownType (.ofList kind) criterion)) := by
  have htype : ValueType.ofName? (String.ofList kind) = none := by
    rw [← Option.not_isSome_iff_eq_none, Option.isSome_iff_exists]
    rintro ⟨type, htype⟩
    rw [ofName?_eq_some_iff] at htype
    cases type <;> exact h.ne_of_long (by decide) (by decide) (by decide) htype
  have hhead : (kind.head?.any fun c => 'A' ≤ c && c ≤ 'Z') = true := by
    rw [BeginsSmall] at hcapital
    push Not at hcapital
    obtain ⟨c, hc, hbounds⟩ := hcapital
    rw [hc]
    simpa using hbounds
  rw [readKind, if_neg (by simpa using hpoint)]
  split
  case h_1 hname => exact absurd hname (h.ne_of_long (by decide) (by decide) (by decide))
  case h_2 hname => exact absurd hname (h.ne_of_long (by decide) (by decide) (by decide))
  case h_3 hname => exact absurd hname (h.ne_of_long (by decide) (by decide) (by decide))
  case h_4 => rw [htype, if_pos hhead]

end Capital

section Criterion

variable {registry : Registry} {field : String} {piece kind : List Char} {l : Locale}
  {reverse : Bool}

private theorem IsKind.isLocale (h : IsKind registry false kind (.collated l)) :
    '.' ∉ kind ∧ IsLocale kind l := by
  cases h with
  | collated unpointed small isLocale => exact ⟨unpointed, isLocale⟩

private theorem Derives.collated (h : Derives registry false piece ⟨field, .collated l, reverse⟩) :
    ∃ name old rest, trimmedPieces ',' (Unicode.trim piece) = name :: old :: rest ∧ name ≠ [] ∧
      '.' ∉ old ∧ IsLocale old l ∧
      ∀ new other, IsKind registry false new (.collated l) →
        trimmedPieces ',' (Unicode.trim other) = name :: new :: rest →
        Derives registry false other ⟨field, .collated l, reverse⟩ := by
  generalize hcriterion : (⟨field, .collated l, reverse⟩ : Criterion) = criterion at h
  cases h with
  | field parts named => cases hcriterion
  | @kind name old _ parts named isKind =>
    cases hcriterion
    obtain ⟨hpoint, hlocale⟩ := isKind.isLocale
    refine ⟨name, old, [], lists_iff.mp parts, named, hpoint, hlocale, ?_⟩
    intro new other hnew hother
    exact .kind (lists_iff.mpr hother) named hnew
  | @flag name old flag behind _ _ parts named isKind isFlag plain =>
    cases hcriterion
    obtain ⟨hpoint, hlocale⟩ := isKind.isLocale
    refine ⟨name, old, flag :: behind, lists_iff.mp parts, named, hpoint, hlocale, ?_⟩
    intro new other hnew hother
    exact .flag (lists_iff.mpr hother) named hnew isFlag plain

private theorem Derives.retype_display
    (h : Derives registry false piece ⟨field, .collated l, reverse⟩) (hmem : ';' ∉ piece) :
    retype l.display.toList piece ≠ [] ∧ ';' ∉ retype l.display.toList piece ∧
    (BeginsSmall l.display.toList →
      Derives registry false (retype l.display.toList piece) ⟨field, .collated l, reverse⟩) ∧
    (¬ BeginsSmall l.display.toList → ∀ spec,
      readCriterion registry none spec (retype l.display.toList piece) =
        .error (.malformed spec (.unknownType l.display
          (.ofList (Unicode.trim (retype l.display.toList piece)))))) := by
  obtain ⟨name, old, rest, hparts, hname, hpoint, hlocale, hother⟩ := h.collated
  have hold : old ∈ trimmedPieces ',' (Unicode.trim piece) := by simp [hparts]
  obtain ⟨raw, hraw⟩ : ∃ raw, (pieces ',' (Unicode.trim piece))[1]? = some raw := by
    apply exists_getElem?_of_trimmedPieces
    rw [hparts]
    rfl
  have hpoint' : '.' ∉ l.display.toList := hlocale.not_mem_display (by decide) hpoint
  have hcomma : ',' ∉ l.display.toList :=
    hlocale.not_mem_display (by decide) fun hmem => (mem_of_mem_trimmedPieces hold hmem).2 rfl
  have hsemicolon : ';' ∉ l.display.toList :=
    hlocale.not_mem_display (by decide) fun hmem' =>
      hmem (Unicode.trim_subset piece (mem_of_mem_trimmedPieces hold hmem').1)
  have hretyped : trimmedPieces ',' (Unicode.trim (retype l.display.toList piece)) =
      name :: l.display.toList :: rest := by
    rw [trimmedPieces_retype hraw hlocale.display_ne_nil hlocale.trim_display hcomma, hparts]
    rfl
  refine ⟨?_, ?_, ?_, ?_⟩
  · intro hnil
    apply trim_ne_nil_of_trimmedPieces hretyped
    rw [hnil]
    rfl
  · intro hmem'
    rcases retype_subset hraw hmem' with hmem' | hmem'
    · exact hmem hmem'
    · exact hsemicolon hmem'
  · intro hsmall
    exact hother _ _ (.collated hpoint' hsmall hlocale.display) hretyped
  · intro hcapital spec
    rw [readCriterion_of_kind hretyped hname, if_neg hlocale.display_ne_nil,
      readKind_of_capital hlocale.display hpoint' hcapital, String.ofList_toList]
    rfl

end Criterion

section Text

variable {registry : Registry} {text field : String} {spec : SortSpec} {place : Nat} {l : Locale}
  {reverse : Bool}

/-- The displayed form of a locale can stand in place of the kind that the locale was read from. The
specification stays the same. A form that begins with a capital is refused there. -/
theorem ofText_withKind_display (h : ofText registry text = .ok spec)
    (hplace : spec[place]? = some ⟨field, .collated l, reverse⟩) :
    (BeginsSmall l.display.toList → ofText registry (withKind l.display place text) = .ok spec) ∧
    (¬ BeginsSmall l.display.toList → ∃ criterion,
      ofText registry (withKind l.display place text) =
        .error (.malformed (withKind l.display place text)
          (.unknownType l.display criterion))) := by
  have hderives := ofText_eq_ok_iff.mp h
  obtain ⟨piece, hpiece, hcriterion⟩ := exists_getElem?_of_forall₂ hderives hplace
  obtain ⟨hne, hmem, hsmall, hcapital⟩ :=
    hcriterion.retype_display (mem_pieces (List.mem_of_getElem? hpiece)).2
  have hpieces : pieces ';' (withKind l.display place text).toList =
      (pieces ';' text.toList).set place (retype l.display.toList piece) := by
    rw [withKind, String.toList_ofList]
    exact pieces_modifyPiece hpiece hne hmem
  constructor
  · intro hbegins
    rw [ofText_eq_ok_iff, hpieces]
    exact forall₂_set hderives hplace (hsmall hbegins)
  · intro hbegins
    have hbefore := exists_mapM_eq_ok_iff.mp ⟨spec, h⟩
    obtain ⟨hlength, -⟩ := List.getElem?_eq_some_iff.mp hpiece
    refine ⟨.ofList (Unicode.trim (retype l.display.toList piece)), ?_⟩
    rw [ofText, read, mapM_eq_error_iff, hpieces, List.set_eq_take_append_cons_drop, if_pos hlength]
    refine ⟨_, _, _, rfl, fun earlier hearlier => ?_, hcapital hbegins _⟩
    obtain ⟨criterion, hearlier⟩ := hbefore earlier (List.mem_of_mem_take hearlier)
    exact ⟨criterion, readCriterion_eq_ok_iff.mpr (readCriterion_eq_ok_iff.mp hearlier)⟩

theorem ofText_withKind_display_name :
    ofText .builtin "price,INT; name, -en -- US ,desc" =
      .ok [⟨"price", .typed .int, false⟩, ⟨"name", .collated ⟨"en", some "US", none⟩, true⟩] ∧
    ofText .builtin (withKind "en-US" 1 "price,INT; name, -en -- US ,desc") =
      .ok [⟨"price", .typed .int, false⟩, ⟨"name", .collated ⟨"en", some "US", none⟩, true⟩] ∧
    ofText .builtin "name,-EN" = .ok [⟨"name", .collated ⟨"EN", none, none⟩, false⟩] ∧
    ∃ criterion, ofText .builtin (withKind "EN" 0 "name,-EN") =
      .error (.malformed (withKind "EN" 0 "name,-EN") (.unknownType "EN" criterion)) := by
  have hread : ofText .builtin "price,INT; name, -en -- US ,desc" =
        .ok [⟨"price", .typed .int, false⟩, ⟨"name", .collated ⟨"en", some "US", none⟩, true⟩] ∧
      ofText .builtin "name,-EN" = .ok [⟨"name", .collated ⟨"EN", none, none⟩, false⟩] := by
    decide +kernel
  have hsmall : BeginsSmall "en-US".toList := by simp [BeginsSmall]
  have hcapital : ¬ BeginsSmall "EN".toList := by simp [BeginsSmall]
  have hUS : Locale.display ⟨"en", some "US", none⟩ = "en-US" := rfl
  have hEN : Locale.display ⟨"EN", none, none⟩ = "EN" := rfl
  refine ⟨hread.1, ?_, hread.2, ?_⟩
  · have hsecond : ([⟨"price", .typed .int, false⟩,
        ⟨"name", .collated ⟨"en", some "US", none⟩, true⟩] : SortSpec)[1]? =
        some ⟨"name", .collated ⟨"en", some "US", none⟩, true⟩ := rfl
    have hdisplay := ofText_withKind_display hread.1 hsecond
    rw [hUS] at hdisplay
    exact hdisplay.1 hsmall
  · have hfirst : ([⟨"name", .collated ⟨"EN", none, none⟩, false⟩] : SortSpec)[0]? =
        some ⟨"name", .collated ⟨"EN", none, none⟩, false⟩ := rfl
    have hdisplay := ofText_withKind_display hread.2 hfirst
    rw [hEN] at hdisplay
    exact hdisplay.2 hcapital

/-- The language behind a hyphen is displayed without it and then refused as a name. -/
theorem capital_language_refused :
    ofText .builtin "name,-EN" = .ok [⟨"name", .collated ⟨"EN", none, none⟩, false⟩] ∧
    withKind (Locale.display ⟨"EN", none, none⟩) 0 "name,-EN" = "name,EN" ∧
    (ofText .builtin "name,EN").isOk = false := by
  decide +kernel

end Text

end SortSpec

end PagedSearch
