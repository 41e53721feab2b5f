import PagedSearch.Proofs.Order.Grammar
import PagedSearch.Proofs.Related

/-!
# Specifications over known fields

The fields of a specification are checked while it is read, each before the kind that follows it, or
all at once when it has been read. Both ways accept the same specifications. They part only on texts
with two faults, an unknown field in front of a malformed part.
-/

namespace PagedSearch

namespace SortSpec

variable {registry : Registry} {known : List String} {spec : String} {piece : List Char}

def NamesField (piece : List Char) (field : String) : Prop :=
  ∃ name rest, Lists ',' (name :: rest) (Unicode.trim piece) ∧ name ≠ [] ∧ field = .ofList name

private theorem NamesField.unique {field other : String} (h : NamesField piece field)
    (hother : NamesField piece other) : field = other := by
  obtain ⟨name, rest, parts, -, rfl⟩ := h
  obtain ⟨name', rest', parts', -, rfl⟩ := hother
  obtain ⟨rfl, -⟩ := List.cons_eq_cons.mp ((lists_iff.mp parts).symm.trans (lists_iff.mp parts'))
  rfl

private theorem Derives.namesField {strict : Bool} {criterion : Criterion}
    (h : Derives registry strict piece criterion) : NamesField piece criterion.field := by
  cases h with
  | field parts named => exact ⟨_, _, parts, named, rfl⟩
  | kind parts named isKind => exact ⟨_, _, parts, named, rfl⟩
  | flag parts named isKind isFlag plain => exact ⟨_, _, parts, named, rfl⟩

private theorem readCriterion_of_unknown {name : List Char} {rest : List (List Char)}
    (parts : Lists ',' (name :: rest) (Unicode.trim piece)) (named : name ≠ [])
    (hunknown : String.ofList name ∉ known) :
    readCriterion registry (some known) spec piece = .error (.unknownField (.ofList name)) := by
  have hparts := lists_iff.mp parts
  rw [readCriterion, if_neg (by simpa using trim_ne_nil_of_trimmedPieces hparts)]
  simp only [hparts]
  rw [if_neg (by simpa using named), if_pos (by simpa using hunknown)]
  rfl

private theorem readCriterion_of_known (hknown : ∀ field, NamesField piece field → field ∈ known) :
    readCriterion registry (some known) spec piece = readCriterion registry none spec piece := by
  rw [readCriterion, readCriterion]
  -- a piece that names no field fails before its field would be looked up
  by_cases hnamed : (trimmedPieces ',' (Unicode.trim piece)).head?.getD [] = []
  · simp only [hnamed]
    rfl
  · have hfield : String.ofList ((trimmedPieces ',' (Unicode.trim piece)).head?.getD []) ∈ known := by
      rcases hparts : trimmedPieces ',' (Unicode.trim piece) with - | ⟨name, rest⟩
      · simp [hparts] at hnamed
      · rw [hparts] at hnamed
        exact hknown _ ⟨name, rest, lists_iff.mpr hparts, hnamed, rfl⟩
    simp only [Option.any_some, Option.any_none, List.contains_iff_mem.mpr hfield]
    rfl

private theorem readCriterion_within_cases (registry : Registry) (known : List String)
    (spec : String) (piece : List Char) :
    (∃ field, NamesField piece field ∧ field ∉ known ∧
      readCriterion registry (some known) spec piece = .error (.unknownField field)) ∨
    ((∀ field, NamesField piece field → field ∈ known) ∧
      readCriterion registry (some known) spec piece = readCriterion registry none spec piece) := by
  by_cases h : ∃ field, NamesField piece field ∧ field ∉ known
  · obtain ⟨field, hfield, hunknown⟩ := h
    refine .inl ⟨field, hfield, hunknown, ?_⟩
    obtain ⟨name, rest, parts, named, rfl⟩ := hfield
    exact readCriterion_of_unknown parts named hunknown
  · have hknown (field : String) (hfield : NamesField piece field) : field ∈ known :=
      by_contra fun hunknown => h ⟨field, hfield, hunknown⟩
    exact .inr ⟨hknown, readCriterion_of_known hknown⟩

private theorem readCriterion_within_eq_ok_iff {criterion : Criterion} :
    readCriterion registry (some known) spec piece = .ok criterion ↔
      Derives registry false piece criterion ∧ criterion.field ∈ known := by
  rcases readCriterion_within_cases registry known spec piece with
    ⟨field, hfield, hunknown, herror⟩ | ⟨hknown, hsame⟩
  · rw [herror]
    refine iff_of_false (by simp) ?_
    rintro ⟨hderives, hmem⟩
    exact hunknown (hfield.unique hderives.namesField ▸ hmem)
  · rw [hsame, readCriterion_eq_ok_iff]
    exact ⟨fun h => ⟨h, hknown _ h.namesField⟩, And.left⟩

private theorem readCriterion_within_eq_error {fault : SortFault}
    (h : readCriterion registry (some known) spec piece = .error fault) :
    (∃ field, NamesField piece field ∧ field ∉ known ∧ fault = .unknownField field) ∨
      readCriterion registry none spec piece = .error fault := by
  rcases readCriterion_within_cases registry known spec piece with
    ⟨field, hfield, hunknown, herror⟩ | ⟨-, hsame⟩
  · rw [herror] at h
    cases h
    exact .inl ⟨field, hfield, hunknown, rfl⟩
  · exact .inr (hsame ▸ h)

private theorem readCriterion_eq_unknownField_iff {field : String} :
    readCriterion registry (some known) spec piece = .error (.unknownField field) ↔
      NamesField piece field ∧ field ∉ known := by
  constructor
  · intro h
    rcases readCriterion_within_eq_error h with ⟨other, hother, hunknown, heq⟩ | h
    · cases heq
      exact ⟨hother, hunknown⟩
    · rcases readCriterion_eq_error h with ⟨reason, heq⟩ | ⟨cause, -, heq⟩ <;> cases heq
  · rintro ⟨⟨name, rest, parts, named, rfl⟩, hunknown⟩
    exact readCriterion_of_unknown parts named hunknown

private theorem checkFields_eq_ok_iff {spec : SortSpec} :
    spec.checkFields known = .ok () ↔ ∀ criterion ∈ spec, criterion.field ∈ known := by
  have hnone : spec.unknownField? known = none ↔ ∀ criterion ∈ spec, criterion.field ∈ known := by
    simp [unknownField?]
  rw [checkFields, ← hnone]
  split <;> simp_all

def ReadsUpTo (registry : Registry) (known : List String) (text : String) (piece : List Char) :
    Prop :=
  ∃ before after, pieces ';' text.toList = before ++ piece :: after ∧ ∀ earlier ∈ before,
    ∃ criterion, Derives registry false earlier criterion ∧ criterion.field ∈ known

theorem ofTextWithin_eq_error_iff {text : String} {fault : SortFault} :
    ofTextWithin known registry text = .error fault ↔ ∃ piece,
      ReadsUpTo registry known text piece ∧
        readCriterion registry (some known) text piece = .error fault := by
  rw [ofTextWithin, read, mapM_eq_error_iff]
  simp only [readCriterion_within_eq_ok_iff, ReadsUpTo]
  constructor
  · rintro ⟨before, piece, after, hsplit, hbefore, h⟩
    exact ⟨piece, ⟨before, after, hsplit, hbefore⟩, h⟩
  · rintro ⟨piece, ⟨before, after, hsplit, hbefore⟩, h⟩
    exact ⟨before, piece, after, hsplit, hbefore, h⟩

private theorem ofText_eq_error_of_readsUpTo {text : String} {fault : SortFault}
    (hbefore : ReadsUpTo registry known text piece)
    (h : readCriterion registry none text piece = .error fault) :
    ofText registry text = .error fault := by
  obtain ⟨before, after, hsplit, hbefore⟩ := hbefore
  rw [ofText, read, mapM_eq_error_iff]
  refine ⟨before, piece, after, hsplit, fun earlier hearlier => ?_, h⟩
  obtain ⟨criterion, hderives, -⟩ := hbefore earlier hearlier
  exact ⟨criterion, readCriterion_eq_ok_iff.mpr hderives⟩

/-- Reading with known fields succeeds where reading and checking afterwards does, with the same
specification. It fails over an unknown field or else as reading does, and it reports the first
unknown field whatever follows that field, if what stands before is well formed. -/
theorem ofTextWithin_agrees (registry : Registry) (known : List String) (text : String) :
    (∀ spec, ofTextWithin known registry text = .ok spec ↔
      ofText registry text = .ok spec ∧ checkFields spec known = .ok ()) ∧
    (∀ fault, ofTextWithin known registry text = .error fault →
      (∃ field, field ∉ known ∧ fault = .unknownField field) ∨
        ofText registry text = .error fault) ∧
    ∀ field, ofTextWithin known registry text = .error (.unknownField field) ↔
      field ∉ known ∧ ∃ piece, ReadsUpTo registry known text piece ∧ NamesField piece field := by
  refine ⟨fun spec => ?_, fun fault h => ?_, fun field => ?_⟩
  · rw [ofText_eq_ok_iff, checkFields_eq_ok_iff, ofTextWithin, read, mapM_eq_ok_iff]
    simp only [readCriterion_within_eq_ok_iff]
    exact forall₂_and_right
  · obtain ⟨piece, hbefore, h⟩ := ofTextWithin_eq_error_iff.mp h
    rcases readCriterion_within_eq_error h with ⟨field, -, hunknown, rfl⟩ | h
    · exact .inl ⟨field, hunknown, rfl⟩
    · exact .inr (ofText_eq_error_of_readsUpTo hbefore h)
  · rw [ofTextWithin_eq_error_iff]
    simp only [readCriterion_eq_unknownField_iff]
    constructor
    · rintro ⟨piece, hbefore, hfield, hunknown⟩
      exact ⟨hunknown, piece, hbefore, hfield⟩
    · rintro ⟨hunknown, piece, hbefore, hfield⟩
      exact ⟨piece, hbefore, hfield, hunknown⟩

theorem ofTextWithin_agrees_bogus :
    ofTextWithin ["price"] .builtin "price,INT;bogus,Xyz" = .error (.unknownField "bogus") ∧
      ∃ fault, ofTextWithin ["price"] .builtin "price,Xyz;bogus" = .error fault ∧
        ofText .builtin "price,Xyz;bogus" = .error fault := by
  have hspaces : Unicode.trim "bogus,Xyz".toList = "bogus,Xyz".toList := by decide
  have hunknown : NamesField "bogus,Xyz".toList "bogus" :=
    ⟨"bogus".toList, ["Xyz".toList], by
      rw [hspaces]
      exact ⟨_, .part "bogus".toList (.last "Xyz".toList), by decide, by decide⟩, by decide, rfl⟩
  have hprice : Derives .builtin false "price,INT".toList ⟨"price", .typed .int, false⟩ := by
    have hjoins : Joins ',' ["price".toList, "INT".toList] "price,INT".toList :=
      .part "price".toList (.last _)
    exact .kind ⟨_, hjoins, by decide, rfl⟩ (by decide) (.typed .int)
  have hpieces : pieces ';' "price,INT;bogus,Xyz".toList =
      ["price,INT".toList, "bogus,Xyz".toList] :=
    (Joins.part "price,INT".toList (.last _)).pieces_eq (by decide)
  refine ⟨((ofTextWithin_agrees .builtin ["price"] _).2.2 "bogus").mpr ⟨by decide, _, ?_, hunknown⟩,
    .malformed "price,Xyz;bogus" (.unknownType "Xyz" "price,Xyz"), ?_⟩
  · refine ⟨["price,INT".toList], [], hpieces, List.forall_mem_singleton.mpr ⟨_, hprice, ?_⟩⟩
    decide
  · have hfault : ofTextWithin ["price"] .builtin "price,Xyz;bogus" =
        .error (.malformed "price,Xyz;bogus" (.unknownType "Xyz" "price,Xyz")) := by
      decide +kernel
    refine ⟨hfault, ((ofTextWithin_agrees .builtin ["price"] _).2.1 _ hfault).resolve_left ?_⟩
    rintro ⟨field, -, heq⟩
    cases heq

end SortSpec

end PagedSearch
