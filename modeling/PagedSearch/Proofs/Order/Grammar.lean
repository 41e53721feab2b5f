import PagedSearch.Proofs.Order.Pieces
import PagedSearch.Proofs.Outcome

/-!
# The grammar of sort specifications

The rules by which the pieces of a text are read as criteria. The reader follows these rules and no
others. Beyond the plain grammar it passes over parts behind the flag and over text behind the
closing parenthesis of a comparator.
-/

namespace PagedSearch

namespace SortSpec

def flagWords : List (String × Bool) :=
  [("true", true), ("reverse", true), ("desc", true), ("false", false), ("asc", false)]

def IsFlag (text : List Char) (flag : Bool) : Prop :=
  (String.ofList (text.map Char.toLower), flag) ∈ flagWords

instance (text : List Char) (flag : Bool) : Decidable (IsFlag text flag) :=
  inferInstanceAs (Decidable (_ ∈ flagWords))

def IsLanguage (text : List Char) : Prop := text ≠ [] ∧ text.length ≤ 2

def IsCountry (text : List Char) : Prop := text ≠ [] ∧ text.length ≤ 3

inductive IsLocale : List Char → Locale → Prop where
  | language {text language : List Char} (parts : Lists '-' [language] text)
      (isLanguage : IsLanguage language) : IsLocale text ⟨.ofList language, none, none⟩
  | country {text language country : List Char} (parts : Lists '-' [language, country] text)
      (isLanguage : IsLanguage language) (isCountry : IsCountry country) :
      IsLocale text ⟨.ofList language, some (.ofList country), none⟩
  | variant {text language country variant : List Char}
      (parts : Lists '-' [language, country, variant] text)
      (isLanguage : IsLanguage language) (isCountry : IsCountry country) (nonempty : variant ≠ []) :
      IsLocale text ⟨.ofList language, some (.ofList country), some (.ofList variant)⟩

/-- A comparator is an identifier, which parameters in parentheses may follow. Blank parameters do
not count. In the strict form nothing stands behind the parentheses. -/
inductive NamesComparator (strict : Bool) : List Char → String → List String → Prop where
  | bare {kind : List Char} (unopened : '(' ∉ kind) : NamesComparator strict kind (.ofList kind) []
  | applied {identifier inner behind : List Char} {parts : List (List Char)}
      (unopened : '(' ∉ identifier) (unclosed : ')' ∉ identifier) (long : 3 ≤ identifier.length)
      (inside : ')' ∉ inner) (separated : Lists '-' parts inner)
      (plain : strict = true → behind = []) :
      NamesComparator strict (identifier ++ '(' :: (inner ++ ')' :: behind)) (.ofList identifier)
        ((parts.filter (!·.isEmpty)).map .ofList)

def BeginsSmall (text : List Char) : Prop := ∀ c, text.head? = some c → ¬ ('A' ≤ c ∧ c ≤ 'Z')

/-- A kind with a point in it is a comparator that can be constructed. Any other is a name in
capitals or a locale, which does not begin with a capital. -/
inductive IsKind (registry : Registry) (strict : Bool) : List Char → CriterionKind → Prop where
  | score {kind : List Char} (named : kind = "AUTO".toList ∨ kind = "SCORE".toList) :
      IsKind registry strict kind .score
  | doc : IsKind registry strict "DOC".toList .doc
  | typed (type : ValueType) : IsKind registry strict type.name.toList (.typed type)
  | collated {kind : List Char} {locale : Locale} (unpointed : '.' ∉ kind)
      (small : BeginsSmall kind) (isLocale : IsLocale kind locale) :
      IsKind registry strict kind (.collated locale)
  | custom {kind : List Char} {identifier : String} {parameters : List String}
      {comparator : ValueComparator} (pointed : '.' ∈ kind)
      (names : NamesComparator strict kind identifier parameters)
      (resolves : registry.resolve identifier parameters = .ok comparator) :
      IsKind registry strict kind (.custom ⟨identifier, parameters, comparator⟩)

/-- A criterion is a field name, which a kind may follow, which a reverse flag may follow. In the
strict form nothing stands behind the flag. -/
inductive Derives (registry : Registry) (strict : Bool) : List Char → Criterion → Prop where
  | field {piece name : List Char} (parts : Lists ',' [name] (Unicode.trim piece))
      (named : name ≠ []) : Derives registry strict piece ⟨.ofList name, .score, false⟩
  | kind {piece name text : List Char} {kind : CriterionKind}
      (parts : Lists ',' [name, text] (Unicode.trim piece)) (named : name ≠ [])
      (isKind : IsKind registry strict text kind) :
      Derives registry strict piece ⟨.ofList name, kind, false⟩
  | flag {piece name text flag : List Char} {behind : List (List Char)} {kind : CriterionKind}
      {reverse : Bool} (parts : Lists ',' (name :: text :: flag :: behind) (Unicode.trim piece))
      (named : name ≠ []) (isKind : IsKind registry strict text kind) (isFlag : IsFlag flag reverse)
      (plain : strict = true → behind = []) :
      Derives registry strict piece
        ⟨.ofList name, kind, if kind = .score then !reverse else reverse⟩

variable {criterion : String} {kind flag : List Char}

private theorem readFlag_eq_ok_iff {reverse : Bool} :
    readFlag criterion flag = .ok reverse ↔ IsFlag flag reverse := by
  cases flag with
  | nil => cases reverse <;> simp [readFlag, IsFlag, flagWords]
  | cons c rest =>
    rw [readFlag, if_neg (by simp), IsFlag]
    generalize String.ofList ((c :: rest).map Char.toLower) = word
    split <;> cases reverse <;> simp_all [flagWords]

private theorem readCountry_eq_ok_iff {part : Option (List Char)} {country : Option String} :
    readCountry criterion part = .ok country ↔
      (∀ text ∈ part, IsCountry text) ∧ part.map .ofList = country := by
  cases part with
  | none => simp [readCountry]
  | some text => simp [readCountry, guard_eq_ok_iff, IsCountry, and_assoc]

private theorem readVariant_eq_ok_iff {part : Option (List Char)} {variant : Option String} :
    readVariant criterion part = .ok variant ↔
      (∀ text ∈ part, text ≠ []) ∧ part.map .ofList = variant := by
  cases part with
  | none => simp [readVariant]
  | some text => simp [readVariant, guard_eq_ok_iff]

private theorem readLocale_eq_ok_iff {locale : Locale} :
    readLocale criterion kind = .ok locale ↔ IsLocale kind locale := by
  have hread (parts : List (List Char)) (hparts : trimmedPieces '-' kind = parts) :
      readLocale criterion kind = .ok locale ↔ parts.length ≤ 3 ∧ IsLanguage (parts.head?.getD []) ∧
        (∀ text ∈ parts[1]?, IsCountry text) ∧ (∀ text ∈ parts[2]?, text ≠ []) ∧
        ⟨.ofList (parts.head?.getD []), parts[1]?.map .ofList, parts[2]?.map .ofList⟩ = locale := by
    simp only [readLocale, hparts, stop_eq_ok_iff, bind_eq_ok_iff, readCountry_eq_ok_iff,
      readVariant_eq_ok_iff]
    simp [IsLanguage, pure, Except.pure, and_assoc]
  constructor
  · intro h
    rcases hparts : trimmedPieces '-' kind with
      - | ⟨language, - | ⟨country, - | ⟨variant, - | ⟨more, rest⟩⟩⟩⟩
    all_goals
      obtain ⟨hlength, hlanguage, hcountry, hvariant, rfl⟩ := (hread _ hparts).mp h
    · exact absurd rfl hlanguage.1
    · exact .language (lists_iff.mpr hparts) hlanguage
    · exact .country (lists_iff.mpr hparts) hlanguage (hcountry country rfl)
    · exact .variant (lists_iff.mpr hparts) hlanguage (hcountry country rfl) (hvariant variant rfl)
    · simp only [List.length_cons] at hlength
      omega
  · intro h
    cases h with
    | language parts isLanguage =>
      exact (hread _ (lists_iff.mp parts)).mpr (by simp [isLanguage])
    | country parts isLanguage isCountry =>
      exact (hread _ (lists_iff.mp parts)).mpr (by simp [isLanguage, isCountry])
    | variant parts isLanguage isCountry nonempty =>
      exact (hread _ (lists_iff.mp parts)).mpr (by simp [isLanguage, isCountry, nonempty])

private theorem splitComparator_eq_ok_iff {identifier : String} {parameters : List String} :
    splitComparator kind = .ok (identifier, parameters) ↔
      NamesComparator false kind identifier parameters := by
  constructor
  · intro h
    rw [splitComparator] at h
    by_cases hopen : '(' ∈ kind
    · obtain ⟨front, rest, rfl, hfront⟩ := List.eq_append_cons_of_mem hopen
      rw [dropWhile_ne_append hfront, takeWhile_ne_append hfront] at h
      simp only [guard_eq_ok_iff, Bool.or_eq_true, decide_eq_true_eq, List.contains_iff_mem,
        Bool.not_eq_true', not_or, Nat.not_lt] at h
      obtain ⟨⟨⟨hlong, hunclosed⟩, hclose⟩, h⟩ := h
      have hmem : ')' ∈ rest := by simpa using hclose
      obtain ⟨inner, behind, rfl, hinner⟩ := List.eq_append_cons_of_mem hmem
      rw [takeWhile_ne_append hinner] at h
      cases h
      exact .applied hfront hunclosed hlong hinner (lists_iff.mpr rfl) (by simp)
    · rw [dropWhile_ne_of_not_mem hopen] at h
      cases h
      exact .bare hopen
  · intro h
    cases h with
    | bare unopened => rw [splitComparator, dropWhile_ne_of_not_mem unopened]
    | applied unopened unclosed long inside separated plain =>
      rw [splitComparator, dropWhile_ne_append unopened, takeWhile_ne_append unopened]
      simp only [takeWhile_ne_append inside, lists_iff.mp separated]
      rw [if_neg]
      simp [unclosed, long]

variable {registry : Registry} {spec : String}

private theorem readComparator_eq_ok_iff {result : CriterionKind} :
    readComparator registry spec kind = .ok result ↔
      ∃ identifier parameters comparator, NamesComparator false kind identifier parameters ∧
        registry.resolve identifier parameters = .ok comparator ∧
        result = .custom ⟨identifier, parameters, comparator⟩ := by
  simp only [readComparator, bind_eq_ok_iff, mapError_eq_ok_iff, Prod.exists,
    splitComparator_eq_ok_iff, pure, Except.pure, Except.ok.injEq]
  constructor
  · rintro ⟨identifier, parameters, hnames, comparator, hresolves, rfl⟩
    exact ⟨identifier, parameters, comparator, hnames, hresolves, rfl⟩
  · rintro ⟨identifier, parameters, comparator, hnames, hresolves, rfl⟩
    exact ⟨identifier, parameters, hnames, comparator, hresolves, rfl⟩

theorem ofName?_eq_some_iff {name : String} {type : ValueType} :
    ValueType.ofName? name = some type ↔ name = type.name := by
  constructor
  · intro h
    have hname := @List.find?_some _ (fun type : ValueType => type.name == name) _ _ h
    exact (beq_iff_eq.mp hname).symm
  · rintro rfl
    cases type <;> rfl

private theorem readKind_of_small (hpoint : '.' ∉ kind) (hsmall : BeginsSmall kind) :
    readKind registry spec criterion kind =
      ((readLocale criterion kind).mapError (.malformed spec)).map .collated := by
  -- All names of kinds begin with a capital, so none of them is this one.
  have hname (name : String) (c : Char) (hc : name.toList.head? = some c)
      (hcapital : 'A' ≤ c ∧ c ≤ 'Z') : String.ofList kind ≠ name := by
    rintro rfl
    exact hsmall c (by simpa using hc) hcapital
  have htype : ValueType.ofName? (String.ofList kind) = none := by
    rw [← Option.not_isSome_iff_eq_none, Option.isSome_iff_exists]
    rintro ⟨type, h⟩
    rw [ofName?_eq_some_iff] at h
    cases type <;> exact hname _ _ rfl (by decide) h
  have hcapital : ¬ (kind.head?.any fun c => 'A' ≤ c && c ≤ 'Z') = true := by
    rcases hhead : kind.head? with - | c
    · simp
    · simpa using hsmall c hhead
  rw [readKind, if_neg (by simpa using hpoint)]
  split
  case h_1 h => exact absurd h (hname _ _ rfl (by decide))
  case h_2 h => exact absurd h (hname _ _ rfl (by decide))
  case h_3 h => exact absurd h (hname _ _ rfl (by decide))
  case h_4 => rw [htype, if_neg hcapital]

private theorem readKind_eq_ok_iff {result : CriterionKind} :
    readKind registry spec criterion kind = .ok result ↔ IsKind registry false kind result := by
  constructor
  · intro h
    rw [readKind] at h
    split at h
    case isTrue hpoint =>
      obtain ⟨identifier, parameters, comparator, hnames, hresolves, rfl⟩ :=
        readComparator_eq_ok_iff.mp h
      exact .custom (by simpa using hpoint) hnames hresolves
    case isFalse hpoint =>
      split at h
      case h_1 hname =>
        cases h
        exact .score (.inl (by simpa using congrArg String.toList hname))
      case h_2 hname =>
        cases h
        exact .score (.inr (by simpa using congrArg String.toList hname))
      case h_3 hname =>
        cases h
        obtain rfl : kind = "DOC".toList := by simpa using congrArg String.toList hname
        exact .doc
      case h_4 =>
        split at h
        case h_1 type htype =>
          cases h
          obtain rfl : kind = type.name.toList := by
            simpa using congrArg String.toList (ofName?_eq_some_iff.mp htype)
          exact .typed type
        case h_2 =>
          rw [guard_eq_ok_iff] at h
          obtain ⟨hsmall, h⟩ := h
          obtain ⟨locale, hlocale, rfl⟩ := map_eq_ok_iff.mp h
          have hhead : BeginsSmall kind := by
            intro c hc
            simpa [hc] using hsmall
          exact .collated (by simpa using hpoint) hhead
            (readLocale_eq_ok_iff.mp (mapError_eq_ok_iff.mp hlocale))
  · intro h
    cases h with
    | score named => rcases named with rfl | rfl <;> rfl
    | doc => rfl
    | typed type => cases type <;> rfl
    | @collated kind locale unpointed small isLocale =>
      rw [readKind_of_small unpointed small]
      exact map_eq_ok_iff.mpr
        ⟨locale, mapError_eq_ok_iff.mpr (readLocale_eq_ok_iff.mpr isLocale), rfl⟩
    | custom pointed names resolves =>
      rw [readKind, if_pos (by simpa using pointed)]
      exact readComparator_eq_ok_iff.mpr ⟨_, _, _, names, resolves, rfl⟩

private theorem readReverse_eq_ok_iff {kind : CriterionKind} {part : Option (List Char)}
    {reverse : Bool} :
    readReverse criterion kind part = .ok reverse ↔
      (part = none ∧ reverse = false) ∨ ∃ flag word, part = some flag ∧ IsFlag flag word ∧
        reverse = if kind = .score then !word else word := by
  cases part with
  | none => simp [readReverse, eq_comm]
  | some flag =>
    rw [readReverse, bind_eq_ok_iff]
    simp only [readFlag_eq_ok_iff, pure, Except.pure, Except.ok.injEq, Option.some.injEq]
    constructor
    · rintro ⟨word, hword, rfl⟩
      exact .inr ⟨flag, word, rfl, hword, rfl⟩
    · rintro (⟨hnone, -⟩ | ⟨flag, word, rfl, hword, rfl⟩)
      · cases hnone
      · exact ⟨word, hword, rfl⟩

theorem not_isKind_nil {strict : Bool} {result : CriterionKind} :
    ¬ IsKind registry strict [] result := by
  intro h
  generalize hkind : ([] : List Char) = kind at h
  cases h with
  | score named => rcases named with rfl | rfl <;> cases hkind
  | doc => cases hkind
  | typed type => cases type <;> cases hkind
  | collated unpointed small isLocale =>
    subst hkind
    cases isLocale with
    | language parts => simp [lists_iff, trimmedPieces, pieces_nil] at parts
    | country parts => simp [lists_iff, trimmedPieces, pieces_nil] at parts
    | variant parts => simp [lists_iff, trimmedPieces, pieces_nil] at parts
  | custom pointed => simp [← hkind] at pointed

section Piece

variable {piece name text : List Char} {rest : List (List Char)}

theorem trim_ne_nil_of_trimmedPieces
    (hparts : trimmedPieces ',' (Unicode.trim piece) = name :: rest) : Unicode.trim piece ≠ [] := by
  intro hnil
  simp [hnil, trimmedPieces, pieces_nil] at hparts

private theorem readCriterion_of_head_nil
    (h : (trimmedPieces ',' (Unicode.trim piece)).head?.getD [] = []) :
    ∃ fault, readCriterion registry none spec piece = .error (.malformed spec fault) := by
  by_cases hpiece : Unicode.trim piece = []
  · exact ⟨.emptyCriterion, by rw [readCriterion, if_pos (by simpa using hpiece)]; rfl⟩
  · refine ⟨.emptyField (.ofList (Unicode.trim piece)), ?_⟩
    rw [readCriterion, if_neg (by simpa using hpiece)]
    simp only
    rw [if_pos (by simpa using h)]
    rfl

private theorem readCriterion_of_field (hparts : trimmedPieces ',' (Unicode.trim piece) = [name])
    (hname : name ≠ []) :
    readCriterion registry none spec piece = .ok ⟨.ofList name, .score, false⟩ := by
  rw [readCriterion, if_neg (by simpa using trim_ne_nil_of_trimmedPieces hparts)]
  simp only [hparts]
  rw [if_neg (by simpa using hname)]
  rfl

theorem readCriterion_of_kind
    (hparts : trimmedPieces ',' (Unicode.trim piece) = name :: text :: rest) (hname : name ≠ []) :
    readCriterion registry none spec piece =
      if text = [] then .error (.malformed spec (.emptyKind (.ofList (Unicode.trim piece))))
      else do
        let kind ← readKind registry spec (.ofList (Unicode.trim piece)) text
        let reverse ← (readReverse (.ofList (Unicode.trim piece)) kind rest.head?).mapError
          (.malformed spec)
        return ⟨.ofList name, kind, reverse⟩ := by
  rw [readCriterion, if_neg (by simpa using trim_ne_nil_of_trimmedPieces hparts)]
  simp only [hparts]
  rw [if_neg (by simpa using hname)]
  have hflag : (name :: text :: rest)[2]? = rest.head? := by cases rest <;> rfl
  rw [hflag]
  show (if text.isEmpty = true then _ else _) = _
  by_cases htext : text = []
  · rw [if_pos htext, if_pos (by simpa using htext)]
    rfl
  · rw [if_neg htext, if_neg (by simpa using htext)]
    rfl

end Piece

/-- What is read of a piece is derived, and what is derived is read. -/
theorem readCriterion_eq_ok_iff {piece : List Char} {result : Criterion} :
    readCriterion registry none spec piece = .ok result ↔ Derives registry false piece result := by
  constructor
  · intro h
    by_cases hhead : (trimmedPieces ',' (Unicode.trim piece)).head?.getD [] = []
    · obtain ⟨fault, herror⟩ := @readCriterion_of_head_nil registry spec piece hhead
      rw [herror] at h
      cases h
    rcases hparts : trimmedPieces ',' (Unicode.trim piece) with - | ⟨name, - | ⟨text, rest⟩⟩
    · simp [hparts] at hhead
    all_goals
      have hname : name ≠ [] := by simpa [hparts] using hhead
    · rw [readCriterion_of_field hparts hname] at h
      cases h
      exact .field (lists_iff.mpr hparts) hname
    · rw [readCriterion_of_kind hparts hname, guard_eq_ok_iff, bind_eq_ok_iff] at h
      obtain ⟨-, kind, hkind, h⟩ := h
      obtain ⟨reverse, hreverse, h⟩ := bind_eq_ok_iff.mp h
      cases h
      have hkind := readKind_eq_ok_iff.mp hkind
      rcases readReverse_eq_ok_iff.mp (mapError_eq_ok_iff.mp hreverse) with
        ⟨hrest, rfl⟩ | ⟨flag, word, hrest, hword, rfl⟩
      · rw [List.head?_eq_none_iff.mp hrest] at hparts
        exact .kind (lists_iff.mpr hparts) hname hkind
      · obtain ⟨behind, rfl⟩ := List.head?_eq_some_iff.mp hrest
        exact .flag (lists_iff.mpr hparts) hname hkind hword (by simp)
  · intro h
    have hread {name text : List Char} {rest : List (List Char)} {kind : CriterionKind}
        {reverse : Bool} (parts : Lists ',' (name :: text :: rest) (Unicode.trim piece))
        (named : name ≠ []) (isKind : IsKind registry false text kind)
        (hreverse : readReverse (.ofList (Unicode.trim piece)) kind rest.head? = .ok reverse) :
        readCriterion registry none spec piece = .ok ⟨.ofList name, kind, reverse⟩ := by
      have htext : text ≠ [] := by
        rintro rfl
        exact not_isKind_nil isKind
      rw [readCriterion_of_kind (lists_iff.mp parts) named, if_neg htext,
        readKind_eq_ok_iff.mpr isKind]
      exact bind_eq_ok_iff.mpr ⟨kind, rfl, bind_eq_ok_iff.mpr
        ⟨reverse, mapError_eq_ok_iff.mpr hreverse, rfl⟩⟩
    cases h with
    | field parts named => exact readCriterion_of_field (lists_iff.mp parts) named
    | kind parts named isKind => exact hread parts named isKind rfl
    | flag parts named isKind isFlag plain =>
      exact hread parts named isKind
        (readReverse_eq_ok_iff.mpr (.inr ⟨_, _, rfl, isFlag, rfl⟩))

/-- The criteria read of a text are derived piece by piece. -/
theorem ofText_eq_ok_iff {text : String} {result : SortSpec} :
    ofText registry text = .ok result ↔
      List.Forall₂ (Derives registry false) (pieces ';' text.toList) result := by
  rw [ofText, read, mapM_eq_ok_iff]
  simp only [readCriterion_eq_ok_iff]

def FailsToResolve (registry : Registry) (piece : List Char) (fault : ConstructionFault) : Prop :=
  ∃ name kind behind identifier parameters,
    Lists ',' (name :: kind :: behind) (Unicode.trim piece) ∧ '.' ∈ kind ∧
    NamesComparator false kind identifier parameters ∧
    registry.resolve identifier parameters = .error fault

private theorem readKind_eq_error {fault : SortFault}
    (h : readKind registry spec criterion kind = .error fault) :
    (∃ reason, fault = .malformed spec reason) ∨
      ∃ identifier parameters cause, '.' ∈ kind ∧ NamesComparator false kind identifier parameters ∧
        registry.resolve identifier parameters = .error cause ∧ fault = .construction cause := by
  rw [readKind] at h
  split at h
  case isTrue hpoint =>
    rcases bind_eq_error_iff.mp h with h | ⟨⟨identifier, parameters⟩, hnames, h⟩
    · obtain ⟨reason, -, rfl⟩ := mapError_eq_error_iff.mp h
      exact .inl ⟨reason, rfl⟩
    · have hnames := splitComparator_eq_ok_iff.mp (mapError_eq_ok_iff.mp hnames)
      rcases bind_eq_error_iff.mp h with h | ⟨comparator, -, h⟩
      · obtain ⟨cause, hresolve, rfl⟩ := mapError_eq_error_iff.mp h
        exact .inr ⟨identifier, parameters, cause, by simpa using hpoint, hnames, hresolve, rfl⟩
      · cases h
  case isFalse =>
    split at h
    case h_4 =>
      split at h
      case h_1 => cases h
      case h_2 =>
        split at h
        · cases h
          exact .inl ⟨_, rfl⟩
        · rcases hlocale : readLocale criterion kind with reason | locale
          · rw [hlocale] at h
            cases h
            exact .inl ⟨reason, rfl⟩
          · rw [hlocale] at h
            cases h
    all_goals cases h

theorem readCriterion_eq_error {piece : List Char} {fault : SortFault}
    (h : readCriterion registry none spec piece = .error fault) :
    (∃ reason, fault = .malformed spec reason) ∨
      ∃ cause, FailsToResolve registry piece cause ∧ fault = .construction cause := by
  by_cases hhead : (trimmedPieces ',' (Unicode.trim piece)).head?.getD [] = []
  · obtain ⟨reason, herror⟩ := @readCriterion_of_head_nil registry spec piece hhead
    rw [herror] at h
    cases h
    exact .inl ⟨reason, rfl⟩
  rcases hparts : trimmedPieces ',' (Unicode.trim piece) with - | ⟨name, - | ⟨text, rest⟩⟩
  · simp [hparts] at hhead
  all_goals
    have hname : name ≠ [] := by simpa [hparts] using hhead
  · rw [readCriterion_of_field hparts hname] at h
    cases h
  · rw [readCriterion_of_kind hparts hname] at h
    split at h
    · cases h
      exact .inl ⟨_, rfl⟩
    · rcases bind_eq_error_iff.mp h with h | ⟨kind, -, h⟩
      · refine (readKind_eq_error h).imp_right ?_
        rintro ⟨identifier, parameters, cause, hpoint, hnames, hresolve, rfl⟩
        exact ⟨cause, ⟨name, text, rest, identifier, parameters, lists_iff.mpr hparts, hpoint,
          hnames, hresolve⟩, rfl⟩
      · rcases bind_eq_error_iff.mp h with h | ⟨reverse, -, h⟩
        · obtain ⟨reason, -, rfl⟩ := mapError_eq_error_iff.mp h
          exact .inl ⟨reason, rfl⟩
        · cases h

section Relax

variable {strict : Bool}

private theorem NamesComparator.relax {identifier : String} {parameters : List String}
    (h : NamesComparator strict kind identifier parameters) :
    NamesComparator false kind identifier parameters := by
  cases h with
  | bare unopened => exact .bare unopened
  | applied unopened unclosed long inside separated plain =>
    exact .applied unopened unclosed long inside separated (by simp)

private theorem IsKind.relax {result : CriterionKind} (h : IsKind registry strict kind result) :
    IsKind registry false kind result := by
  cases h with
  | score named => exact .score named
  | doc => exact .doc
  | typed type => exact .typed type
  | collated unpointed small isLocale => exact .collated unpointed small isLocale
  | custom pointed names resolves => exact .custom pointed names.relax resolves

private theorem Derives.relax {piece : List Char} {result : Criterion}
    (h : Derives registry strict piece result) : Derives registry false piece result := by
  cases h with
  | field parts named => exact .field parts named
  | kind parts named isKind => exact .kind parts named isKind.relax
  | flag parts named isKind isFlag plain => exact .flag parts named isKind.relax isFlag (by simp)

theorem Derives.trim_ne_nil {piece : List Char} {result : Criterion}
    (h : Derives registry strict piece result) : Unicode.trim piece ≠ [] := by
  cases h with
  | field parts named => exact trim_ne_nil_of_trimmedPieces (lists_iff.mp parts)
  | kind parts named isKind => exact trim_ne_nil_of_trimmedPieces (lists_iff.mp parts)
  | flag parts named isKind isFlag plain => exact trim_ne_nil_of_trimmedPieces (lists_iff.mp parts)

end Relax

/-- Nothing stands behind the parenthesis that closes the parameters of a comparator. -/
def ClosesLast (kind : List Char) : Prop :=
  '.' ∈ kind → ∀ front behind, kind = front ++ ')' :: behind → '(' ∈ front → ')' ∉ front →
    behind = []

/-- Nothing stands behind the flag of a criterion, and nothing behind the parameters of its
comparator. -/
def EndsPlainly (piece : List Char) : Prop :=
  ∀ parts, Lists ',' parts (Unicode.trim piece) →
    parts.length ≤ 3 ∧ ∀ kind, parts[1]? = some kind → ClosesLast kind

private theorem IsKind.strict {result : CriterionKind} (h : IsKind registry false kind result)
    (hplain : ClosesLast kind) : IsKind registry true kind result := by
  cases h with
  | score named => exact .score named
  | doc => exact .doc
  | typed type => exact .typed type
  | collated unpointed small isLocale => exact .collated unpointed small isLocale
  | custom pointed names resolves =>
    refine .custom pointed ?_ resolves
    cases names with
    | bare unopened => exact .bare unopened
    | @applied identifier inner behind _ unopened unclosed long inside separated plain =>
      refine .applied unopened unclosed long inside separated fun _ => ?_
      exact hplain pointed (identifier ++ '(' :: inner) behind (by simp) (by simp)
        (by simp [unclosed, inside])

private theorem IsKind.closesLast {result : CriterionKind} (h : IsKind registry true kind result) :
    ClosesLast kind := by
  intro hpoint front behind hkind hopen hfront
  cases h with
  | score named => rcases named with rfl | rfl <;> simp at hpoint
  | doc => simp at hpoint
  | typed type => cases type <;> simp [ValueType.name] at hpoint
  | collated unpointed => exact absurd hpoint unpointed
  | custom pointed names resolves =>
    cases names with
    | bare unopened => exact absurd (by simp [hkind, hopen]) unopened
    | @applied identifier inner after _ unopened unclosed long inside separated plain =>
      obtain rfl : after = [] := plain rfl
      -- What follows the first closing parenthesis is the same however the text is cut.
      have hcut : (identifier ++ '(' :: (inner ++ [')'])).dropWhile (· ≠ ')') = [')'] := by
        have hbefore : ')' ∉ identifier ++ '(' :: inner := by simp [unclosed, inside]
        simpa using dropWhile_ne_append hbefore []
      rw [hkind, dropWhile_ne_append hfront] at hcut
      simpa using hcut

private theorem Derives.endsPlainly {piece : List Char} {result : Criterion}
    (h : Derives registry true piece result) : EndsPlainly piece := by
  intro parts hparts
  obtain rfl := lists_iff.mp hparts
  cases h with
  | field parts named => simp [lists_iff.mp parts]
  | kind parts named isKind =>
    rw [lists_iff.mp parts]
    simpa using isKind.closesLast
  | flag parts named isKind isFlag plain =>
    rw [lists_iff.mp parts]
    simpa [plain rfl] using isKind.closesLast

private theorem Derives.strict {piece : List Char} {result : Criterion}
    (h : Derives registry false piece result) (hplain : EndsPlainly piece) :
    Derives registry true piece result := by
  cases h with
  | field parts named => exact .field parts named
  | kind parts named isKind => exact .kind parts named (isKind.strict ((hplain _ parts).2 _ rfl))
  | flag parts named isKind isFlag plain =>
    obtain ⟨hlength, hkind⟩ := hplain _ parts
    refine .flag parts named (isKind.strict (hkind _ rfl)) isFlag fun _ => ?_
    simp only [List.length_cons] at hlength
    exact List.eq_nil_of_length_eq_zero (by omega)

private theorem derives_strict_iff {piece : List Char} {result : Criterion} :
    Derives registry true piece result ↔ Derives registry false piece result ∧ EndsPlainly piece :=
  ⟨fun h => ⟨h.relax, h.endsPlainly⟩, fun ⟨h, hplain⟩ => h.strict hplain⟩

/-- The texts read as specifications are those of which every piece is derived. If nothing stands
behind the flags and the parameters of comparators, they are the texts of the strict grammar. A text
that is not read is malformed unless a comparator cannot be constructed. -/
theorem ofText_follows_grammar (registry : Registry) (text : String) :
    ((∃ spec, ofText registry text = .ok spec) ↔
      ∀ piece ∈ pieces ';' text.toList, ∃ criterion, Derives registry false piece criterion) ∧
    ((∀ piece ∈ pieces ';' text.toList, EndsPlainly piece) →
      ((∃ spec, ofText registry text = .ok spec) ↔
        ∀ piece ∈ pieces ';' text.toList, ∃ criterion, Derives registry true piece criterion)) ∧
    ∀ fault, ofText registry text = .error fault →
      (∃ reason, fault = .malformed text reason) ∨
        ∃ piece ∈ pieces ';' text.toList, ∃ cause, FailsToResolve registry piece cause ∧
          fault = .construction cause := by
  have hok : (∃ spec, ofText registry text = .ok spec) ↔
      ∀ piece ∈ pieces ';' text.toList, ∃ criterion, Derives registry false piece criterion := by
    rw [ofText, read, exists_mapM_eq_ok_iff]
    simp only [readCriterion_eq_ok_iff]
  refine ⟨hok, fun hplain => ?_, fun fault h => ?_⟩
  · rw [hok]
    refine forall₂_congr fun piece hpiece => exists_congr fun criterion => ?_
    rw [derives_strict_iff, and_iff_left (hplain piece hpiece)]
  · obtain ⟨piece, hpiece, h⟩ := mapM_eq_error h
    refine (readCriterion_eq_error h).imp_right ?_
    rintro ⟨cause, hresolve, rfl⟩
    exact ⟨piece, hpiece, cause, hresolve, rfl⟩

theorem ofText_follows_grammar_price :
    (∀ piece ∈ pieces ';' "price,INT,DESC;title,hitpage.sort.LengthComparator".toList,
      EndsPlainly piece) ∧
    ∃ spec, ofText .builtin "price,INT,DESC;title,hitpage.sort.LengthComparator" = .ok spec := by
  have hpieces : pieces ';' "price,INT,DESC;title,hitpage.sort.LengthComparator".toList =
      ["price,INT,DESC".toList, "title,hitpage.sort.LengthComparator".toList] :=
    (Joins.part "price,INT,DESC".toList (.last _)).pieces_eq (by decide)
  have hprice : Derives .builtin true "price,INT,DESC".toList ⟨"price", .typed .int, true⟩ := by
    have hjoins : Joins ',' ["price".toList, "INT".toList, "DESC".toList] "price,INT,DESC".toList :=
      .part "price".toList (.part "INT".toList (.last _))
    exact .flag ⟨_, hjoins, by decide, rfl⟩ (by decide) (.typed .int) (by decide) (by simp)
  have htitle : Derives .builtin true "title,hitpage.sort.LengthComparator".toList
      ⟨"title", .custom ⟨"hitpage.sort.LengthComparator", [], .length⟩, false⟩ := by
    have hjoins : Joins ',' ["title".toList, "hitpage.sort.LengthComparator".toList]
        "title,hitpage.sort.LengthComparator".toList := .part "title".toList (.last _)
    exact .kind ⟨_, hjoins, by decide, rfl⟩ (by decide)
      (.custom (by decide) (.bare (by decide)) (by decide))
  have hplain : ∀ piece ∈ pieces ';' "price,INT,DESC;title,hitpage.sort.LengthComparator".toList,
      EndsPlainly piece := by
    rw [hpieces]
    simpa using ⟨hprice.endsPlainly, htitle.endsPlainly⟩
  refine ⟨hplain, ((ofText_follows_grammar .builtin _).2.1 hplain).mpr ?_⟩
  rw [hpieces]
  simpa using ⟨⟨_, hprice⟩, _, htitle⟩

/-- A part behind the flag is passed over. -/
theorem passes_over_stray_part :
    ¬ ((∃ spec, ofText .builtin "price,INT,DESC,x" = .ok spec) ↔
      ∀ piece ∈ pieces ';' "price,INT,DESC,x".toList,
        ∃ criterion, Derives .builtin true piece criterion) := by
  have hpieces : pieces ';' "price,INT,DESC,x".toList = ["price,INT,DESC,x".toList] :=
    pieces_of_not_mem (by decide) (by decide)
  have hparts : Lists ',' ["price".toList, "INT".toList, "DESC".toList, "x".toList]
      (Unicode.trim "price,INT,DESC,x".toList) := by
    have hjoins : Joins ',' ["price".toList, "INT".toList, "DESC".toList, "x".toList]
        "price,INT,DESC,x".toList :=
      .part "price".toList (.part "INT".toList (.part "DESC".toList (.last _)))
    exact ⟨_, hjoins, by decide, rfl⟩
  have hread : ofText .builtin "price,INT,DESC,x" = .ok [⟨"price", .typed .int, true⟩] := by
    rw [ofText_eq_ok_iff, hpieces]
    exact .cons (.flag hparts (by decide) (.typed .int) (by decide) (by simp)) .nil
  intro h
  obtain ⟨criterion, hderives⟩ := h.mp ⟨_, hread⟩ _ (hpieces ▸ List.mem_singleton_self _)
  exact absurd (hderives.endsPlainly _ hparts).1 (by decide)

end SortSpec

end PagedSearch
