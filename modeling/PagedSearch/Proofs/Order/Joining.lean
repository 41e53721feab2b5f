import PagedSearch.Proofs.Order.Grammar
import PagedSearch.Proofs.Related

/-!
# Joined specifications

Two specification texts with a semicolon between them are read one after the other. What is read of
a piece does not depend on the text around it, which only the message of a fault quotes.
-/

namespace PagedSearch

private theorem pieces_eq_filter_splitOn (delimiter : Char) (text : List Char) :
    pieces delimiter text = (text.splitOn delimiter).filter (· ≠ []) := by
  -- The text behind the first delimiter is shorter, so the induction is on the length.
  induction hn : text.length using Nat.strongRecOn generalizing text with
  | ind n ih =>
    by_cases hmem : delimiter ∈ text
    · obtain ⟨first, rest, rfl, hfirst⟩ := List.eq_append_cons_of_mem hmem
      have hrest := ih rest.length (by simp [← hn]; omega) rest rfl
      rw [pieces_append_delimiter, List.splitOn_append_cons_self_of_not_mem hfirst, hrest]
      by_cases hnil : first = []
      · simp [hnil, pieces_nil]
      · simp [hnil, pieces_of_not_mem hfirst hnil]
    · rw [List.splitOn_eq_singleton hmem]
      by_cases hnil : text = []
      · simp [hnil, pieces_nil]
      · simp [hnil, pieces_of_not_mem hmem hnil]

namespace SortFault

def requote (spec : String) : SortFault → SortFault
  | malformed _ fault => malformed spec fault
  | unknownField name => unknownField name
  | construction fault => construction fault

@[simp]
theorem kind_requote (spec : String) (fault : SortFault) : (fault.requote spec).kind = fault.kind := by
  cases fault <;> rfl

@[simp]
theorem requote_requote (spec other : String) (fault : SortFault) :
    (fault.requote other).requote spec = fault.requote spec := by
  cases fault <;> rfl

end SortFault

namespace SortSpec

variable {registry : Registry} {known : Option (List String)}

section Requote

variable (spec other : String)

private theorem readKind_requote (criterion : String) (kind : List Char) :
    readKind registry spec criterion kind =
      (readKind registry other criterion kind).mapError (.requote spec) := by
  unfold readKind readComparator
  split
  · rcases splitComparator kind with fault | ⟨identifier, parameters⟩
    · rfl
    · rcases hresolve : registry.resolve identifier parameters with fault | comparator <;>
        simp only [Except.mapError, bind, Except.bind, hresolve] <;> rfl
  · split
    · rfl
    · rfl
    · rfl
    · split
      · rfl
      · split
        · rfl
        · rcases readLocale criterion kind with fault | locale <;> rfl

private theorem readCriterion_requote (piece : List Char) :
    readCriterion registry known spec piece =
      (readCriterion registry known other piece).mapError (.requote spec) := by
  unfold readCriterion
  dsimp only
  split
  · rfl
  split
  · rfl
  split
  · rfl
  split
  · rfl
  split
  · rfl
  · rename_i kind _ _
    rw [readKind_requote spec other]
    rcases readKind registry other (.ofList (Unicode.trim piece)) kind with fault | kind
    · rfl
    · change ((readReverse _ kind _).mapError _).bind _ =
        Except.mapError _ (((readReverse _ kind _).mapError _).bind _)
      rcases readReverse (.ofList (Unicode.trim piece)) kind
        (trimmedPieces ',' (Unicode.trim piece))[2]? with fault | reverse <;> rfl

end Requote

private theorem read_eq_mapError (text : String) :
    read registry known text =
      ((pieces ';' text.toList).mapM (readCriterion registry known "")).mapError (.requote text) :=
  mapM_mapError (readCriterion_requote text "") _

/-- A text of two specifications is read as the first and then the second. A fault is that of the
first specification with one, quoting the whole text. -/
theorem read_joined (s t : String) :
    read registry known (s ++ ";" ++ t) =
      (do return (← read registry known s) ++ (← read registry known t)).mapError
        (.requote (s ++ ";" ++ t)) := by
  have hpieces : pieces ';' (s ++ ";" ++ t).toList =
      pieces ';' s.toList ++ pieces ';' t.toList := by
    rw [String.toList_append, String.toList_append, List.append_assoc]
    exact pieces_append_delimiter s.toList t.toList
  rw [read_eq_mapError, read_eq_mapError s, read_eq_mapError t, hpieces, List.mapM_append]
  rcases (pieces ';' s.toList).mapM (readCriterion registry known "") with fault | front
  · exact congrArg Except.error (SortFault.requote_requote _ s fault).symm
  rcases (pieces ';' t.toList).mapM (readCriterion registry known "") with fault | back
  · exact congrArg Except.error (SortFault.requote_requote _ t fault).symm
  · rfl

private theorem ofText_pieces {text : String} {spec : SortSpec}
    (h : ofText registry text = .ok spec) :
    List.Forall₂ (fun piece criterion => ofText registry (.ofList piece) = .ok [criterion])
      ((text.toList.splitOn ';').filter (· ≠ [])) spec := by
  rw [← pieces_eq_filter_splitOn]
  refine forall₂_imp_of_mem (fun piece hpiece criterion hderives => ?_) (ofText_eq_ok_iff.mp h)
  obtain ⟨hne, hmem⟩ := mem_pieces hpiece
  rw [ofText_eq_ok_iff, String.toList_ofList, pieces_of_not_mem hmem hne]
  exact .cons hderives .nil

/-- Specifications compose. A text of two with a semicolon between them is read if and only if both
are, and then as the criteria of the first followed by those of the second. Otherwise it fails as
the first does, or as the second if the first does not. So a text that is read has one criterion for
each of its pieces, in order. -/
theorem ofText_joined (registry : Registry) (s t : String) :
    (∀ spec, ofText registry (s ++ ";" ++ t) = .ok spec ↔ ∃ front back,
      ofText registry s = .ok front ∧ ofText registry t = .ok back ∧ spec = front ++ back) ∧
    (∀ fault, ofText registry s = .error fault →
      ∃ whole, ofText registry (s ++ ";" ++ t) = .error whole ∧ whole.kind = fault.kind) ∧
    (∀ front fault, ofText registry s = .ok front → ofText registry t = .error fault →
      ∃ whole, ofText registry (s ++ ";" ++ t) = .error whole ∧ whole.kind = fault.kind) ∧
    ∀ text spec, ofText registry text = .ok spec →
      List.Forall₂ (fun piece criterion => ofText registry (.ofList piece) = .ok [criterion])
        ((text.toList.splitOn ';').filter (· ≠ [])) spec := by
  have hjoined : ofText registry (s ++ ";" ++ t) =
      (do return (← ofText registry s) ++ (← ofText registry t)).mapError
        (.requote (s ++ ";" ++ t)) := read_joined s t
  refine ⟨fun spec => ?_, fun fault hs => ?_, fun front fault hs ht => ?_,
    fun text spec h => ofText_pieces h⟩
  · rw [hjoined, mapError_eq_ok_iff]
    simp only [bind_eq_ok_iff, pure, Except.pure, Except.ok.injEq]
    constructor
    · rintro ⟨front, hs, back, ht, rfl⟩
      exact ⟨front, back, hs, ht, rfl⟩
    · rintro ⟨front, back, hs, ht, rfl⟩
      exact ⟨front, hs, back, ht, rfl⟩
  · rw [hjoined, hs]
    exact ⟨fault.requote _, rfl, SortFault.kind_requote _ fault⟩
  · rw [hjoined, hs, ht]
    exact ⟨fault.requote _, rfl, SortFault.kind_requote _ fault⟩

theorem ofText_joined_price :
    ofText .builtin ("price,INT;" ++ ";" ++ ";title") =
      .ok [⟨"price", .typed .int, false⟩, ⟨"title", .score, false⟩] ∧
    (∃ whole, ofText .builtin ("price,a.b" ++ ";" ++ "title,Xyz") = .error whole ∧
      whole.kind = .comparatorConstruction) ∧
    ∃ whole, ofText .builtin ("price" ++ ";" ++ " ;price,a.b") = .error whole ∧
      whole.kind = .invalidSortSpec := by
  refine ⟨((ofText_joined .builtin "price,INT;" ";title").1 _).mpr
    ⟨[⟨"price", .typed .int, false⟩], [⟨"title", .score, false⟩], ?_, ?_, rfl⟩, ?_, ?_⟩
  · decide +kernel
  · decide +kernel
  · exact (ofText_joined .builtin "price,a.b" "title,Xyz").2.1
      (.construction (.unregistered "a.b")) (by decide +kernel)
  · exact (ofText_joined .builtin "price" " ;price,a.b").2.2.1 [⟨"price", .score, false⟩]
      (.malformed " ;price,a.b" .emptyCriterion) (by decide +kernel) (by decide +kernel)

end SortSpec

end PagedSearch
