import PagedSearch.Proofs.Query.Balance
import PagedSearch.Proofs.Query.Phrase

/-!
# Primaries

A primary is what a clause says without its sign: a word, a phrase or a group, with its field and
its boost. If a primary is a query by itself, then the reader takes all of it for one clause.
-/

namespace PagedSearch.Query

variable {scope : QueryScope} {text rest : List Char} {query : Query}

private theorem Balanced.head_ne_close {c : Char} (h : Balanced (c :: rest)) : c ≠ ')' := by
  cases h with
  | plain hplain => exact fun hc => hplain (by simp [hc])
  | quoted | group => decide

private theorem Balanced.append_close_inj {inner other rest' : List Char} (h : Balanced inner)
    (hother : Balanced other) (heq : inner ++ ')' :: rest = other ++ ')' :: rest') :
    inner = other ∧ rest = rest' := by
  induction h generalizing other rest rest' with
  | nil =>
    cases other with
    | nil => exact ⟨rfl, (List.cons.inj heq).2⟩
    | cons c other => exact absurd (List.cons.inj heq).1.symm hother.head_ne_close
  | @plain c inner hplain _ ih =>
    cases hother with
    | nil => exact absurd (List.cons.inj heq).1 (fun hc => hplain (by simp [hc]))
    | plain hplain' hothers =>
      obtain ⟨rfl, htail⟩ := List.cons.inj heq
      obtain ⟨rfl, hrest⟩ := ih hothers htail
      exact ⟨rfl, hrest⟩
    | quoted | group => exact absurd (List.cons.inj heq).1 (fun hc => hplain (by simp [hc]))
  | @quoted phrase inner unquoted _ ih =>
    cases hother with
    | nil => simp at heq
    | plain hplain => exact absurd (List.cons.inj heq).1.symm (fun hc => hplain (by simp [hc]))
    | @quoted phrase' other unquoted' hothers =>
      simp only [List.cons_append, List.append_assoc] at heq
      have htail := (List.cons.inj heq).2
      obtain ⟨rfl, hbehind⟩ := append_stop_inj unquoted unquoted' htail
      obtain ⟨rfl, hrest⟩ := ih hothers hbehind
      exact ⟨rfl, hrest⟩
    | group => simp at heq
  | @group first inner _ _ _ ihFirst ih =>
    cases hother with
    | nil => simp at heq
    | plain hplain => exact absurd (List.cons.inj heq).1.symm (fun hc => hplain (by simp [hc]))
    | quoted => simp at heq
    | @group first' other _ hfirst hothers =>
      simp only [List.cons_append, List.append_assoc] at heq
      have htail := (List.cons.inj heq).2
      obtain ⟨rfl, hbehind⟩ := ihFirst hfirst htail
      obtain ⟨rfl, hrest⟩ := ih hothers hbehind
      exact ⟨rfl, hrest⟩

def operatorWords : List (List Char) := [['A', 'N', 'D'], ['O', 'R'], ['N', 'O', 'T']]

/-- A word, a phrase or a group, the latter two with or without a field. -/
inductive IsOperand : List Char → Prop
  | word {word : List Char} (filled : word ≠ []) (bare : ∀ c ∈ word, isBareChar c = true)
      (unsigned : ∀ c ∈ word.head?, c ≠ '+' ∧ c ≠ '-') (plain : word ∉ operatorWords) :
      IsOperand word
  | phrase {phrase : List Char} (unquoted : '"' ∉ phrase) : IsOperand ('"' :: (phrase ++ ['"']))
  | fieldPhrase {name : String} {phrase : List Char} (field : IsFieldName name)
      (unquoted : '"' ∉ phrase) : IsOperand (name.toList ++ ':' :: '"' :: (phrase ++ ['"']))
  | group {inner : List Char} (balanced : Balanced inner) : IsOperand ('(' :: (inner ++ [')']))
  | fieldGroup {name : String} {inner : List Char} (field : IsFieldName name)
      (balanced : Balanced inner) : IsOperand (name.toList ++ ':' :: '(' :: (inner ++ [')']))

inductive IsBoost : List Char → Prop
  | none : IsBoost []
  | number {number : List Char} (digits : ∀ c ∈ number, isBoostChar c = true) :
      IsBoost ('^' :: number)

inductive IsPrimary : List Char → Prop
  | boosted {operand boost : List Char} (isOperand : IsOperand operand) (isBoost : IsBoost boost) :
      IsPrimary (operand ++ boost)

structure StartsPrimary (text : List Char) : Prop where
  filled : text ≠ []
  start : ∀ c ∈ text.head?, Unicode.isSpace c = false ∧ c ∉ [')', '+', '-']
  plain : text.takeWhile isBareChar ∉ operatorWords

namespace StartsPrimary

theorem exists_cons (h : StartsPrimary text) :
    ∃ c tail, text = c :: tail ∧ Unicode.isSpace c = false ∧ c ≠ ')' := by
  obtain ⟨c, tail, rfl⟩ := List.exists_cons_of_ne_nil h.filled
  obtain ⟨hspace, hmark⟩ := h.start c rfl
  exact ⟨c, tail, rfl, hspace, fun hc => hmark (by simp [hc])⟩

theorem trimStart (h : StartsPrimary text) : Unicode.trimStart text = text := by
  obtain ⟨c, tail, rfl, hspace, -⟩ := h.exists_cons
  exact Unicode.trimStart_cons hspace tail

theorem ofWord? (h : StartsPrimary text) :
    Connective.ofWord? (text.takeWhile isBareChar) = none := by
  have hplain := h.plain
  simp only [operatorWords, List.mem_cons, List.not_mem_nil, or_false, not_or] at hplain
  rw [Connective.ofWord?, if_neg hplain.1, if_neg hplain.2.1]

theorem splitPrefix (h : StartsPrimary text) : splitPrefix text = (.optional, text) := by
  have hunsigned (sign : Char) (hsign : sign ∈ ['+', '-']) : text.head? ≠ some sign := by
    intro hhead
    exact (h.start sign hhead).2 (List.mem_cons_of_mem ')' hsign)
  have hnot : text.takeWhile isBareChar ≠ ['N', 'O', 'T'] := by
    intro hword
    exact h.plain (by simp [hword, operatorWords])
  rw [splitPrefix_of_unsigned (hunsigned '+' (by simp)) (hunsigned '-' (by simp)), if_neg hnot]

end StartsPrimary

private theorem startsPrimary_of_mark {c : Char} (hbare : isBareChar c = false)
    (hspace : Unicode.isSpace c = false) (hmark : c ∉ [')', '+', '-']) (rest : List Char) :
    StartsPrimary (c :: rest) where
  filled := List.cons_ne_nil c rest
  start := by
    rintro d ⟨⟩
    exact ⟨hspace, hmark⟩
  plain := by
    rw [List.takeWhile_cons_of_neg (by simp [hbare])]
    decide

private theorem IsFieldName.startsPrimary {name : String} (h : IsFieldName name) {stop : Char}
    (hstop : isBareChar stop = false) (rest : List Char) :
    StartsPrimary (name.toList ++ ':' :: stop :: rest) where
  filled := by simp
  start := by
    obtain ⟨c, tail, hcons⟩ := h.exists_cons
    have hc : c ∈ name.toList := by simp [hcons]
    have hplain := h.plain c hc
    have hunsigned := h.unsigned
    rw [hcons] at hunsigned ⊢
    rintro d ⟨⟩
    refine ⟨h.spaceless c hc, ?_⟩
    simp_all
  plain := by
    rw [h.takeWhile_word hstop]
    intro hword
    have hcolon : ∀ word ∈ operatorWords, ':' ∉ word := by decide
    exact hcolon _ hword (by simp)

private theorem IsOperand.startsPrimary (h : IsOperand text) {more : List Char}
    (hmore : Stops isBareChar more) : StartsPrimary (text ++ more) := by
  cases h with
  | word filled bare unsigned plain =>
    refine ⟨by simp [filled], ?_, ?_⟩
    · obtain ⟨c, tail, rfl⟩ := List.exists_cons_of_ne_nil filled
      have hc := bare c List.mem_cons_self
      have hsign := unsigned c rfl
      rintro d ⟨⟩
      refine ⟨isSpace_of_isBareChar hc, ?_⟩
      have hclose : c ≠ ')' := by
        rintro rfl
        revert hc
        decide
      simp [hclose, hsign]
    · rwa [takeWhile_append_of_stops bare hmore]
  | phrase unquoted => exact startsPrimary_of_mark (by decide) (by decide) (by decide) _
  | group balanced => exact startsPrimary_of_mark (by decide) (by decide) (by decide) _
  | fieldPhrase field unquoted =>
    simp only [List.append_assoc, List.cons_append]
    exact field.startsPrimary (by decide) _
  | fieldGroup field balanced =>
    simp only [List.append_assoc, List.cons_append]
    exact field.startsPrimary (by decide) _

private theorem IsBoost.stops (h : IsBoost text) : Stops isBareChar text := by
  cases h with
  | none => exact .nil
  | number => exact .cons (by decide) _

theorem IsPrimary.startsPrimary (h : IsPrimary text) {more : List Char}
    (hmore : Stops isBareChar more) : StartsPrimary (text ++ more) := by
  obtain ⟨isOperand, isBoost⟩ := h
  rw [List.append_assoc]
  refine isOperand.startsPrimary ?_
  cases isBoost with
  | none => exact hmore
  | number => exact .cons (by decide) _

private theorem Reads.cases_of_bare {c : Char} {tail : List Char} (hc : isBareChar c = true)
    (h : Reads scope (.primary query) (c :: tail) rest) :
    rest = tail.dropWhile isBareChar ∧
        (∀ field, splitField? (c :: tail.takeWhile isBareChar) ≠ some (field, [])) ∨
      (∃ quotation phrase, tail.dropWhile isBareChar = '"' :: quotation ∧
        splitPhrase quotation = .ok (phrase, rest)) ∨
      ∃ field group, tail.dropWhile isBareChar = '(' :: group ∧
        Reads { scope with fields := [.ofList field] } (.clauses true [] none query) group
          rest := by
  obtain ⟨hgroup, hquote⟩ := ne_of_isBareChar hc
  cases h with
  | group => exact absurd rfl hgroup
  | phrase => exact absurd rfl hquote
  | word _ unqualified => exact .inl ⟨rfl, by simp [unqualified]⟩
  | fieldWord _ qualified wordy => exact .inl ⟨rfl, by simp [qualified, wordy]⟩
  | fieldPhrase _ _ opens quoted => exact .inr (.inl ⟨_, _, opens, quoted⟩)
  | fieldGroup _ _ opens inner => exact .inr (.inr ⟨_, _, opens, inner⟩)

private theorem Reads.rest_of_balanced {inner : List Char} (hbalanced : Balanced inner)
    {after : List Char}
    (h : Reads scope (.clauses true [] none query) (inner ++ ')' :: after) rest) :
    rest = after := by
  obtain ⟨front, hfront, hspan, -⟩ := h.spans
  exact (hbalanced.append_close_inj hspan hfront).2.symm

private theorem rest_of_splitPhrase {phrase : List Char} (hunquoted : '"' ∉ phrase)
    {after : List Char} {read : String}
    (h : splitPhrase (phrase ++ '"' :: after) = .ok (read, rest)) :
    rest = after := by
  have hquoted := @splitPhrase_quoted (.ofList phrase) (by simpa using hunquoted) after
  rw [String.toList_ofList, h] at hquoted
  exact (Prod.mk.inj (Except.ok.inj hquoted)).2

private theorem IsOperand.rest_eq (h : IsOperand text) {boost : List Char} (hboost : IsBoost boost)
    (hread : Reads scope (.primary query) (text ++ boost) rest) : rest = boost := by
  cases h with
  | word filled bare _ _ =>
    have hdrop := dropWhile_append_of_stops bare hboost.stops
    obtain ⟨c, tail, rfl⟩ := List.exists_cons_of_ne_nil filled
    have hc := bare c List.mem_cons_self
    rw [List.cons_append, List.dropWhile_cons_of_pos hc] at hdrop
    rw [List.cons_append] at hread
    have hcases := Reads.cases_of_bare hc hread
    rw [hdrop] at hcases
    rcases hcases with ⟨hrest, -⟩ | ⟨quotation, -, hopen, -⟩ | ⟨-, group, hopen, -⟩
    · exact hrest
    · cases hboost <;> simp at hopen
    · cases hboost <;> simp at hopen
  | phrase unquoted =>
    rw [List.cons_append, List.append_assoc] at hread
    cases hread with
    | phrase quoted => exact rest_of_splitPhrase unquoted quoted
    | word hbare | fieldWord hbare | fieldPhrase hbare | fieldGroup hbare =>
      exact absurd hbare (by decide)
  | group balanced =>
    rw [List.cons_append, List.append_assoc] at hread
    cases hread with
    | group inner => exact Reads.rest_of_balanced balanced inner
    | word hbare | fieldWord hbare | fieldPhrase hbare | fieldGroup hbare =>
      exact absurd hbare (by decide)
  | @fieldPhrase name phrase field unquoted =>
    have hstop : isBareChar '"' = false := by decide
    obtain ⟨c, tail, hcons, hc, hqualified, hdrop⟩ :=
      field.exists_word hstop (phrase ++ ['"'] ++ boost)
    simp only [List.append_assoc, List.cons_append] at hread hcons hdrop
    rw [hcons] at hread
    have hcases := Reads.cases_of_bare hc hread
    rw [hdrop] at hcases
    rcases hcases with ⟨-, hword⟩ | ⟨quotation, read, hopen, hquoted⟩ | ⟨-, group, hopen, -⟩
    · exact absurd hqualified (hword _)
    · obtain ⟨-, rfl⟩ := List.cons.inj hopen
      exact rest_of_splitPhrase unquoted hquoted
    · simp at hopen
  | @fieldGroup name inner field balanced =>
    have hstop : isBareChar '(' = false := by decide
    obtain ⟨c, tail, hcons, hc, hqualified, hdrop⟩ :=
      field.exists_word hstop (inner ++ [')'] ++ boost)
    simp only [List.append_assoc, List.cons_append] at hread hcons hdrop
    rw [hcons] at hread
    have hcases := Reads.cases_of_bare hc hread
    rw [hdrop] at hcases
    rcases hcases with ⟨-, hword⟩ | ⟨quotation, -, hopen, -⟩ | ⟨narrowed, group, hopen, hinner⟩
    · exact absurd hqualified (hword _)
    · simp at hopen
    · obtain ⟨-, rfl⟩ := List.cons.inj hopen
      exact Reads.rest_of_balanced balanced hinner

private theorem IsBoost.rest_eq_nil (h : IsBoost text) {boosted : Query}
    (hboost : applyBoost query text = .ok (boosted, rest)) : rest = [] := by
  cases h with
  | none =>
    cases hboost
    rfl
  | number digits =>
    rw [applyBoost] at hboost
    split at hboost
    · cases hboost
      exact List.dropWhile_eq_nil_iff.mpr digits
    · cases hboost

private theorem Reads.eq_of_clauses_nil {clause : ClauseRole × Query}
    (h : Reads scope (.clauses false [clause] none query) [] rest) (hrole : clause.1 = .optional) :
    query = clause.2 := by
  obtain ⟨role, alone⟩ := clause
  obtain rfl : role = .optional := hrole
  cases h with
  | finish blank complete =>
    cases complete
    rfl
  | connective opens => cases opens
  | next opens => cases opens

/-- A primary that is a query by itself is one primary to the reader, with its boost. -/
theorem IsPrimary.reads {text : String} (h : IsPrimary text.toList)
    (hparse : parse scope text = .ok query) :
    ∃ plain after, Reads scope (.primary plain) text.toList after ∧
      applyBoost plain after = .ok (query, []) := by
  have hstart : StartsPrimary text.toList := by simpa using h.startsPrimary .nil
  have hreads := parse_eq_ok_iff.mp hparse
  generalize text.toList = chars at h hstart hreads
  cases hreads with
  | finish blank complete => cases complete
  | connective _ _ _ follows => exact absurd rfl follows
  | @next _ _ _ _ _ _ c tail after _ clause opens _ _ first others =>
    have hopens := opens.symm.trans hstart.trimStart
    rw [hopens] at first
    cases first with
    | @boosted _ plain boosted _ before _ inner boost =>
      rw [hstart.splitPrefix] at inner others
      cases h with
      | @boosted operand ending isOperand isBoost =>
        -- the one clause that is read takes all of the text
        obtain rfl := isOperand.rest_eq isBoost inner
        obtain rfl := isBoost.rest_eq_nil boost
        obtain rfl : query = boosted := others.eq_of_clauses_nil rfl
        exact ⟨plain, _, inner, boost⟩

end PagedSearch.Query
