import PagedSearch.Proofs.Query.Grammar
import PagedSearch.Proofs.Text.Split

/-! # Texts in parentheses -/

namespace PagedSearch.Query

variable {scope : QueryScope} {reading : Reading} {text rest : List Char} {query : Query}

structure EndsClause (stop : Char) : Prop where
  word : isBareChar stop = false
  boost : isBoostChar stop = false
  unboosted : stop ≠ '^'

private theorem endsClause_close : EndsClause ')' := ⟨by decide, by decide, by decide⟩

private theorem trimStart_append_cons {c : Char} {tail : List Char}
    (h : Unicode.trimStart text = c :: tail) (more : List Char) :
    Unicode.trimStart (text ++ more) = c :: (tail ++ more) := by
  rw [Unicode.trimStart_append (by simp [h]), h, List.cons_append]

theorem splitPrefix_of_unsigned (hplus : text.head? ≠ some '+') (hminus : text.head? ≠ some '-') :
    splitPrefix text =
      if text.takeWhile isBareChar = ['N', 'O', 'T'] then
        (.prohibited, Unicode.trimStart (text.dropWhile isBareChar))
      else
        (.optional, text) := by
  unfold splitPrefix
  split
  · exact absurd rfl hplus
  · exact absurd rfl hminus
  · rfl

private theorem splitPrefix_append_stop {stop : Char} (hstop : isBareChar stop = false)
    (hfilled : (splitPrefix text).2 ≠ []) (more : List Char) :
    splitPrefix (text ++ stop :: more) =
      ((splitPrefix text).1, (splitPrefix text).2 ++ stop :: more) := by
  cases text with
  | nil => exact absurd rfl hfilled
  | cons c tail =>
    by_cases hplus : c = '+'
    · subst hplus
      rfl
    by_cases hminus : c = '-'
    · subst hminus
      rfl
    have hunsigned (rest : List Char) := @splitPrefix_of_unsigned (c :: rest)
      (by simpa using hplus) (by simpa using hminus)
    rw [hunsigned] at hfilled ⊢
    rw [List.cons_append, hunsigned, ← List.cons_append, takeWhile_append_stop hstop]
    by_cases hnot : (c :: tail).takeWhile isBareChar = ['N', 'O', 'T']
    · simp only [if_pos hnot] at hfilled ⊢
      rw [dropWhile_append_stop hstop, Unicode.trimStart_append hfilled]
    · simp only [if_neg hnot]

private theorem splitPhrase_append {phrase : String} (h : splitPhrase text = .ok (phrase, rest))
    (more : List Char) : splitPhrase (text ++ more) = .ok (phrase, rest ++ more) := by
  unfold splitPhrase at h ⊢
  split at h
  · rename_i quote tail heq
    obtain ⟨rfl, rfl⟩ := Prod.mk.inj (Except.ok.inj h)
    -- the phrase ends within the text, so nothing behind it matters
    have hends : ¬ (text.takeWhile (· ≠ '"')).length = text.length := by
      intro hlen
      have := congrArg List.length (List.takeWhile_append_dropWhile (p := (· ≠ '"')) (l := text))
      simp only [heq, List.length_append, List.length_cons] at this
      omega
    rw [List.takeWhile_append, if_neg hends, List.dropWhile_append, heq]
    rfl
  · cases h

private theorem applyBoost_append_stop {boosted : Query} {stop : Char} (hstop : EndsClause stop)
    (h : applyBoost query text = .ok (boosted, rest)) (more : List Char) :
    applyBoost query (text ++ stop :: more) = .ok (boosted, rest ++ stop :: more) := by
  unfold applyBoost at h ⊢
  split at h
  · rename_i tail
    simp only [List.cons_append, takeWhile_append_stop hstop.boost,
      dropWhile_append_stop hstop.boost]
    dsimp only at h
    split at h
    · rename_i b hb
      cases h
      rfl
    · cases h
  · rename_i hplain
    cases h
    cases text with
    | nil =>
      split
      · rename_i heq
        exact absurd (List.cons.inj heq).1 hstop.unboosted
      · rfl
    | cons c tail =>
      split
      · rename_i heq
        exact absurd (List.cons.inj heq).1 (fun hc => hplain tail (by rw [hc]))
      · rfl

def Reading.isInner : Reading → Bool
  | .clauses grouped .. => grouped
  | .clause _ | .primary _ => true

private theorem Reads.ne_nil_of_primary (h : Reads scope (.primary query) text rest) :
    text ≠ [] := by
  cases h <;> simp

/-- A character that ends clauses changes nothing about the stretch of text before it. -/
theorem Reads.append_stop {stop : Char} (hstop : EndsClause stop)
    (h : Reads scope reading text rest) (inner : reading.isInner = true) (more : List Char) :
    Reads scope reading (text ++ stop :: more) (rest ++ stop :: more) := by
  have htake (text : List Char) := takeWhile_append_stop hstop.word text more
  have hdrop (text : List Char) := dropWhile_append_stop hstop.word text more
  induction h with
  | finish => cases inner
  | close closed complete => exact .close (trimStart_append_cons closed _) complete
  | connective opens inside word follows others ih =>
    have hword := (congrArg Connective.ofWord? (htake _)).trans word
    refine .connective (trimStart_append_cons opens _) inside hword follows ?_
    rw [hdrop]
    exact ih inner
  | next opens inside word first others ihFirst ihOthers =>
    refine .next (trimStart_append_cons opens _) inside ?_ (ihFirst rfl) (ihOthers inner)
    rwa [← List.cons_append, htake]
  | @boosted _ _ _ text _ _ primary boost ih =>
    have hsplit := splitPrefix_append_stop hstop.word primary.ne_nil_of_primary more
    rw [← congrArg Prod.fst hsplit]
    refine .boosted ?_ (applyBoost_append_stop hstop boost more)
    rw [hsplit]
    exact ih rfl
  | group inner ih => exact .group (ih rfl)
  | phrase quoted terms => exact .phrase (splitPhrase_append quoted _) terms
  | word bare unqualified terms =>
    rw [List.cons_append, ← hdrop]
    exact .word bare (by rwa [htake]) (by rwa [htake])
  | fieldWord bare qualified wordy terms =>
    rw [List.cons_append, ← hdrop]
    exact .fieldWord bare (by rwa [htake]) wordy terms
  | fieldPhrase bare qualified opens quoted terms =>
    rw [List.cons_append]
    refine .fieldPhrase bare (by rwa [htake]) ?_ (splitPhrase_append quoted _) terms
    rw [hdrop, opens, List.cons_append]
  | fieldGroup bare qualified opens inner ih =>
    rw [List.cons_append]
    refine .fieldGroup bare (by rwa [htake]) ?_ (ih rfl)
    rw [hdrop, opens, List.cons_append]

theorem Reads.enclose {before : List (ClauseRole × Query)} {pending : Option Connective}
    (h : Reads scope (.clauses false before pending query) text rest) (more : List Char) :
    Reads scope (.clauses true before pending query) (text ++ ')' :: more) more := by
  have htake (text : List Char) := takeWhile_append_stop endsClause_close.word text more
  have hdrop (text : List Char) := dropWhile_append_stop endsClause_close.word text more
  generalize hr : Reading.clauses false before pending query = reading at h
  induction h generalizing before pending with
  | @finish _ _ _ _ text blank complete =>
    cases hr
    have hclose : Unicode.trimStart (text ++ ')' :: more) = ')' :: more := by
      rw [Unicode.trimStart_append_space (Unicode.trimStart_eq_nil_iff.mp blank),
        Unicode.trimStart_cons (by decide)]
    exact .close hclose complete
  | connective opens inside word follows others ih =>
    cases hr
    have hword := (congrArg Connective.ofWord? (htake _)).trans word
    refine .connective (trimStart_append_cons opens _) inside hword follows ?_
    rw [hdrop]
    exact ih rfl
  | next opens inside word first others ihFirst ihOthers =>
    cases hr
    have hword := (congrArg Connective.ofWord? (htake _)).trans word
    exact .next (trimStart_append_cons opens _) inside hword
      (first.append_stop endsClause_close rfl more) (ihOthers rfl)
  | close | boosted | group | phrase | word | fieldWord | fieldPhrase | fieldGroup => cases hr

/-- A text that is a query by itself is the same query in parentheses. -/
theorem reads_group_of_parse {text : String} (h : parse scope text = .ok query)
    (more : List Char) :
    Reads scope (.primary query) ('(' :: (text.toList ++ ')' :: more)) more :=
  .group ((parse_eq_ok_iff.mp h).enclose more)

end PagedSearch.Query
