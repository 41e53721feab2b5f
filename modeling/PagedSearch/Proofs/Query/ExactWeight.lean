import PagedSearch.Proofs.Index.Consistency
import PagedSearch.Proofs.Number.Magnitude
import PagedSearch.Proofs.Ranking.Rank

/-!
# Exact weights

The weight of a term is computed in single precision. The same formulas over the rationals divide by
positive numbers only, and the damped frequency grows with the frequency and shrinks with the length
of the field, for every hit of an index that additions lead to.
-/

namespace PagedSearch

namespace Bm25

section Formula

variable {α : Type} [OfNat α 1] [Add α] [Sub α] [Mul α] [Div α]

def odds (half count frequency : α) : α := 1 + (count - frequency + half) / (frequency + half)

def lengthNorm (share length scale : α) : α := 1 - share + share * (length / scale)

def damped (saturation norm frequency : α) : α :=
  frequency * (saturation + 1) / (frequency + saturation * norm)

end Formula

theorem weight_eq {w : Bm25} {frequency : Nat} (hdocuments : w.documentFrequency ≠ 0)
    (hcount : w.documentCount ≠ 0) (hfrequency : frequency ≠ 0) (length : Nat) :
    w.weight frequency length = w.boost *
      (odds half (.ofNat w.documentCount) (.ofNat w.documentFrequency)).logarithm *
      damped saturation (lengthNorm lengthShare (.ofNat length) w.lengthScale)
        (.ofNat frequency) := by
  rw [weight, rarity, if_neg (by simp [hdocuments, hcount]), density, if_neg hfrequency]
  rfl

structure Constants where
  saturation : ℚ
  share : ℚ
  half : ℚ
  saturation_pos : 0 < saturation
  share_pos : 0 < share
  share_lt_one : share < 1
  half_pos : 0 < half

private theorem value_saturation : saturation.value = 10066330 / 2 ^ 23 := by
  have hextent : saturation.extent = .finite 10066330 (-23) := rfl
  have hsign : saturation.negative = false := by decide
  norm_num [Binary.value, hextent, hsign]

private theorem value_lengthShare : lengthShare.value = 3 / 4 := by
  have hextent : lengthShare.extent = .finite 12582912 (-24) := rfl
  have hsign : lengthShare.negative = false := by decide
  norm_num [Binary.value, hextent, hsign]

private theorem value_half : half.value = 1 / 2 := by
  have hextent : half.extent = .finite 8388608 (-24) := rfl
  have hsign : half.negative = false := by decide
  norm_num [Binary.value, hextent, hsign]

namespace Constants

def stored : Constants where
  saturation := Bm25.saturation.value
  share := lengthShare.value
  half := Bm25.half.value
  saturation_pos := by norm_num [value_saturation]
  share_pos := by norm_num [value_lengthShare]
  share_lt_one := by norm_num [value_lengthShare]
  half_pos := by norm_num [value_half]

def decimal : Constants where
  saturation := 12 / 10
  share := 75 / 100
  half := 5 / 10
  saturation_pos := by norm_num
  share_pos := by norm_num
  share_lt_one := by norm_num
  half_pos := by norm_num

variable (c : Constants)

def norm (average : ℚ) (length : Nat) : ℚ := lengthNorm c.share length average

def density (average : ℚ) (frequency length : Nat) : ℚ :=
  damped c.saturation (c.norm average length) frequency

private theorem one_lt_odds {count frequency : Nat} (h : frequency ≤ count) :
    1 < odds c.half count frequency := by
  have hhalf := c.half_pos
  have hrest : (0 : ℚ) ≤ count - frequency := sub_nonneg.mpr (Nat.cast_le.mpr h)
  exact lt_add_of_pos_right 1 (by positivity)

section Average

variable {average : ℚ} (haverage : 0 < average)

include haverage

private theorem norm_pos (length : Nat) : 0 < c.norm average length := by
  have hshare := c.share_pos
  have hrest : 0 < 1 - c.share := sub_pos.mpr c.share_lt_one
  unfold norm lengthNorm
  positivity

private theorem norm_strictMono : StrictMono (c.norm average) := by
  intro length longer hlt
  have hshare := c.share_pos
  unfold norm lengthNorm
  gcongr

private theorem denominator_pos (frequency length : Nat) :
    0 < frequency + c.saturation * c.norm average length := by
  have hsaturation := c.saturation_pos
  have hnorm := c.norm_pos haverage length
  positivity

private theorem density_pos {frequency : Nat} (hfrequency : 0 < frequency) (length : Nat) :
    0 < c.density average frequency length := by
  have hsaturation := c.saturation_pos
  have hdenominator := c.denominator_pos haverage frequency length
  unfold density damped
  positivity

private theorem density_lt (frequency length : Nat) :
    c.density average frequency length < c.saturation + 1 := by
  have hsaturation := c.saturation_pos
  have hnorm := c.norm_pos haverage length
  rw [density, damped, div_lt_iff₀ (c.denominator_pos haverage frequency length), mul_comm]
  have hpositive : 0 < c.saturation * c.norm average length := by positivity
  gcongr
  exact lt_add_of_pos_right _ hpositive

private theorem density_strictMono (length : Nat) :
    StrictMono fun frequency => c.density average frequency length := by
  intro frequency more hlt
  have hsaturation := c.saturation_pos
  have hnorm := c.norm_pos haverage length
  have hmore : (frequency : ℚ) < more := Nat.cast_lt.mpr hlt
  dsimp only [density, damped]
  rw [div_lt_div_iff₀ (c.denominator_pos haverage frequency length)
    (c.denominator_pos haverage more length)]
  -- the products of the frequencies cancel
  have hcross : (frequency : ℚ) * (c.saturation * c.norm average length) <
      more * (c.saturation * c.norm average length) := by gcongr
  calc (frequency : ℚ) * (c.saturation + 1) * (more + c.saturation * c.norm average length)
      = (frequency * more + frequency * (c.saturation * c.norm average length)) *
          (c.saturation + 1) := by ring
    _ < (frequency * more + more * (c.saturation * c.norm average length)) *
          (c.saturation + 1) := by gcongr
    _ = more * (c.saturation + 1) * (frequency + c.saturation * c.norm average length) := by ring

private theorem density_strictAnti {frequency : Nat} (hfrequency : 0 < frequency) :
    StrictAnti (c.density average frequency) := by
  intro length longer hlt
  have hsaturation := c.saturation_pos
  have hlonger := c.norm_strictMono haverage hlt
  have hdenominator := c.denominator_pos haverage frequency length
  unfold density damped
  gcongr

end Average

end Constants

end Bm25

private theorem Query.score_term_eq_some {t : FieldTerm} {boost score : Binary32} {doc : TermCounts}
    {stats : Statistics} (h : (Query.term t boost).score doc stats = some score) :
    doc.frequency t ≠ 0 ∧ score = Bm25.weight
      ⟨stats.documentFrequency t, stats.documentCount, stats.averageLength t.field, boost⟩
      (doc.frequency t) (doc.length t.field) := by
  rw [Query.score] at h
  split at h
  · cases h
  · rename_i hfrequency
    exact ⟨hfrequency, (Option.some.inj h).symm⟩

namespace Index

def exactAverage (index : Index) (name : String) : ℚ :=
  (index.total name).tokens / (index.total name).documents

variable {index : Index} {t : FieldTerm} {boost : Binary32} {hit : Hit}

/-- In every index that additions lead to, the statistics behind the score of a hit are positive and
in proportion. Over the rationals the formulas of the score divide by positive numbers only, the
logarithm is taken of a number above one, and the damped frequency stays between zero and its limit,
grows with the frequency of the term and shrinks with the length of the field. -/
theorem Reachable.exact_weight (h : index.Reachable) (hhit : hit ∈ index.hits (.term t boost)) :
    ∃ entry, index.entries[hit.id]? = some entry ∧
      let frequency := entry.counts.frequency t
      let length := entry.counts.length t.field
      let total := index.total t.field
      let average := index.exactAverage t.field
      let weights : Bm25 :=
        ⟨index.documentFrequency t, index.size, .ofNat total.tokens / .ofNat total.documents, boost⟩
      hit.score = boost *
          (Bm25.odds Bm25.half (.ofNat index.size) (.ofNat (index.documentFrequency t))).logarithm *
          Bm25.damped Bm25.saturation
            (Bm25.lengthNorm Bm25.lengthShare (.ofNat length) weights.lengthScale)
            (.ofNat frequency) ∧
      (1 ≤ index.documentFrequency t ∧ index.documentFrequency t ≤ index.size) ∧
      (1 ≤ frequency ∧ frequency ≤ length) ∧
      0 < total.documents ∧ 0 < average ∧
      ∀ c : Bm25.Constants,
        0 < index.documentFrequency t + c.half ∧
        0 < frequency + c.saturation * c.norm average length ∧
        1 < Bm25.odds c.half index.size (index.documentFrequency t) ∧
        0 < c.density average frequency length ∧
        c.density average frequency length < c.saturation + 1 ∧
        StrictMono (fun n => c.density average n length) ∧
        ∀ n, 1 ≤ n → StrictAnti (c.density average n) := by
  obtain ⟨entry, hentry, hscore⟩ := mem_hits.mp hhit
  obtain ⟨hfrequency, hweight⟩ := Query.score_term_eq_some hscore
  have hmem : entry ∈ index.entries := Array.mem_of_getElem? hentry
  have hconsistent := h.consistent
  have hcontained := hconsistent.documentFrequency_pos hmem hfrequency
  have hsize := hconsistent.documentFrequency_le_size t
  have hdocuments := hconsistent.total_documents_pos hmem hfrequency
  have htokens := hconsistent.total_tokens_pos hmem hfrequency
  have haverage : 0 < index.exactAverage t.field :=
    div_pos (Nat.cast_pos.mpr htokens) (Nat.cast_pos.mpr hdocuments)
  have hpositive : 1 ≤ entry.counts.frequency t := Nat.one_le_iff_ne_zero.mpr hfrequency
  refine ⟨entry, hentry, ?_, ⟨hcontained, hsize⟩,
    ⟨hpositive, hconsistent.frequency_le entry hmem t⟩, hdocuments, haverage, fun c => ?_⟩
  · rw [hweight, ← averageLength_eq_of_total hdocuments.ne']
    exact Bm25.weight_eq hcontained.ne' (hcontained.trans_le hsize).ne' hfrequency _
  · have hhalf := c.half_pos
    exact ⟨by positivity, c.denominator_pos haverage _ _, c.one_lt_odds hsize,
      c.density_pos haverage hpositive _, c.density_lt haverage _ _,
      c.density_strictMono haverage _, fun n hn => c.density_strictAnti haverage hn⟩

theorem Reachable.exact_weight_pens : ∃ hit ∈ pens.hits penQuery,
    ∃ entry, pens.entries[hit.id]? = some entry ∧
      ∀ c ∈ [Bm25.Constants.stored, .decimal],
        let density := c.density (pens.exactAverage "name") (entry.counts.frequency ⟨"name", "pen"⟩)
          (entry.counts.length "name")
        0 < density ∧ density < c.saturation + 1 := by
  have hreachable : pens.Reachable := reachable_ofDocuments .standard _
  have hhits : pens.hits penQuery ≠ [] := by
    intro hnone
    have hids := ids_pens
    rw [hnone] at hids
    cases hids
  obtain ⟨hit, hhit⟩ := List.exists_mem_of_ne_nil _ hhits
  obtain ⟨entry, hentry, -, -, -, -, -, hexact⟩ := hreachable.exact_weight hhit
  refine ⟨hit, hhit, entry, hentry, fun c _ => ?_⟩
  obtain ⟨-, -, -, hlow, hhigh, -, -⟩ := hexact c
  exact ⟨hlow, hhigh⟩

end Index

end PagedSearch
