import Mathlib.Data.Finset.Card
import PagedSearch.Proofs.Excerpt.Glyph

/-!
# Fragments as slices

Whatever tokens a text is cut at, its fragments lie end to end, and each token that has a place lies
in one of them. What a fragment shows is made of slices of the text, with tags around the tokens in
it that are terms.
-/

namespace PagedSearch

/-- The part of a text between two byte offsets, if both fall between its characters. -/
def slice? (text : List Char) (start stop : Nat) : Option (List Char) :=
  if stop < start then
    none
  else do
    let (_, rest) ← splitBytes? start text
    let (part, _) ← splitBytes? (stop - start) rest
    return part

/-- The tokens that stand on slices of a text, each behind the one that was kept before it. -/
def keptTokens (text : List Char) (offset : Nat) : List Token → List Token
  | [] => []
  | t :: rest =>
    if offset ≤ t.start ∧ (slice? text t.start t.stop).isSome then
      t :: keptTokens text t.stop rest
    else
      keptTokens text offset rest

/-- The slices of a text from a position up to an offset, with tags around the tokens that are
terms. -/
def tagWithin? (tags : TagPair) (terms : List String) (text : List Char) (position stop : Nat) :
    List Token → Option (List Char)
  | [] => slice? text position stop
  | t :: rest =>
    if terms.contains t.text then do
      let gap ← slice? text position t.start
      let surface ← slice? text t.start t.stop
      let shown ← tagWithin? tags terms text t.stop stop rest
      return gap ++ (tags.around surface ++ shown)
    else
      tagWithin? tags terms text position stop rest

/-- Fragments lie end to end between two offsets. -/
def Tiles : Nat → List Fragment → Nat → Prop
  | start, [], stop => start = stop
  | start, f :: rest, stop => f.start = start ∧ f.start ≤ f.stop ∧ Tiles f.stop rest stop

/-- A fragment has tokens in its range and is its slice of the text with tags around the terms among
them. Without the tags it is the slice. Its score is the number of distinct terms, rounded to single
precision, so up to the first power of two that has more bits it is that number. -/
structure Fragment.Holds (tags : TagPair) (terms : List String) (text : List Char) (f : Fragment)
    (held : List Token) : Prop where
  filled : held ≠ []
  within : ∀ t ∈ held, f.start ≤ t.start ∧ t.start ≤ t.stop ∧ t.stop ≤ f.stop
  shown : tagWithin? tags terms text f.start f.stop held = some f.text
  plain : ∃ part, slice? text f.start f.stop = some part ∧
    tagWithin? ⟨"", ""⟩ terms text f.start f.stop held = some part
  scored : f.score = .ofNat ((held.map Token.text).filter (· ∈ terms)).toFinset.card
  rated : ((held.map Token.text).filter (· ∈ terms)).toFinset.card ≤ 2 ^ 24 →
    f.rating = ((held.map Token.text).filter (· ∈ terms)).toFinset.card

open BinaryFormat (isProper_single)

variable {tags : TagPair} {terms : List String} {text earlier : List Char} {start stop : Nat}

section Slice

theorem eq_nil_of_byteSize {u : List Char} (h : byteSize u = 0) : u = [] := by
  cases u with
  | nil => rfl
  | cons c rest =>
    rw [byteSize] at h
    have := c.utf8Size_pos
    omega

theorem exists_append_of_byteSize_le {u v u' v' : List Char} (heq : u ++ v = u' ++ v')
    (hle : byteSize u ≤ byteSize u') : ∃ w, u' = u ++ w ∧ v = w ++ v' := by
  rcases List.append_eq_append_iff.mp heq with ⟨w, hu, hv⟩ | ⟨w, hu, hv⟩
  · exact ⟨w, hu, hv⟩
  · rw [hu, byteSize_append] at hle
    obtain rfl : w = [] := eq_nil_of_byteSize (by omega)
    exact ⟨[], by simpa using hu.symm, by simpa using hv.symm⟩

theorem slice?_eq_some_iff {part : List Char} :
    slice? text start stop = some part ↔
      ∃ before after, before ++ (part ++ after) = text ∧ byteSize before = start ∧
        stop = start + byteSize part := by
  rw [slice?]
  constructor
  · intro h
    split at h
    · cases h
    · obtain ⟨⟨before, rest⟩, hbefore, h⟩ := Option.bind_eq_some_iff.mp h
      obtain ⟨⟨inner, after⟩, hinner, h⟩ := Option.bind_eq_some_iff.mp h
      obtain rfl : inner = part := Option.some.inj h
      obtain ⟨rfl, hstart⟩ := splitBytes?_eq_some_iff.mp hbefore
      obtain ⟨rfl, hsize⟩ := splitBytes?_eq_some_iff.mp hinner
      exact ⟨before, after, rfl, hstart, by omega⟩
  · rintro ⟨before, after, rfl, hstart, hstop⟩
    have hbefore : splitBytes? start (before ++ (part ++ after)) = some (before, part ++ after) :=
      splitBytes?_eq_some_iff.mpr ⟨rfl, hstart⟩
    have hpart : splitBytes? (stop - start) (part ++ after) = some (part, after) :=
      splitBytes?_eq_some_iff.mpr ⟨rfl, by omega⟩
    rw [if_neg (by omega), hbefore]
    simp [hpart]

theorem slice?_append {front part : List Char} (after : List Char)
    (htext : front ++ (part ++ after) = text) :
    slice? text (byteSize front) (byteSize (front ++ part)) = some part :=
  slice?_eq_some_iff.mpr ⟨front, after, htext, rfl, byteSize_append front part⟩

private theorem isSome_slice?_iff :
    (slice? text start stop).isSome = true ↔
      ∃ before part after, before ++ (part ++ after) = text ∧ byteSize before = start ∧
        stop = start + byteSize part := by
  rw [Option.isSome_iff_exists]
  constructor
  · rintro ⟨part, hpart⟩
    obtain ⟨before, after, h⟩ := slice?_eq_some_iff.mp hpart
    exact ⟨before, part, after, h⟩
  · rintro ⟨before, part, after, h⟩
    exact ⟨part, slice?_eq_some_iff.mpr ⟨before, after, h⟩⟩

private theorem isSome_slice?_between {stop' start' : Nat} (hle : start ≤ stop')
    (hfirst : (slice? text start stop).isSome = true)
    (hsecond : (slice? text start' stop').isSome = true) :
    (slice? text start stop').isSome = true := by
  obtain ⟨before, part, after, htext, hstart, -⟩ := isSome_slice?_iff.mp hfirst
  obtain ⟨before', part', after', htext', hstart', hstop'⟩ := isSome_slice?_iff.mp hsecond
  have hboth : before ++ (part ++ after) = before' ++ part' ++ after' := by
    rw [htext, ← htext', List.append_assoc]
  obtain ⟨inner, hinner, -⟩ := exists_append_of_byteSize_le hboth
    (by rw [byteSize_append]; omega)
  refine isSome_slice?_iff.mpr ⟨before, inner, after', ?_, hstart, ?_⟩
  · rw [← List.append_assoc, ← hinner, List.append_assoc, htext']
  · have hsize := congrArg byteSize hinner
    rw [byteSize_append, byteSize_append] at hsize
    omega

end Slice

section Kept

private theorem isSome_slice?_of_mem_keptTokens {offset : Nat} {tokens : List Token} {t : Token}
    (ht : t ∈ keptTokens text offset tokens) : (slice? text t.start t.stop).isSome = true := by
  induction tokens generalizing offset with
  | nil => cases ht
  | cons u rest ih =>
    rw [keptTokens] at ht
    split at ht
    · rename_i hkept
      rcases List.mem_cons.mp ht with rfl | ht
      · exact hkept.2
      · exact ih ht
    · exact ih ht

private theorem Token.isSome_place?_iff {t : Token} {rest : List Char} :
    (t.place? (byteSize earlier) rest).isSome = true ↔
      byteSize earlier ≤ t.start ∧ (slice? (earlier ++ rest) t.start t.stop).isSome = true := by
  rw [Option.isSome_iff_exists, isSome_slice?_iff]
  constructor
  · rintro ⟨⟨placed, after⟩, hplace⟩
    obtain ⟨-, rfl, hstart, hstop⟩ := place?_eq_some_iff.mp hplace
    refine ⟨by omega, earlier ++ placed.gap, placed.surface, after, ?_, ?_, hstop⟩
    · rw [List.append_assoc]
    · rw [byteSize_append, hstart]
  · rintro ⟨hle, before, surface, after, htext, hstart, hstop⟩
    obtain ⟨gap, rfl, hrest⟩ := exists_append_of_byteSize_le htext.symm (by omega)
    refine ⟨(⟨gap, surface, t.text⟩, after), place?_eq_some_iff.mpr ⟨rfl, hrest.symm, ?_, hstop⟩⟩
    rw [← hstart, byteSize_append]

inductive StandAt : List Char → List PlacedToken → List Token → Prop where
  | nil {front} : StandAt front [] []
  | cons {front placed others t rest}
      (word : placed.text = t.text)
      (starts : t.start = byteSize (front ++ placed.gap))
      (stops : t.stop = byteSize (front ++ placed.chars))
      (behind : StandAt (front ++ placed.chars) others rest) :
      StandAt front (placed :: others) (t :: rest)

theorem standAt_placeTokens (earlier rest : List Char) (tokens : List Token) :
    StandAt earlier (placeTokens (byteSize earlier) rest tokens).1
      (keptTokens (earlier ++ rest) (byteSize earlier) tokens) := by
  induction tokens generalizing earlier rest with
  | nil => exact .nil
  | cons t tokens ih =>
    have hkept := @Token.isSome_place?_iff earlier t rest
    rcases hplace : t.place? (byteSize earlier) rest with - | ⟨placed, after⟩
    · rw [hplace] at hkept
      rw [placeTokens, hplace, keptTokens, if_neg (fun h => by simpa using hkept.mpr h)]
      exact ih earlier rest
    · rw [hplace] at hkept
      obtain ⟨hword, -, hstart, -⟩ := Token.place?_eq_some_iff.mp hplace
      obtain ⟨hstop, hwhole⟩ := Token.stop_of_place? hplace
      rw [placeTokens, hplace, keptTokens, if_pos (hkept.mp rfl)]
      refine .cons hword (by rw [hstart, byteSize_append]) hstop ?_
      rw [hstop, hwhole]
      exact ih (earlier ++ placed.chars) after

namespace StandAt

variable {placed others : List PlacedToken} {held : List Token}

private theorem map_text (h : StandAt earlier placed held) :
    placed.map PlacedToken.text = held.map Token.text := by
  induction h with
  | nil => rfl
  | cons word _ _ _ ih => rw [List.map_cons, List.map_cons, word, ih]

theorem length_eq (h : StandAt earlier placed held) : placed.length = held.length := by
  simpa using congrArg List.length h.map_text

private theorem split (h : StandAt earlier (placed ++ others) held) :
    ∃ first second, held = first ++ second ∧ StandAt earlier placed first ∧
      StandAt (earlier ++ placed.flatMap PlacedToken.chars) others second := by
  induction placed generalizing earlier held with
  | nil => exact ⟨[], held, rfl, .nil, by simpa using h⟩
  | cons p placed ih =>
    cases h with
    | @cons _ _ _ t rest word starts stops behind =>
      obtain ⟨first, second, rfl, hfirst, hsecond⟩ := ih behind
      rw [List.append_assoc, ← List.flatMap_cons] at hsecond
      exact ⟨t :: first, second, rfl, .cons word starts stops hfirst, hsecond⟩

private theorem within (h : StandAt earlier placed held) :
    ∀ t ∈ held, byteSize earlier ≤ t.start ∧ t.start ≤ t.stop ∧
      t.stop ≤ byteSize (earlier ++ placed.flatMap PlacedToken.chars) := by
  induction h with
  | nil => exact nofun
  | cons word starts stops behind ih =>
    simp only [List.flatMap_cons, PlacedToken.chars, byteSize_append, List.forall_mem_cons]
      at starts stops ih ⊢
    refine ⟨by omega, fun t ht => ?_⟩
    have := ih t ht
    omega

private theorem tagWithin?_held {front passed tail after : List Char}
    (h : StandAt earlier placed held) (hfront : earlier = front ++ passed)
    (htext : earlier ++ (placed.flatMap PlacedToken.chars ++ (tail ++ after)) = text) :
    tagWithin? tags terms text (byteSize front)
        (byteSize (earlier ++ (placed.flatMap PlacedToken.chars ++ tail))) held =
      some (passed ++ (placed.flatMap (·.tagged tags terms) ++ tail)) := by
  induction h generalizing front passed with
  | nil =>
    subst hfront
    simp only [List.flatMap_nil, List.nil_append, List.append_assoc] at htext ⊢
    exact slice?_append after (by rwa [List.append_assoc])
  | @cons earlier p others t rest word starts stops behind ih =>
    have hwhole : earlier ++ p.chars ++ (others.flatMap PlacedToken.chars ++ (tail ++ after)) =
        text := by simpa using htext
    have hsplit : earlier ++ ((p :: others).flatMap PlacedToken.chars ++ tail) =
        earlier ++ p.chars ++ (others.flatMap PlacedToken.chars ++ tail) := by simp
    rw [hsplit, tagWithin?, ← word]
    by_cases hterm : p.text ∈ terms
    -- a term is tagged, and what was passed over before it belongs to its gap
    · have hgap : slice? text (byteSize front) t.start = some (passed ++ p.gap) := by
        rw [starts, hfront, List.append_assoc]
        refine slice?_append (p.surface ++ (others.flatMap PlacedToken.chars ++ (tail ++ after))) ?_
        simp [← hwhole, hfront, PlacedToken.chars]
      have hsurface : slice? text t.start t.stop = some p.surface := by
        rw [starts, stops, PlacedToken.chars, ← List.append_assoc]
        refine slice?_append (others.flatMap PlacedToken.chars ++ (tail ++ after)) ?_
        simp [← hwhole, PlacedToken.chars]
      have hbehind := ih (List.append_nil _).symm hwhole
      rw [← stops] at hbehind
      rw [if_pos (by simpa using hterm), hgap, hsurface, hbehind]
      simp [PlacedToken.tagged, hterm]
    -- any other token is passed over
    · rw [if_neg (by simpa using hterm), ih (by rw [hfront, List.append_assoc]) hwhole]
      simp [PlacedToken.tagged, PlacedToken.chars, hterm]

end StandAt

end Kept

section Fragment

private theorem nodup_eraseDups (texts : List String) : texts.eraseDups.Nodup := by
  induction hn : texts.length using Nat.strongRecOn generalizing texts with
  | ind n ih =>
    subst hn
    cases texts with
    | nil => simp
    | cons text texts =>
      rw [List.eraseDups_cons, List.nodup_cons, List.mem_eraseDups]
      refine ⟨by simp, ih _ ?_ _ rfl⟩
      exact Nat.lt_succ_of_le (List.length_filter_le _ _)

private theorem length_termsAmong (terms : List String) (placed : List PlacedToken) :
    (termsAmong terms placed).length =
      ((placed.map PlacedToken.text).filter (· ∈ terms)).toFinset.card := by
  have hfilter : (placed.map PlacedToken.text).filter terms.contains =
      (placed.map PlacedToken.text).filter (· ∈ terms) :=
    List.filter_congr fun text _ => by simp
  have hset : ((placed.map PlacedToken.text).filter (· ∈ terms)).toFinset =
      ((placed.map PlacedToken.text).filter (· ∈ terms)).eraseDups.toFinset := by
    ext text
    simp [List.mem_eraseDups]
  rw [termsAmong, hfilter, hset, List.toFinset_card_of_nodup (nodup_eraseDups _)]

private theorem tagged_untagged (terms : List String) (placed : PlacedToken) :
    placed.tagged ⟨"", ""⟩ terms = placed.chars := by
  simp [PlacedToken.tagged, PlacedToken.chars, TagPair.around]

variable {placed : List PlacedToken} {held : List Token} {tail after : List Char}

/-- A fragment of placed tokens, with some of the text behind them. -/
theorem StandAt.holds (h : StandAt earlier placed held) (hfilled : placed ≠ [])
    (htext : earlier ++ (placed.flatMap PlacedToken.chars ++ (tail ++ after)) = text) :
    Fragment.Holds tags terms text
      { text := placed.flatMap (·.tagged tags terms) ++ tail
        start := byteSize earlier
        stop := byteSize (earlier ++ (placed.flatMap PlacedToken.chars ++ tail))
        score := .ofNat (termsAmong terms placed).length } held where
  filled := by
    intro hnil
    have hlength := h.length_eq
    rw [hnil] at hlength
    exact hfilled (List.length_eq_zero_iff.mp hlength)
  within := by
    intro t ht
    have hwithin := h.within t ht
    simp only [byteSize_append] at hwithin ⊢
    omega
  shown := h.tagWithin?_held (List.append_nil earlier).symm htext
  plain := by
    have hplain := @StandAt.tagWithin?_held ⟨"", ""⟩ terms text _ _ _ _ [] tail after h
      (List.append_nil earlier).symm htext
    simp only [tagged_untagged, List.nil_append] at hplain
    exact ⟨_, slice?_append after (by rwa [List.append_assoc]), hplain⟩
  scored := by rw [length_termsAmong, h.map_text]
  rated := by
    intro hfew
    rw [Fragment.rating, length_termsAmong, h.map_text,
      Binary.toInt?_ofNat isProper_single (by decide) hfew]
    rfl

private theorem tiles_fragmentsFrom (tags : TagPair) (terms : List String) (tail : List Char)
    (offset : Nat) {parts : List (List PlacedToken)} (hparts : parts ≠ []) :
    Tiles offset (fragmentsFrom tags terms tail offset parts)
      (offset + byteSize (parts.flatten.flatMap PlacedToken.chars ++ tail)) := by
  induction parts generalizing offset with
  | nil => exact absurd rfl hparts
  | cons part rest ih =>
    refine ⟨rfl, Nat.le_add_right _ _, ?_⟩
    cases rest with
    | nil => simp [fragmentsFrom, Tiles]
    | cons next rest =>
      have hrest := ih (offset + byteSize (part.flatMap PlacedToken.chars ++ []))
        (List.cons_ne_nil next rest)
      simpa [byteSize_append, Nat.add_assoc] using hrest

private theorem fragmentsFrom_cons_cons (part next : List PlacedToken)
    (rest : List (List PlacedToken)) (offset : Nat) :
    fragmentsFrom tags terms tail offset (part :: next :: rest) =
      { text := part.flatMap (·.tagged tags terms) ++ []
        start := offset
        stop := offset + byteSize (part.flatMap PlacedToken.chars ++ [])
        score := .ofNat (termsAmong terms part).length } ::
      fragmentsFrom tags terms tail (offset + byteSize (part.flatMap PlacedToken.chars ++ []))
        (next :: rest) :=
  rfl

private theorem exists_held (tags : TagPair) (terms : List String) {parts : List (List PlacedToken)}
    (hparts : ∀ part ∈ parts, part ≠ []) (h : StandAt earlier parts.flatten held)
    (htext : earlier ++ (parts.flatten.flatMap PlacedToken.chars ++ tail) = text) :
    ∃ pairs : List (Fragment × List Token),
      pairs.map Prod.fst = fragmentsFrom tags terms tail (byteSize earlier) parts ∧
      (pairs.map Prod.snd).flatten = held ∧
      (∀ pair ∈ pairs, pair.1.Holds tags terms text pair.2) ∧
      ∀ pair ∈ pairs.dropLast, ∃ part ∈ parts, part.length = pair.2.length ∧
        slice? text pair.1.start pair.1.stop = some (part.flatMap PlacedToken.chars) := by
  induction parts generalizing earlier held with
  | nil =>
    cases h
    exact ⟨[], rfl, rfl, nofun, nofun⟩
  | cons part rest ih =>
    obtain ⟨hfilled, hrest⟩ := List.forall_mem_cons.mp hparts
    obtain ⟨first, second, rfl, hfirst, hsecond⟩ := h.split
    cases rest with
    | nil =>
      cases hsecond
      have hholds := @StandAt.holds tags terms text earlier part first tail [] hfirst hfilled
        (by simpa using htext)
      refine ⟨[(_, first)], ?_, by simp, List.forall_mem_singleton.mpr hholds, nofun⟩
      simp [fragmentsFrom, byteSize_append]
    | cons next rest =>
      have hwhole : earlier ++ part.flatMap PlacedToken.chars ++
          ((next :: rest).flatten.flatMap PlacedToken.chars ++ tail) = text := by
        simpa using htext
      have hbehind : earlier ++ (part.flatMap PlacedToken.chars ++
          ([] ++ ((next :: rest).flatten.flatMap PlacedToken.chars ++ tail))) = text := by
        simpa using htext
      have hholds := @StandAt.holds tags terms text earlier part first [] _ hfirst hfilled hbehind
      obtain ⟨pairs, hfragments, hheld, hall, hlengths⟩ := ih hrest hsecond hwhole
      have hpairs : pairs ≠ [] := by
        rintro rfl
        cases hfragments
      refine ⟨(_, first) :: pairs, ?_, by simp [hheld], List.forall_mem_cons.mpr ⟨hholds, hall⟩, ?_⟩
      · rw [List.map_cons, hfragments, fragmentsFrom_cons_cons]
        simp only [List.append_nil, byteSize_append]
      · rw [List.dropLast_cons_of_ne_nil hpairs]
        refine List.forall_mem_cons.mpr ⟨⟨part, List.mem_cons_self, hfirst.length_eq, ?_⟩, ?_⟩
        · simpa using slice?_append _ hbehind
        · intro pair hpair
          obtain ⟨other, hother, hlength⟩ := hlengths pair hpair
          exact ⟨other, List.mem_cons_of_mem part hother, hlength⟩

end Fragment

section Cut

variable {size : Nat} {current tokens part : List PlacedToken}

private theorem ne_nil_of_mem_cutTokens (h : part ∈ cutTokens size current tokens) : part ≠ [] := by
  induction tokens generalizing current with
  | nil =>
    rw [cutTokens] at h
    split at h
    · cases h
    · rename_i hcurrent
      rw [List.mem_singleton.mp h]
      simpa using hcurrent
  | cons t rest ih =>
    rw [cutTokens] at h
    split at h
    · rename_i hcut
      rcases List.mem_cons.mp h with rfl | h
      · simp only [Bool.and_eq_true, Bool.not_eq_true', List.isEmpty_eq_false_iff] at hcut
        exact hcut.1.2
      · exact ih h
    · exact ih h

private theorem length_of_mem_cutTokens (hsize : 0 < size)
    (hcurrent : 2 ≤ current.length → (current.flatMap PlacedToken.chars).length ≤ size)
    (h : part ∈ cutTokens size current tokens) (hmany : 2 ≤ part.length) :
    (part.flatMap PlacedToken.chars).length ≤ size := by
  induction tokens generalizing current with
  | nil =>
    rw [cutTokens] at h
    split at h
    · cases h
    · obtain rfl := List.mem_singleton.mp h
      exact hcurrent hmany
  | cons t rest ih =>
    rw [cutTokens] at h
    split at h
    · rcases List.mem_cons.mp h with rfl | h
      · exact hcurrent hmany
      · exact ih (by simp) h
    · rename_i hfits
      refine ih ?_ h
      intro hlength
      have hfilled : current ≠ [] := by
        rintro rfl
        simp at hlength
      simpa [hsize, hfilled] using hfits

end Cut

section Fragments

variable (tags : TagPair) (size : Nat) (tokens : List Token) (text : String) (terms : List String)

private theorem exists_parts :
    ∃ (parts : List (List PlacedToken)) (tail : List Char),
      fragments tags size tokens text terms = fragmentsFrom tags terms tail 0 parts ∧
      StandAt [] parts.flatten (keptTokens text.toList 0 tokens) ∧
      parts.flatten.flatMap PlacedToken.chars ++ tail = text.toList ∧
      ∀ part ∈ parts, part ≠ [] ∧
        (0 < size → 2 ≤ part.length → (part.flatMap PlacedToken.chars).length ≤ size) := by
  have hflatten := flatten_cutTokens size [] (placeTokens 0 text.toList tokens).1
  refine ⟨cutTokens size [] (placeTokens 0 text.toList tokens).1,
    (placeTokens 0 text.toList tokens).2, rfl, ?_, ?_, ?_⟩
  · rw [hflatten]
    exact standAt_placeTokens [] text.toList tokens
  · rw [hflatten]
    exact placeTokens_text 0 text.toList tokens
  · intro part hpart
    exact ⟨ne_nil_of_mem_cutTokens hpart,
      fun hsize hmany => length_of_mem_cutTokens hsize (by simp) hpart hmany⟩

/-- Every fragment comes with the tokens that it holds. -/
theorem exists_fragments_held :
    ∃ pairs : List (Fragment × List Token),
      pairs.map Prod.fst = fragments tags size tokens text terms ∧
      (pairs.map Prod.snd).flatten = keptTokens text.toList 0 tokens ∧
      (∀ pair ∈ pairs, pair.1.Holds tags terms text.toList pair.2) ∧
      (0 < size → ∀ pair ∈ pairs.dropLast, 2 ≤ pair.2.length →
        ∃ part, slice? text.toList pair.1.start pair.1.stop = some part ∧ part.length ≤ size) := by
  obtain ⟨parts, tail, hcut, hstand, htext, hparts⟩ := exists_parts tags size tokens text terms
  obtain ⟨pairs, hfragments, hheld, hall, hslices⟩ :=
    exists_held tags terms (fun part hpart => (hparts part hpart).1) hstand htext
  refine ⟨pairs, hfragments.trans hcut.symm, hheld, hall, ?_⟩
  intro hsize pair hpair hmany
  obtain ⟨part, hpart, hlength, hslice⟩ := hslices pair hpair
  rw [← hlength] at hmany
  exact ⟨_, hslice, (hparts part hpart).2 hsize hmany⟩

theorem fragments_eq_nil (hkept : keptTokens text.toList 0 tokens = []) :
    fragments tags size tokens text terms = [] := by
  obtain ⟨pairs, hpairs, hheld, hall, -⟩ := exists_fragments_held tags size tokens text terms
  have hnothing := List.flatten_eq_nil_iff.mp (hheld.trans hkept)
  rw [← hpairs, List.map_eq_nil_iff]
  refine List.eq_nil_iff_forall_not_mem.mpr fun pair hpair => ?_
  exact (hall pair hpair).filled (hnothing _ (List.mem_map_of_mem hpair))

theorem tiles_fragments (hkept : keptTokens text.toList 0 tokens ≠ []) :
    Tiles 0 (fragments tags size tokens text terms) (byteSize text.toList) := by
  obtain ⟨parts, tail, hcut, hstand, htext, -⟩ := exists_parts tags size tokens text terms
  have hparts : parts ≠ [] := by
    rintro rfl
    exact hkept (List.length_eq_zero_iff.mp hstand.length_eq.symm)
  have htiles := tiles_fragmentsFrom tags terms tail 0 hparts
  rwa [← hcut, htext, Nat.zero_add] at htiles

end Fragments

/-- The fragments of a text at any tokens. Without a token that is kept there are none. Otherwise
they lie end to end from the start of the text to its end, and each kept token belongs to one of
them, which shows it. From the start of a fragment to the end of a later token there is a slice, so
its length can be measured. A fragment of two tokens or more is no longer than the size, if that is
not zero and the fragment is not the last. -/
theorem fragments_tile (tags : TagPair) (size : Nat) (tokens : List Token) (text : String)
    (terms : List String) :
    let kept := keptTokens text.toList 0 tokens
    let cut := fragments tags size tokens text terms
    (kept = [] → cut = []) ∧
    (kept ≠ [] → Tiles 0 cut (byteSize text.toList)) ∧
    (∀ f ∈ cut, ∀ t ∈ kept, f.start ≤ t.stop →
      (slice? text.toList f.start t.stop).isSome = true) ∧
    ∃ pairs : List (Fragment × List Token),
      pairs.map Prod.fst = cut ∧
      (pairs.map Prod.snd).flatten = kept ∧
      (∀ pair ∈ pairs, pair.1.Holds tags terms text.toList pair.2) ∧
      (0 < size → ∀ pair ∈ pairs.dropLast, 2 ≤ pair.2.length →
        ∃ part, slice? text.toList pair.1.start pair.1.stop = some part ∧ part.length ≤ size) := by
  intro kept cut
  obtain ⟨pairs, hpairs, hheld, hall, hlengths⟩ :=
    exists_fragments_held tags size tokens text terms
  refine ⟨fragments_eq_nil tags size tokens text terms, tiles_fragments tags size tokens text terms,
    ?_, pairs, hpairs, hheld, hall, hlengths⟩
  · intro f hf t ht hle
    have hmem : f ∈ pairs.map Prod.fst := hpairs.symm ▸ hf
    obtain ⟨pair, hpair, rfl⟩ := List.mem_map.mp hmem
    obtain ⟨part, hslice, -⟩ := (hall pair hpair).plain
    exact isSome_slice?_between hle (by rw [hslice]; rfl) (isSome_slice?_of_mem_keptTokens ht)

def dryPens : List Token := [⟨"dry", 0, 0, 3⟩, ⟨"p", 1, 4, 6⟩, ⟨"pen", 2, 4, 8⟩]

theorem fragments_tile_pens :
    (keptTokens "dry pén".toList 0 dryPens).map Token.text = ["dry", "pen"] ∧
      Tiles 0 (fragments ⟨"[", "]"⟩ 3 dryPens "dry pén" ["pen"]) (byteSize "dry pén".toList) ∧
      fragments ⟨"[", "]"⟩ 3 dryPens "dry pén" ["pen"] =
        [⟨"dry".toList, 0, 3, .ofNat 0⟩, ⟨" [pén]".toList, 3, 8, .ofNat 1⟩] := by
  have hkept : (keptTokens "dry pén".toList 0 dryPens).map Token.text = ["dry", "pen"] := by
    simp [keptTokens, slice?, splitBytes?, dryPens, Char.utf8Size]
  have hsome : keptTokens "dry pén".toList 0 dryPens ≠ [] := by
    intro hnone
    rw [hnone] at hkept
    cases hkept
  refine ⟨hkept, (fragments_tile ⟨"[", "]"⟩ 3 dryPens "dry pén" ["pen"]).2.1 hsome, ?_⟩
  simp [fragments, placeTokens, Token.place?, splitBytes?, dryPens, Char.utf8Size, cutTokens,
    fragmentsFrom, PlacedToken.chars, PlacedToken.tagged, TagPair.around, byteSize, termsAmong,
    List.eraseDups_cons]

end PagedSearch
