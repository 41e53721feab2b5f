import PagedSearch.Proofs.Json.Writing
import PagedSearch.Proofs.Related
import PagedSearch.Result.Basic

/-! # JSON texts of result documents -/

namespace PagedSearch

open Json

private theorem natural?_ofInt {n : Nat} (h : n < JsonLiteral.wordBound) :
    (JsonTree.number (.ofInt n)).natural? = some n := by
  have hnumber : (JsonTree.number (.ofInt n)).number? = some (.integer n) :=
    JsonLiteral.number?_ofInt (by omega) (by exact_mod_cast h)
  rw [JsonTree.natural?, hnumber]
  simp

private theorem mapM_trees {α β : Type} {toJson : α → Json} {ofTree? : JsonTree → Option β}
    {values : List α} {read : List β}
    (h : List.Forall₂ (fun a b => ofTree? (toJson a).tree = some b) values read) :
    (trees (values.map toJson)).mapM ofTree? = some read := by
  rw [trees_eq_map]
  apply mapM_eq_some_of_forall₂
  rwa [List.forall₂_map_left_iff, List.forall₂_map_left_iff]

namespace ResultField

private theorem record?_toJson (field : ResultField) : field.toJson.tree.record? names =
    some [some (.text field.name), if field.isSnippet then some (.bool true) else none,
      some (.text field.content)] := by
  obtain ⟨name, isSnippet, content⟩ := field
  cases isSnippet <;>
    simp [toJson, tree, memberTrees, JsonTree.record?, names, List.lookup_cons]

private theorem ofTree?_toJson (field : ResultField) : ofTree? field.toJson.tree = some field := by
  obtain ⟨name, isSnippet, content⟩ := field
  rw [ofTree?, record?_toJson]
  cases isSnippet <;> rfl

private theorem toJson_of_not_isSnippet {field : ResultField} (h : field.isSnippet = false) :
    field.toJson = .object [("name", .text field.name), ("content", .text field.content)] := by
  rw [toJson, h]
  rfl

private theorem mapM_ofTree? (fields : List ResultField) :
    (trees (fields.map toJson)).mapM ofTree? = some fields :=
  mapM_trees (List.forall₂_same.mpr fun field _ => ofTree?_toJson field)

end ResultField

namespace ResultHit

structure SameButScore (hit other : ResultHit) : Prop where
  rank : hit.rank = other.rank
  fields : hit.fields = other.fields

private theorem record?_toJson (hit : ResultHit) : hit.toJson.tree.record? names =
    some [some (.number (.ofInt hit.rank)), some (hit.score.jsonTree .single),
      some (.list (trees (hit.fields.map ResultField.toJson)))] := by
  simp [toJson, tree, memberTrees, JsonTree.record?, names, List.lookup_cons]

private theorem exists_ofTree? {hit : ResultHit} (hrank : hit.rank < JsonLiteral.wordBound)
    (hscore : hit.score.isFinite = true) :
    ∃ read, ofTree? hit.toJson.tree = some read ∧ hit.SameButScore read := by
  obtain ⟨x, hx⟩ := Binary.exists_number?_jsonLiteral hscore
  have hnumber : (hit.score.jsonTree .single).number? = some (.real x) := by
    rw [Binary.jsonTree, if_pos hscore]
    exact hx
  refine ⟨⟨hit.rank, x.convert, hit.fields⟩, ?_, rfl, rfl⟩
  rw [ofTree?, record?_toJson]
  simp [natural?_ofInt hrank, hnumber, JsonTree.list?, ResultField.mapM_ofTree?, JsonNumber.toBinary]

end ResultHit

namespace ResultDocument

structure FitsWords (document : ResultDocument) : Prop where
  start : document.start < JsonLiteral.wordBound
  size : document.size < JsonLiteral.wordBound
  total : document.total < JsonLiteral.wordBound
  ranks : ∀ hit ∈ document.hits, hit.rank < JsonLiteral.wordBound

/-- The documents agree in everything but the scores of their hits. -/
structure SameButScores (document other : ResultDocument) : Prop where
  query : document.query = other.query
  indexName : document.indexName = other.indexName
  sortFields : document.sortFields = other.sortFields
  start : document.start = other.start
  size : document.size = other.size
  total : document.total = other.total
  hits : List.Forall₂ ResultHit.SameButScore document.hits other.hits

variable {document : ResultDocument}

private theorem record?_toJson (document : ResultDocument) : document.toJson.tree.record? names =
    some [some (.text document.query), some (.text document.indexName),
      some (.text document.sortFields), some (.number (.ofInt document.start)),
      some (.number (.ofInt document.size)), some (.number (.ofInt document.total)),
      some (.list (trees (document.hits.map ResultHit.toJson)))] := by
  simp [toJson, tree, memberTrees, JsonTree.record?, names, List.lookup_cons]

private theorem exists_mapM_ofTree? {hits : List ResultHit}
    (hranks : ∀ hit ∈ hits, hit.rank < JsonLiteral.wordBound)
    (hscores : ∀ hit ∈ hits, hit.score.isFinite = true) :
    ∃ read, (trees (hits.map ResultHit.toJson)).mapM ResultHit.ofTree? = some read ∧
      List.Forall₂ ResultHit.SameButScore hits read := by
  obtain ⟨read, hread⟩ := exists_forall₂ fun hit hhit =>
    ResultHit.exists_ofTree? (hranks hit hhit) (hscores hit hhit)
  exact ⟨read, mapM_trees (hread.imp fun _ _ h => h.1), hread.imp fun _ _ h => h.2⟩

/-- Except for the values of scores, a result document is read back as it was from its JSON text.
That holds for the flags of fields although only those that are set are written. -/
theorem readJson?_jsonText (hwords : document.FitsWords)
    (hscores : ∀ hit ∈ document.hits, hit.score.isFinite = true) :
    (∀ pretty, ∃ read, readJson? (document.jsonText pretty).toList = some read ∧
      document.SameButScores read) ∧
    ∀ hit ∈ document.hits, ∀ field ∈ hit.fields, field.isSnippet = false →
      field.toJson = .object [("name", .text field.name), ("content", .text field.content)] := by
  refine ⟨fun pretty => ?_, fun _ _ _ _ hflag => ResultField.toJson_of_not_isSnippet hflag⟩
  obtain ⟨hits, hread, hsame⟩ := exists_mapM_ofTree? hwords.ranks hscores
  have htree : JsonTree.read? (document.jsonText pretty).toList = some document.toJson.tree := by
    cases pretty
    · simp [jsonText, Json.compact, read?_write]
    · simp [jsonText, Json.pretty, read?_write]
  refine ⟨{ document with hits }, ?_, rfl, rfl, rfl, rfl, rfl, rfl, hsame⟩
  rw [readJson?, htree, Option.bind_some, ofTree?, record?_toJson]
  simp [natural?_ofInt hwords.start, natural?_ofInt hwords.size, natural?_ofInt hwords.total,
    JsonTree.text?, JsonTree.list?, hread]

def clefPage : ResultDocument where
  query := "\x00\x1f\x7f\"\\/"
  indexName := "𝄞 \t\r\n"
  sortFields := ""
  start := 1
  size := 10
  total := 18446744073709551615
  hits := [⟨1, ⟨0x3F000000⟩, [⟨"title", true, "<b>𝄞</b>"⟩, ⟨"plain", false, "\\u0041"⟩]⟩,
    ⟨2, ⟨0xFF7FFFFF⟩, []⟩]

theorem readJson?_jsonText_clefPage :
    clefPage.FitsWords ∧ (∀ hit ∈ clefPage.hits, hit.score.isFinite = true) ∧
    ∀ pretty, ∃ read, readJson? (clefPage.jsonText pretty).toList = some read ∧
      clefPage.SameButScores read := by
  have hwords : clefPage.FitsWords := ⟨by decide, by decide, by decide, by decide⟩
  have hscores : ∀ hit ∈ clefPage.hits, hit.score.isFinite = true := by decide
  exact ⟨hwords, hscores, (readJson?_jsonText hwords hscores).1⟩

end ResultDocument

end PagedSearch
