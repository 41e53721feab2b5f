import PagedSearch.Text.Analysis
import PagedSearch.Excerpt.Cut
import PagedSearch.Markup.Escape
import PagedSearch.Result.Basic
import PagedSearch.Excerpt.Fragment
import PagedSearch.Ranking.Page
import PagedSearch.Request.Basic

/-! # From pages to result documents -/

namespace PagedSearch

namespace Request

def insertTags (request : Request) (text : List Char) : List Char :=
  replaceText TagPair.marks.after.toList request.tags.after.toList
    (replaceText TagPair.marks.before.toList request.tags.before.toList text)

def snippet (request : Request) (analyzer : Analyzer) (query : Query) (field value : String) :
    List Char :=
  let marked := highlight .marks request.lengthLimit (analyzer.analyze value) value query field
    request.snippets ellipsis
  request.insertTags (escapeText (repairText ellipsis marked))

def showField (request : Request) (analyzer : Analyzer) (query : Query)
    (field : StoredField) : ResultField :=
  let value := field.value.display
  let snippet :=
    if request.snippets = 0 then [] else request.snippet analyzer query field.name value
  if snippet.isEmpty then
    ⟨field.name, false, .ofList (plainContent request.lengthLimit value.toList)⟩
  else
    ⟨field.name, true, .ofList snippet⟩

/-- The rank of the hit at a place on a page that begins at a start rank. Ranks are words, and zero
follows the largest one. -/
def rankAt (start place : Nat) : Nat := (start + place) % (countLimit + 1)

def resultDocument (request : Request) (analyzer : Analyzer) (query : Query)
    (page : Page) : ResultDocument where
  query := .ofList (formEncode request.query.toList)
  indexName := request.indexName
  sortFields := request.sort
  start := request.start
  size := request.size
  total := page.total
  hits := page.hits.mapIdx fun place hit =>
    ⟨rankAt page.start place, hit.score, hit.fields.map (request.showField analyzer query)⟩

end Request

end PagedSearch
