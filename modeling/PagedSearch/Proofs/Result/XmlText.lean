import PagedSearch.Proofs.Markup.Tag
import PagedSearch.Proofs.Related

/-!
# Result documents read from XML

The tags of a document are read back from its XML text, so its text on one line gives away all that
it shows. On indented lines the tags are the same, and so are the texts of the fields, except that a
field without content is shown with a line break.
-/

namespace PagedSearch

open XmlEvent

/-- No content of a field opens a tag, as no escaped text does. -/
def ResultDocument.HasPlainContents (document : ResultDocument) : Prop :=
  ∀ hit ∈ document.hits, ∀ field ∈ hit.fields, '<' ∉ field.content.toList

instance (document : ResultDocument) : Decidable document.HasPlainContents :=
  inferInstanceAs (Decidable (∀ hit ∈ document.hits, ∀ field ∈ hit.fields,
    '<' ∉ field.content.toList))

private theorem read_flatMap {α β γ : Type} (read : List β → List γ) {write : α → List β}
    {shown : α → List γ} {items : List α}
    (h : ∀ item ∈ items, ∀ rest, read (write item ++ rest) = shown item ++ read rest)
    (rest : List β) : read (items.flatMap write ++ rest) = items.flatMap shown ++ read rest := by
  induction items with
  | nil => rfl
  | cons item items ih =>
    obtain ⟨hitem, hitems⟩ := List.forall_mem_cons.mp h
    rw [List.flatMap_cons, List.append_assoc, hitem, ih hitems, List.flatMap_cons,
      List.append_assoc]

namespace ResultField

variable (pretty : Bool) (field : ResultField) (rest : List XmlEvent)

def attributes : List (String × String) :=
  ("name", field.name) :: if field.isSnippet then [("snippet", "yes")] else []

def shownText : List Char :=
  if field.content = "" then lineBreak pretty 2 else field.content.toList

private theorem shownText_false : field.shownText false = field.content.toList := by
  by_cases hempty : field.content = "" <;> simp [shownText, lineBreak, hempty]

def tags : List PlacedTag :=
  [⟨lineBreak pretty 2, startTag "field" field.attributes⟩,
    ⟨field.shownText pretty, endTag "field"⟩]

private theorem tagsOf_toXml {field : ResultField} (h : '<' ∉ field.content.toList) :
    tagsOf (layOut pretty true 2 (field.toXml ++ rest)) =
      field.tags pretty ++ tagsOf (layOut pretty true 2 rest) := by
  have hstart : '>' ∉ startTag "field" field.attributes := by
    apply not_mem_startTag (by decide)
    cases hsnippet : field.isSnippet <;> simp [attributes, hsnippet]
  have hend : '>' ∉ endTag "field" := by decide
  -- only a content keeps the closing tag from being put on a line of its own
  by_cases hempty : field.content = ""
  · have hxml : field.toXml ++ rest =
        openTag "field" field.attributes :: closeTag "field" :: rest := by
      simp [toXml, attributes, hempty]
    rw [hxml, tagsOf_openTag _ _ _ _ hstart, tagsOf_closeTag _ _ _ _ hend, Bool.and_true, tags,
      shownText, if_pos hempty]
    rfl
  · have hxml : field.toXml ++ rest =
        openTag "field" field.attributes :: .content field.content :: closeTag "field" :: rest := by
      simp [toXml, attributes, hempty]
    rw [hxml, tagsOf_openTag _ _ _ _ hstart, tagsOf_content _ _ _ _ h hend, Bool.and_true, tags,
      shownText, if_neg hempty]
    rfl

private theorem tagsOf_flatMap_toXml {fields : List ResultField}
    (h : ∀ field ∈ fields, '<' ∉ field.content.toList) :
    tagsOf (layOut pretty true 2 (fields.flatMap toXml ++ rest)) =
      fields.flatMap (tags pretty) ++ tagsOf (layOut pretty true 2 rest) := by
  apply read_flatMap fun events => tagsOf (layOut pretty true 2 events)
  intro field hfield rest
  exact tagsOf_toXml pretty rest (h field hfield)

end ResultField

namespace ResultHit

variable (pretty : Bool) (hit : ResultHit) (rest : List XmlEvent)

def attributes : List (String × String) :=
  [("no", toString hit.rank), ("score", scoreText hit.score)]

def tags : List PlacedTag :=
  ⟨lineBreak pretty 1, startTag "hit" hit.attributes⟩ ::
    (hit.fields.flatMap (ResultField.tags pretty) ++ [⟨lineBreak pretty 1, endTag "hit"⟩])

private theorem tagsOf_toXml {hit : ResultHit}
    (h : ∀ field ∈ hit.fields, '<' ∉ field.content.toList) :
    tagsOf (layOut pretty true 1 (hit.toXml ++ rest)) =
      hit.tags pretty ++ tagsOf (layOut pretty true 1 rest) := by
  have hstart : '>' ∉ startTag "hit" hit.attributes := by
    apply not_mem_startTag (by decide)
    simp [attributes]
  have hxml : hit.toXml ++ rest = openTag "hit" hit.attributes ::
      (hit.fields.flatMap ResultField.toXml ++ closeTag "hit" :: rest) := by
    simp [toXml, attributes]
  rw [hxml, tagsOf_openTag _ _ _ _ hstart, ResultField.tagsOf_flatMap_toXml _ _ h,
    tagsOf_closeTag _ _ _ _ (by decide), Bool.and_true, tags, List.cons_append, List.append_assoc]
  rfl

private theorem tagsOf_flatMap_toXml {hits : List ResultHit}
    (h : ∀ hit ∈ hits, ∀ field ∈ hit.fields, '<' ∉ field.content.toList) :
    tagsOf (layOut pretty true 1 (hits.flatMap toXml ++ rest)) =
      hits.flatMap (tags pretty) ++ tagsOf (layOut pretty true 1 rest) := by
  apply read_flatMap fun events => tagsOf (layOut pretty true 1 events)
  intro hit hhit rest
  exact tagsOf_toXml pretty rest (h hit hhit)

end ResultHit

namespace ResultDocument

def tags (pretty : Bool) (document : ResultDocument) : List PlacedTag :=
  ⟨[], declarationTag⟩ :: ⟨lineBreak pretty 0, startTag "resultPage" document.attributes⟩ ::
    (document.hits.flatMap (ResultHit.tags pretty) ++
      [⟨lineBreak pretty 0, endTag "resultPage"⟩])

private theorem tagsOf_xmlText {document : ResultDocument} (h : document.HasPlainContents)
    (pretty : Bool) : tagsOf (document.xmlText pretty).toList = document.tags pretty := by
  have hstart : '>' ∉ startTag "resultPage" document.attributes := by
    apply not_mem_startTag (by decide)
    simp [attributes]
  have htext : (document.xmlText pretty).toList = layOut pretty false 0 document.toXml := by
    cases pretty <;> simp [xmlText, layOut]
  have hxml : document.toXml = declaration :: openTag "resultPage" document.attributes ::
      (document.hits.flatMap ResultHit.toXml ++ [closeTag "resultPage"]) := rfl
  rw [htext, hxml, tagsOf_declaration, tagsOf_openTag _ _ _ _ hstart,
    ResultHit.tagsOf_flatMap_toXml _ _ h, tagsOf_closeTag _ _ _ _ (by decide), Bool.and_true,
    Bool.and_false, layOut_nil, tagsOf_nil, tags]
  rfl

end ResultDocument

section OneLine

private theorem toString_injective : Function.Injective (toString : Nat → String) := by
  intro n m h
  have hread := congrArg (fun text : String => Nat.ofDigitChars 10 text.toList 0) h
  simpa only [Nat.toString_eq_repr, Nat.toList_repr,
    Nat.ofDigitChars_toDigits (by decide : 1 < 10) (by decide : 10 ≤ 10)] using hread

private theorem ResultField.tags_append_inj {field other : ResultField}
    {rest rest' : List PlacedTag} (h : field.tags false ++ rest = other.tags false ++ rest') :
    field = other ∧ rest = rest' := by
  have hkeys (field : ResultField) : ∀ pair ∈ field.attributes, '=' ∉ pair.1.toList := by
    cases hsnippet : field.isSnippet <;> simp [attributes, hsnippet]
  simp only [tags, List.cons_append, List.nil_append, List.cons.injEq, PlacedTag.mk.injEq, true_and,
    and_true, shownText_false] at h
  obtain ⟨hstart, hshown, hrest⟩ := h
  have hattributes := startTag_injective (hkeys field) (hkeys other) hstart
  rw [attributes, attributes, List.cons.injEq, Prod.mk.injEq] at hattributes
  have hsnippet : field.isSnippet = other.isSnippet := by
    cases hfield : field.isSnippet <;> cases hother : other.isSnippet <;>
      simp [hfield, hother] at hattributes <;> rfl
  refine ⟨?_, hrest⟩
  rw [ResultField.mk.injEq]
  exact ⟨hattributes.1.2, hsnippet, String.toList_inj.mp hshown⟩

structure ResultHit.ShownAlike (hit other : ResultHit) : Prop where
  rank : hit.rank = other.rank
  score : scoreText hit.score = scoreText other.score
  fields : hit.fields = other.fields

/-- Documents that agree in all that is shown of them. -/
structure ResultDocument.ShownAlike (document other : ResultDocument) : Prop where
  query : document.query = other.query
  indexName : document.indexName = other.indexName
  sortFields : document.sortFields = other.sortFields
  start : document.start = other.start
  size : document.size = other.size
  total : document.total = other.total
  hits : List.Forall₂ ResultHit.ShownAlike document.hits other.hits

private theorem ResultHit.tags_append_inj {hit other : ResultHit} {rest rest' : List PlacedTag}
    (h : hit.tags false ++ rest = other.tags false ++ rest') :
    hit.ShownAlike other ∧ rest = rest' := by
  simp only [tags, List.cons_append, List.append_assoc, List.nil_append, List.cons.injEq,
    PlacedTag.mk.injEq, true_and] at h
  obtain ⟨hstart, h⟩ := h
  have hattributes := startTag_injective (by simp [attributes]) (by simp [attributes]) hstart
  simp only [attributes, List.cons.injEq, Prod.mk.injEq, true_and, and_true] at hattributes
  -- the closing tag of a hit begins with a slash, so no field is read in its place
  have hend (field : ResultField) (rest rest' : List PlacedTag) :
      field.tags false ++ rest ≠ ⟨[], endTag "hit"⟩ :: rest' := by
    simp [ResultField.tags, startTag, endTag]
  obtain ⟨hfields, hrest⟩ := forall₂_of_flatMap_append_eq
    (fun _ _ _ _ => ResultField.tags_append_inj) hend hend h
  rw [List.forall₂_eq_eq_eq] at hfields
  exact ⟨⟨toString_injective hattributes.1, hattributes.2, hfields⟩, hrest⟩

private theorem ResultHit.ShownAlike.toXml_eq {hit other : ResultHit} (h : hit.ShownAlike other) :
    hit.toXml = other.toXml := by
  rw [ResultHit.toXml, ResultHit.toXml, h.rank, h.score, h.fields]

namespace ResultDocument

variable {document other : ResultDocument}

private theorem shownAlike_of_tags_eq (h : document.tags false = other.tags false) :
    document.ShownAlike other := by
  simp only [tags, List.cons.injEq, PlacedTag.mk.injEq, true_and] at h
  obtain ⟨hstart, h⟩ := h
  have hattributes := startTag_injective (by simp [attributes]) (by simp [attributes]) hstart
  simp only [attributes, List.cons.injEq, Prod.mk.injEq, true_and, and_true] at hattributes
  obtain ⟨hquery, hindex, hsort, hfirst, hsize, htotal⟩ := hattributes
  have hend (hit : ResultHit) (rest rest' : List PlacedTag) :
      hit.tags false ++ rest ≠ ⟨[], endTag "resultPage"⟩ :: rest' := by
    simp [ResultHit.tags, startTag, endTag]
  obtain ⟨hhits, -⟩ := forall₂_of_flatMap_append_eq
    (fun _ _ _ _ => ResultHit.tags_append_inj) hend hend h
  exact ⟨hquery, hindex, hsort, toString_injective hfirst, toString_injective hsize,
    toString_injective htotal, hhits⟩

private theorem ShownAlike.xmlText_eq (h : document.ShownAlike other) (pretty : Bool) :
    document.xmlText pretty = other.xmlText pretty := by
  have hhits : document.hits.flatMap ResultHit.toXml = other.hits.flatMap ResultHit.toXml :=
    flatMap_eq_of_forall₂ h.hits fun _ _ hhit => hhit.toXml_eq
  have hxml : document.toXml = other.toXml := by
    simp only [toXml, attributes, h.query, h.indexName, h.sortFields, h.start, h.size, h.total,
      hhits]
  rw [xmlText, xmlText, hxml]

/-- Two documents have one text on one line only if they agree in all that is shown: no name, no
query and no content is read as markup. -/
theorem xmlText_eq_iff (hdocument : document.HasPlainContents) (hother : other.HasPlainContents) :
    document.xmlText false = other.xmlText false ↔ document.ShownAlike other := by
  constructor
  · intro h
    apply shownAlike_of_tags_eq
    rw [← tagsOf_xmlText hdocument, ← tagsOf_xmlText hother, h]
  · intro h
    exact h.xmlText_eq false

def ofField (field : ResultField) : ResultDocument where
  query := "fox"
  indexName := "animals"
  sortFields := ""
  start := 1
  size := 10
  total := 1
  hits := [{ rank := 1, score := 1, fields := [field] }]

theorem xmlText_eq_iff_quoted :
    (ofField ⟨"f", true, ""⟩).HasPlainContents ∧
      (ofField ⟨"f\" snippet=\"yes", false, ""⟩).HasPlainContents ∧
      (ofField ⟨"f", true, ""⟩).xmlText false ≠
        (ofField ⟨"f\" snippet=\"yes", false, ""⟩).xmlText false := by
  have hdocument : (ofField ⟨"f", true, ""⟩).HasPlainContents := by decide
  have hother : (ofField ⟨"f\" snippet=\"yes", false, ""⟩).HasPlainContents := by decide
  refine ⟨hdocument, hother, fun h => ?_⟩
  have halike := (xmlText_eq_iff hdocument hother).mp h
  have hhit := (List.forall₂_cons.mp halike.hits).1
  exact absurd hhit.fields (by decide)

end ResultDocument

end OneLine

/-- The texts of the elements with a name that hold no other element. Whether the tag in front opens
such an element is kept from one tag to the next. -/
def elementTexts (name : String) (isOpened : Bool) : List PlacedTag → List (List Char)
  | [] => []
  | ⟨before, tag⟩ :: rest =>
    (if isOpened && tag == endTag name then [before] else []) ++
      elementTexts name (tagName tag == name.toList) rest

def fieldTexts (text : List Char) : List (List Char) := elementTexts "field" false (tagsOf text)

private theorem elementTexts_field (pretty : Bool) (field : ResultField) (rest : List PlacedTag) :
    elementTexts "field" false (field.tags pretty ++ rest) =
      field.shownText pretty :: elementTexts "field" false rest := by
  have hopened : (tagName (startTag "field" field.attributes) == "field".toList) = true := by
    rw [ResultField.attributes, tagName_startTag (by decide)]
    exact BEq.rfl
  have hclosed : (tagName (endTag "field") == "field".toList) = false := by decide
  simp only [ResultField.tags, List.cons_append, List.nil_append, elementTexts, hopened, hclosed,
    Bool.false_and, Bool.true_and, BEq.rfl, Bool.false_eq_true, if_true, if_false]

private theorem elementTexts_fields (pretty : Bool) (fields : List ResultField)
    (rest : List PlacedTag) :
    elementTexts "field" false (fields.flatMap (ResultField.tags pretty) ++ rest) =
      fields.map (ResultField.shownText pretty) ++ elementTexts "field" false rest := by
  rw [List.map_eq_flatMap]
  apply read_flatMap (elementTexts "field" false)
  intro field _ rest
  exact elementTexts_field pretty field rest

private theorem elementTexts_hit (pretty : Bool) (hit : ResultHit) (rest : List PlacedTag) :
    elementTexts "field" false (hit.tags pretty ++ rest) =
      hit.fields.map (ResultField.shownText pretty) ++ elementTexts "field" false rest := by
  have hopened : (tagName (startTag "hit" hit.attributes) == "field".toList) = false := by
    rw [ResultHit.attributes, tagName_startTag (by decide)]
    decide
  have hclosed : (tagName (endTag "hit") == "field".toList) = false := by decide
  simp only [ResultHit.tags, List.cons_append, List.nil_append, List.append_assoc, elementTexts,
    elementTexts_fields, hopened, hclosed, Bool.false_and, Bool.false_eq_true, if_false]

private theorem elementTexts_hits (pretty : Bool) (hits : List ResultHit) (rest : List PlacedTag) :
    elementTexts "field" false (hits.flatMap (ResultHit.tags pretty) ++ rest) =
      (hits.flatMap ResultHit.fields).map (ResultField.shownText pretty) ++
        elementTexts "field" false rest := by
  rw [List.map_flatMap]
  apply read_flatMap (elementTexts "field" false)
  intro hit _ rest
  exact elementTexts_hit pretty hit rest

namespace ResultDocument

def fields (document : ResultDocument) : List ResultField := document.hits.flatMap ResultHit.fields

private theorem fieldTexts_xmlText {document : ResultDocument} (h : document.HasPlainContents)
    (pretty : Bool) :
    fieldTexts (document.xmlText pretty).toList =
      document.fields.map (ResultField.shownText pretty) := by
  have hopened : (tagName (startTag "resultPage" document.attributes) == "field".toList) =
      false := by
    rw [attributes, tagName_startTag (by decide)]
    decide
  have hdeclared : (tagName declarationTag == "field".toList) = false := by decide
  rw [fieldTexts, tagsOf_xmlText h, tags, elementTexts, elementTexts, hdeclared, hopened,
    elementTexts_hits, elementTexts]
  simp [elementTexts, fields]

/-- The text on indented lines has the tags of the text on one line. Between the tags of a field
both have its content, except that a line break and indentation stand for no content on indented
lines. -/
theorem xmlText_pretty {document : ResultDocument} (h : document.HasPlainContents) :
    (tagsOf (document.xmlText true).toList).map PlacedTag.tag =
        (tagsOf (document.xmlText false).toList).map PlacedTag.tag ∧
      fieldTexts (document.xmlText false).toList =
        document.fields.map (fun field => field.content.toList) ∧
      fieldTexts (document.xmlText true).toList =
        document.fields.map (fun field =>
          if field.content = "" then "\n    ".toList else field.content.toList) ∧
      (fieldTexts (document.xmlText true).toList = fieldTexts (document.xmlText false).toList ↔
        ∀ field ∈ document.fields, field.content ≠ "") := by
  have hflat : fieldTexts (document.xmlText false).toList =
      document.fields.map (fun field => field.content.toList) := by
    rw [fieldTexts_xmlText h]
    apply List.map_congr_left
    intro field _
    exact field.shownText_false
  have hpretty : fieldTexts (document.xmlText true).toList =
      document.fields.map (fun field =>
        if field.content = "" then "\n    ".toList else field.content.toList) := by
    rw [fieldTexts_xmlText h]
    rfl
  refine ⟨?_, hflat, hpretty, ?_⟩
  · rw [tagsOf_xmlText h, tagsOf_xmlText h]
    simp [tags, ResultHit.tags, ResultField.tags, List.map_flatMap]
  · rw [hflat, hpretty, List.map_inj_left]
    refine forall₂_congr fun field _ => ?_
    by_cases hempty : field.content = "" <;> simp [hempty]

theorem xmlText_pretty_fox :
    (ofField ⟨"title", true, "fox"⟩).HasPlainContents ∧
      fieldTexts ((ofField ⟨"title", true, "fox"⟩).xmlText true).toList = ["fox".toList] := by
  have h : (ofField ⟨"title", true, "fox"⟩).HasPlainContents := by decide
  refine ⟨h, ?_⟩
  rw [(xmlText_pretty h).2.2.1]
  rfl

/-- On indented lines a field without content is shown with a content of white space. -/
theorem indented_empty_field :
    (ofField ⟨"f", false, ""⟩).HasPlainContents ∧
      fieldTexts ((ofField ⟨"f", false, ""⟩).xmlText false).toList = [[]] ∧
      fieldTexts ((ofField ⟨"f", false, ""⟩).xmlText true).toList = ["\n    ".toList] := by
  have h : (ofField ⟨"f", false, ""⟩).HasPlainContents := by decide
  refine ⟨h, ?_, ?_⟩
  · rw [fieldTexts_xmlText h]
    rfl
  · rw [fieldTexts_xmlText h]
    rfl

end ResultDocument

end PagedSearch
