import PagedSearch.Proofs.Query.Phrase

/-!
# Groups within groups

Parentheses around a query change nothing about it. A field name in front of them takes the place of
the default fields for what they enclose, down to the next group that names a field itself.
-/

namespace PagedSearch.Query

def enclose : Option String → String → String
  | none, text => "(" ++ text ++ ")"
  | some field, text => field ++ ":(" ++ text ++ ")"

def nest (groups : List (Option String)) (text : String) : String := groups.foldr enclose text

def fieldsWithin (fields : List String) : Option String → List String
  | none => fields
  | some field => [field]

theorem parse_group {scope : QueryScope} {text : String} {query : Query}
    (h : parse scope text = .ok query) : parse scope ("(" ++ text ++ ")") = .ok query := by
  have htext : ("(" ++ text ++ ")").toList = '(' :: (text.toList ++ [')']) := by simp
  exact parse_of_primary htext (by decide) (by decide) rfl rfl (reads_group_of_parse h [])

theorem parse_fieldGroup {scope : QueryScope} {name text : String} {query : Query}
    (hname : IsFieldName name) (h : parse { scope with fields := [name] } text = .ok query) :
    parse scope (name ++ ":(" ++ text ++ ")") = .ok query := by
  have hstop : isBareChar '(' = false := by decide
  have htext : (name ++ ":(" ++ text ++ ")").toList =
      name.toList ++ ':' :: '(' :: (text.toList ++ [')']) := by simp
  have hinner : Reads { scope with fields := [.ofList name.toList] } (.clauses true [] none query)
      (text.toList ++ [')']) [] := by
    rw [String.ofList_toList]
    exact (parse_eq_ok_iff.mp h).enclose []
  refine hname.parse_of_primary hstop _ htext ?_
  obtain ⟨c, tail, hcons, hbare, hqualified, hdrop⟩ := hname.exists_word hstop (text.toList ++ [')'])
  rw [hcons]
  exact .fieldGroup hbare hqualified hdrop hinner

private theorem parse_enclose {analyzer : Analyzer} {fields : List String} {group : Option String}
    {text : String} {query : Query} (hgroup : ∀ name ∈ group, IsFieldName name)
    (h : parse ⟨analyzer, fieldsWithin fields group⟩ text = .ok query) :
    parse ⟨analyzer, fields⟩ (enclose group text) = .ok query := by
  cases group with
  | none => exact parse_group h
  | some name => exact parse_fieldGroup (hgroup name rfl) h

/-- A query in parentheses is the query without them, and behind a field name it is the query about
that field, whatever the default fields. So within groups at any depth a text is the query that it
is by itself with the fields of the innermost group that names one. -/
theorem parse_nested (analyzer : Analyzer) (text : String) :
    (∀ fields query, parse ⟨analyzer, fields⟩ text = .ok query →
      parse ⟨analyzer, fields⟩ ("(" ++ text ++ ")") = .ok query) ∧
    (∀ name query, IsFieldName name → parse ⟨analyzer, [name]⟩ text = .ok query →
      ∀ fields, parse ⟨analyzer, fields⟩ (name ++ ":(" ++ text ++ ")") = .ok query) ∧
    ∀ groups fields query, (∀ name, some name ∈ groups → IsFieldName name) →
      parse ⟨analyzer, groups.foldl fieldsWithin fields⟩ text = .ok query →
      parse ⟨analyzer, fields⟩ (nest groups text) = .ok query := by
  refine ⟨fun fields query h => parse_group h,
    fun name query hname h fields => parse_fieldGroup hname h, ?_⟩
  intro groups
  induction groups with
  | nil =>
    intro fields query _ h
    exact h
  | cons group groups ih =>
    intro fields query hnames h
    obtain ⟨hgroup, hrest⟩ : (∀ name ∈ group, IsFieldName name) ∧
        ∀ name, some name ∈ groups → IsFieldName name := by
      constructor
      · rintro name rfl
        exact hnames name List.mem_cons_self
      · intro name hname
        exact hnames name (List.mem_cons_of_mem group hname)
    exact parse_enclose hgroup (ih (fieldsWithin fields group) query hrest h)

theorem parse_nested_pens :
    ∃ query, parse ⟨.standard, ["name"]⟩ "red (-blue \"fine pen\")" = .ok query ∧
      parse ⟨.standard, ["name"]⟩ "(red (-blue \"fine pen\"))" = .ok query ∧
      parse ⟨.standard, []⟩ "name:(red (-blue \"fine pen\"))" = .ok query ∧
      parse ⟨.standard, []⟩ "note:((name:(red (-blue \"fine pen\"))))" = .ok query := by
  have hname : IsFieldName "name" := by decide
  have hnote : IsFieldName "note" := by decide
  have haccepted : (parse ⟨.standard, ["name"]⟩ "red (-blue \"fine pen\")").isOk = true := by
    decide +kernel
  obtain ⟨hplain, hfield, hdeep⟩ := parse_nested .standard "red (-blue \"fine pen\")"
  rcases hparse : parse ⟨.standard, ["name"]⟩ "red (-blue \"fine pen\")" with fault | query
  · rw [hparse] at haccepted
    cases haccepted
  · have hnames : ∀ name, some name ∈ [some "note", none, some "name"] → IsFieldName name := by
      simp [hname, hnote]
    exact ⟨query, rfl, hplain ["name"] query hparse, hfield "name" query hname hparse [],
      hdeep [some "note", none, some "name"] [] query hnames hparse⟩

end PagedSearch.Query
