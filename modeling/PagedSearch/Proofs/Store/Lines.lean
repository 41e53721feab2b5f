import PagedSearch.Proofs.Index.Statistics
import PagedSearch.Proofs.Store.Members
import PagedSearch.Proofs.Text.Split
import PagedSearch.Fault.Basic
import PagedSearch.Session.Basic

/-!
# Lines of a file

A file is cut at its line feeds, and its lines are counted from one. Each line that is not blank
gives an item, and the items come in the order of the lines whatever they hold. A file is an index
if each item is a document; else the first item that is none tells the number of its line.
-/

namespace PagedSearch

def physicalLines (content : List UInt8) : List (List UInt8 × Nat) :=
  (content.splitOn 10).zipIdx 1

def LineCounts (line : List UInt8 × Nat) : Prop :=
  ∀ text, decodeText? line.1 = some text → Unicode.trim text.toList ≠ []

/-- What a line that counts gives: a document, or the details of an error with its number. -/
inductive LineHolds (line : List UInt8 × Nat) : Except String Document → Prop
  | undecodable (htext : decodeText? line.1 = none) :
    LineHolds line (.error
      ("failed to read line " ++ toString line.2 ++ ": stream did not contain valid UTF-8"))
  | faulty {text : String} {fault : LineFault} (htext : decodeText? line.1 = some text)
    (hblank : Unicode.trim text.toList ≠ [])
    (hfault : Document.ofLine (.ofList (Unicode.trim text.toList)) = .error fault) :
    LineHolds line (.error ("line " ++ toString line.2 ++ ": " ++ fault.message))
  | document {text : String} {d : Document} (htext : decodeText? line.1 = some text)
    (hblank : Unicode.trim text.toList ≠ [])
    (hd : Document.ofLine (.ofList (Unicode.trim text.toList)) = .ok d) :
    LineHolds line (.ok d)

def itemOf? (line : List UInt8 × Nat) : Option LineItem := LineItem.ofLine? line.2 line.1

section Line

variable {line : List UInt8 × Nat}

private theorem lineCounts_iff : LineCounts line ↔ (itemOf? line).isSome = true := by
  rw [LineCounts, itemOf?, LineItem.ofLine?]
  cases htext : decodeText? line.1 with
  | none => simp
  | some text =>
    by_cases hblank : Unicode.trim text.toList = []
    · simp [hblank]
    · cases hd : Document.ofLine (.ofList (Unicode.trim text.toList)) <;> simp [hblank, hd]

instance : DecidablePred LineCounts := fun _ => decidable_of_iff' _ lineCounts_iff

private theorem lineHolds_iff {outcome : Except String Document} :
    LineHolds line outcome ↔ ∃ item, itemOf? line = some item ∧ item.document? = outcome := by
  constructor
  · rintro (htext | ⟨htext, hblank, hfault⟩ | ⟨htext, hblank, hd⟩)
    · exact ⟨.undecodable line.2, by simp [itemOf?, LineItem.ofLine?, htext], rfl⟩
    · exact ⟨.faulty line.2 _, by simp [itemOf?, LineItem.ofLine?, htext, hblank, hfault], rfl⟩
    · exact ⟨.document _, by simp [itemOf?, LineItem.ofLine?, htext, hblank, hd], rfl⟩
  · rintro ⟨item, hitem, rfl⟩
    rw [itemOf?, LineItem.ofLine?] at hitem
    split at hitem
    · rename_i htext
      cases hitem
      exact .undecodable htext
    · rename_i text htext
      dsimp only at hitem
      split at hitem
      · cases hitem
      rename_i hblank
      rw [List.isEmpty_iff] at hblank
      split at hitem
      · rename_i d hd
        cases hitem
        exact .document htext hblank hd
      · rename_i fault hfault
        cases hitem
        exact .faulty htext hblank hfault

private theorem itemOf?_nil (number : Nat) : itemOf? ([], number) = none := by
  have htext : decodeText? [] = some "" := by decide +kernel
  have hblank : Unicode.trim "".toList = [] := by decide
  rw [itemOf?, LineItem.ofLine?, htext]
  dsimp only
  rw [hblank]
  rfl

end Line

namespace LineReader

def expected (reader : LineReader) : List LineItem :=
  ((reader.unread.splitOn 10).zipIdx (reader.number + 1)).filterMap itemOf?

variable {reader behind : LineReader}

private theorem expected_of_end (h : reader.readLine? = none) : reader.expected = [] := by
  rw [readLine?] at h
  split at h
  · rename_i hend
    rw [expected, List.isEmpty_iff.mp hend, List.splitOn_nil, List.zipIdx_singleton,
      List.filterMap_cons_none (itemOf?_nil _), List.filterMap_nil]
  · cases h

private theorem expected_of_readLine? {line : List UInt8}
    (h : reader.readLine? = some (line, behind)) :
    reader.expected = (itemOf? (line, behind.number)).toList ++ behind.expected := by
  obtain ⟨unread, number⟩ := reader
  rw [readLine?] at h
  split at h
  · cases h
  cases h
  by_cases hmem : 10 ∈ unread
  · obtain ⟨first, rest, rfl, hfirst⟩ := List.eq_append_cons_of_mem hmem
    rw [expected, takeWhile_ne_append hfirst, dropWhile_ne_append hfirst,
      List.splitOn_append_cons_self_of_not_mem hfirst, List.zipIdx_cons, List.filterMap_cons]
    dsimp only
    cases itemOf? (first, number + 1) <;> rfl
  · have hend : (LineReader.mk [] (number + 1)).expected = [] := expected_of_end rfl
    rw [expected, takeWhile_ne_of_not_mem hmem, dropWhile_ne_of_not_mem hmem, List.drop_nil, hend,
      List.splitOn_eq_singleton hmem, List.zipIdx_singleton, List.filterMap_cons]
    dsimp only
    cases itemOf? (unread, number + 1) <;> rfl

/-- What a reader gives next is the first item that is expected, and it goes on behind it. -/
theorem expected_eq_next? (reader : LineReader) :
    reader.expected = match reader.next? with
      | none => []
      | some (item, behind) => item :: behind.expected := by
  fun_induction next? reader with
  | case1 reader hend => exact expected_of_end hend
  | case2 reader line behind hline hshorter item hitem =>
    rw [expected_of_readLine? hline, itemOf?, hitem]
    rfl
  | case3 reader line behind hline hshorter hblank ih =>
    rw [expected_of_readLine? hline, itemOf?, hblank]
    exact ih

private theorem items_eq (reader : LineReader) : reader.items = reader.expected := by
  fun_induction items reader with
  | case1 reader hend => rw [expected_eq_next?, hend]
  | case2 reader item behind hnext hshorter ih => rw [expected_eq_next?, hnext, ih]

end LineReader

private theorem lineItems_eq (content : List UInt8) :
    lineItems content = (physicalLines content).filterMap itemOf? :=
  LineReader.items_eq _

theorem lineItems_holds (content : List UInt8) :
    List.Forall₂ (fun line item => LineHolds line item.document?)
      ((physicalLines content).filter LineCounts) (lineItems content) := by
  rw [lineItems_eq]
  induction physicalLines content with
  | nil => exact .nil
  | cons line rest ih =>
    cases hitem : itemOf? line with
    | none =>
      rw [List.filterMap_cons_none hitem, List.filter_cons_of_neg (by simp [lineCounts_iff, hitem])]
      exact ih
    | some item =>
      rw [List.filterMap_cons_some hitem, List.filter_cons_of_pos (by simp [lineCounts_iff, hitem])]
      exact .cons (lineHolds_iff.mpr ⟨item, hitem, rfl⟩) ih

private theorem mapM_lineItems_eq_error_iff {content : List UInt8} {detail : String} :
    (lineItems content).mapM LineItem.document? = .error detail ↔ ∃ front line rest,
      physicalLines content = front ++ line :: rest ∧
      (∀ earlier ∈ front, ∀ outcome, LineHolds earlier outcome →
        ∃ d, outcome = .ok d) ∧ LineHolds line (.error detail) := by
  rw [mapM_eq_error_iff, lineItems_eq]
  constructor
  · rintro ⟨before, item, after, hsplit, hbefore, hitem⟩
    obtain ⟨first, others, hlines, hfirst, hothers⟩ := List.filterMap_eq_append_iff.mp hsplit
    obtain ⟨blank, line, rest, rfl, hblank, hline, -⟩ := List.filterMap_eq_cons_iff.mp hothers
    refine ⟨first ++ blank, line, rest, by rw [hlines, List.append_assoc], ?_,
      lineHolds_iff.mpr ⟨item, hline, hitem⟩⟩
    intro earlier hearlier outcome houtcome
    obtain ⟨found, hfound, rfl⟩ := lineHolds_iff.mp houtcome
    rcases List.mem_append.mp hearlier with hmem | hmem
    · exact hbefore found (hfirst ▸ List.mem_filterMap.mpr ⟨earlier, hmem, hfound⟩)
    · rw [hblank earlier hmem] at hfound
      cases hfound
  · rintro ⟨front, line, rest, hlines, hfront, hline⟩
    obtain ⟨item, hitem, houtcome⟩ := lineHolds_iff.mp hline
    have hcons : (line :: rest).filterMap itemOf? = item :: rest.filterMap itemOf? :=
      List.filterMap_cons_some hitem
    refine ⟨front.filterMap itemOf?, item, rest.filterMap itemOf?, ?_, ?_, houtcome⟩
    · rw [hlines, List.filterMap_append, hcons]
    intro earlier hearlier
    obtain ⟨before, hbefore, hfound⟩ := List.mem_filterMap.mp hearlier
    exact hfront before hbefore _ (lineHolds_iff.mpr ⟨earlier, hfound, rfl⟩)

section Load

variable {analyzer : Analyzer} {files : FileView} {location : String} {content : List UInt8}
  (hfile : files location = .file content)

include hfile

private theorem load_ofFiles_eq_ok_iff {index : Index} :
    (IndexSource.ofFiles analyzer files).load location = .ok index ↔ ∃ documents,
      (lineItems content).mapM LineItem.document? = .ok documents ∧
      Index.ofDocuments analyzer documents = index := by
  rw [IndexSource.ofFiles]
  dsimp only
  rw [hfile]
  dsimp only
  rw [Index.ofLines]
  cases (lineItems content).mapM LineItem.document? <;> simp

private theorem load_ofFiles_eq_error_iff {fault : IndexFault} :
    (IndexSource.ofFiles analyzer files).load location = .error fault ↔ ∃ detail,
      (lineItems content).mapM LineItem.document? = .error detail ∧
      .badLine location detail = fault := by
  rw [IndexSource.ofFiles]
  dsimp only
  rw [hfile]
  dsimp only
  rw [Index.ofLines]
  cases (lineItems content).mapM LineItem.document? <;> simp

end Load

open Json (IsNested Writes firstKeys lastValue stored) in
/-- A file gives one item for each of its lines that counts, in order, and is an index if each item
is a document. Else loading it fails with the first line that holds none. A document has the keys of
its line at their first places, and stores of each the value that is written last. -/
theorem lineItems_load (analyzer : Analyzer) (files : FileView) (location : String)
    (content : List UInt8) (hfile : files location = .file content) :
    List.Forall₂ (fun line item => LineHolds line item.document?)
      ((physicalLines content).filter LineCounts) (lineItems content) ∧
    (∀ item ∈ lineItems content, ∀ detail, item.document? = .error detail →
      item.message? = some ("Index unavailable: " ++ detail)) ∧
    ((∃ index, (IndexSource.ofFiles analyzer files).load location = .ok index) ↔
      ∀ item ∈ lineItems content, ∃ d, item.document? = .ok d) ∧
    (∀ index, (IndexSource.ofFiles analyzer files).load location = .ok index → ∀ k,
      (index.document? k).map .ok = (lineItems content)[k]?.map LineItem.document?) ∧
    (∀ fault, (IndexSource.ofFiles analyzer files).load location = .error fault ↔
      ∃ front line rest detail, physicalLines content = front ++ line :: rest ∧
        (∀ earlier ∈ front, ∀ outcome, LineHolds earlier outcome → ∃ d, outcome = .ok d) ∧
        LineHolds line (.error detail) ∧ .badLine location detail = fault ∧
        (SearchError.index fault).kind = .indexUnavailable ∧
        (SearchError.index fault).message = "Index unavailable: " ++ (location ++ ": " ++ detail)) ∧
    (∀ line d, Document.ofLine line = .ok d ↔ ∃ written, Writes line written ∧
      (∀ key ∈ firstKeys written, ¬ IsNested (lastValue written key)) ∧
      d.fields = (firstKeys written).flatMap fun key =>
        (stored (lastValue written key)).map (StoredField.mk key)) ∧
    ∀ line written, Writes line written → ((∃ fault, Document.ofLine line = .error fault) ↔
      ∃ key ∈ firstKeys written, IsNested (lastValue written key)) := by
  refine ⟨lineItems_holds content, ?_, ?_, ?_, ?_, fun line d => Document.ofLine_eq_ok_iff, ?_⟩
  · intro item hitem detail hdetail
    rw [LineItem.message?, hdetail]
    rfl
  · rw [← exists_mapM_eq_ok_iff]
    simp only [load_ofFiles_eq_ok_iff hfile]
    exact ⟨fun ⟨_, documents, hdocuments, _⟩ => ⟨documents, hdocuments⟩,
      fun ⟨documents, hdocuments⟩ => ⟨_, documents, hdocuments, rfl⟩⟩
  · intro index hindex k
    obtain ⟨documents, hdocuments, rfl⟩ := (load_ofFiles_eq_ok_iff hfile).mp hindex
    rw [(Index.summarizes_ofDocuments analyzer documents).document?_eq k, ← List.getElem?_map,
      ← List.getElem?_map, map_eq_of_mapM hdocuments]
  · intro fault
    rw [load_ofFiles_eq_error_iff hfile]
    simp only [mapM_lineItems_eq_error_iff]
    constructor
    · rintro ⟨detail, ⟨front, line, rest, hlines, hfront, hline⟩, rfl⟩
      exact ⟨front, line, rest, detail, hlines, hfront, hline, rfl, rfl, rfl⟩
    · rintro ⟨front, line, rest, detail, hlines, hfront, hline, rfl, -⟩
      exact ⟨detail, ⟨front, line, rest, hlines, hfront, hline⟩, rfl⟩
  · intro line written hwritten
    constructor
    · rintro ⟨fault, hfault⟩
      obtain ⟨before, key, after, hkeys, -, hnested, -⟩ :=
        (Document.ofLine_eq_error_iff hwritten).mp hfault
      exact ⟨key, by simp [hkeys], hnested⟩
    · rintro ⟨key, hkey, hnested⟩
      cases hline : Document.ofLine line with
      | error fault => exact ⟨fault, rfl⟩
      | ok d =>
        have hplain := ((Document.ofLine_eq_ok_of_writes hwritten).mp hline).1
        exact absurd hnested (hplain key hkey)

/-- A repeated key and a blank line with a carriage return, and a file with a line that is no UTF-8
behind a blank one. -/
theorem lineItems_load_repeated :
    (∃ index, (IndexSource.ofFiles .standard fun _ => .file
      "\x7b\x22a\x22: [1], \x22b\x22: 2, \x22a\x22: \x22x\x22\x7d\n\r\n\x7b\x7d".toUTF8.toList).load
        "docs" = .ok index) ∧
    (IndexSource.ofFiles .standard fun _ => .file [10, 255, 10, 123, 10]).load "docs" =
      .error (.badLine "docs"
        "failed to read line 2: stream did not contain valid UTF-8") := by
  constructor
  · have hitems : lineItems
        "\x7b\x22a\x22: [1], \x22b\x22: 2, \x22a\x22: \x22x\x22\x7d\n\r\n\x7b\x7d".toUTF8.toList =
          [.document ⟨[⟨"a", .text "x"⟩, ⟨"b", .integer 2⟩]⟩, .document ⟨[]⟩] := by
      decide +kernel
    refine (lineItems_load .standard _ "docs" _ rfl).2.2.1.mpr ?_
    rw [hitems]
    simp [LineItem.document?]
  · have hlines : physicalLines [10, 255, 10, 123, 10] =
        [([], 1)] ++ ([255], 2) :: [([123], 3), ([], 4)] := by
      decide +kernel
    refine ((lineItems_load .standard _ "docs" _ rfl).2.2.2.2.1 _).mpr
      ⟨_, _, _, _, hlines, ?_, .undecodable (by decide +kernel), rfl, rfl, rfl⟩
    intro earlier hearlier outcome hholds
    obtain ⟨item, hitem, -⟩ := lineHolds_iff.mp hholds
    rw [List.mem_singleton.mp hearlier, itemOf?_nil] at hitem
    cases hitem

end PagedSearch
