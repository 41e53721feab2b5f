import PagedSearch.Proofs.Json.Scan

/-!
# Written values

Every value is read back as a tree from the text that is written for it, on one line as well as on
indented lines. The lexical layer finds the tokens of the tree in the text, and the machine that
reads tokens builds the tree from them.
-/

namespace PagedSearch

open JsonToken

namespace JsonTree

mutual

def tokens : JsonTree → List JsonToken
  | .null => [.null]
  | .bool b => [.bool b]
  | .number literal => [.number literal]
  | .text content => [.text content]
  | .list [] => [.openList, .closeList]
  | .list (item :: rest) => .openList :: (tokens item ++ (itemTokens rest ++ [.closeList]))
  | .object [] => [.openObject, .closeObject]
  | .object ((key, value) :: rest) =>
    .openObject :: .text key :: .colon :: (tokens value ++ (memberTokens rest ++ [.closeObject]))

def itemTokens : List JsonTree → List JsonToken
  | [] => []
  | item :: rest => .comma :: (tokens item ++ itemTokens rest)

def memberTokens : List (Option String × JsonTree) → List JsonToken
  | [] => []
  | (key, value) :: rest => .comma :: .text key :: .colon :: (tokens value ++ memberTokens rest)

end

private theorem run_cons {state next : State} {token : JsonToken} (h : step state token = some next)
    (rest : List JsonToken) : run state (token :: rest) = run next rest := by
  rw [run, h]

private theorem step_openList (opened : Bool) (stack : List Frame) :
    step (.value opened stack) .openList = some (.value true (.list [] :: stack)) := by
  cases opened <;> rfl

private theorem step_openObject (opened : Bool) (stack : List Frame) :
    step (.value opened stack) .openObject = some (.key true (.object [] none :: stack)) := by
  cases opened <;> rfl

mutual

/-- The machine reads a tree from its tokens, whatever is still open around it. -/
theorem run_tokens (tree : JsonTree) (opened : Bool) (stack : List Frame)
    (rest : List JsonToken) :
    run (.value opened stack) (tree.tokens ++ rest) = run (push tree stack) rest := by
  match tree with
  | .null => cases opened <;> rfl
  | .bool b => cases opened <;> rfl
  | .number literal => cases opened <;> rfl
  | .text content => cases opened <;> rfl
  | .list [] => cases opened <;> rfl
  | .list (item :: items) =>
    simp only [tokens, List.cons_append, List.append_assoc, List.nil_append]
    rw [run_cons (step_openList opened stack), run_tokens item, push, run_itemTokens items]
    rfl
  | .object [] => cases opened <;> rfl
  | .object ((key, value) :: members) =>
    simp only [tokens, List.cons_append, List.append_assoc, List.nil_append]
    rw [run_cons (step_openObject opened stack), run_cons rfl, run_cons rfl, run_tokens value, push,
      run_memberTokens members]
    rfl

theorem run_itemTokens (items done : List JsonTree) (stack : List Frame) (rest : List JsonToken) :
    run (.separator (.list done :: stack)) (itemTokens items ++ .closeList :: rest) =
      run (push (.list (done.reverse ++ items)) stack) rest := by
  match items with
  | [] => rw [List.append_nil]; rfl
  | item :: items =>
    simp only [itemTokens, List.cons_append, List.append_assoc]
    rw [run_cons rfl, run_tokens item, push, run_itemTokens items, List.reverse_cons,
      List.append_assoc, List.singleton_append]

theorem run_memberTokens (members done : List (Option String × JsonTree)) (key : Option String)
    (stack : List Frame) (rest : List JsonToken) :
    run (.separator (.object done key :: stack)) (memberTokens members ++ .closeObject :: rest) =
      run (push (.object (done.reverse ++ members)) stack) rest := by
  match members with
  | [] => rw [List.append_nil]; rfl
  | (name, value) :: members =>
    simp only [memberTokens, List.cons_append, List.append_assoc]
    rw [run_cons rfl, run_cons rfl, run_cons rfl, run_tokens value, push, run_memberTokens members,
      List.reverse_cons, List.append_assoc, List.singleton_append]

end

private theorem ofTokens?_tokens (tree : JsonTree) : ofTokens? tree.tokens = some tree := by
  have hrun := run_tokens tree false [] []
  rw [List.append_nil] at hrun
  rw [ofTokens?, hrun]
  rfl

end JsonTree

def Binary.jsonTree {f : BinaryFormat} (x : Binary f) (reach : JsonReach) : JsonTree :=
  if x.isFinite then .number (x.jsonLiteral reach) else .null

namespace Json

mutual

def tree : Json → JsonTree
  | .null => .null
  | .bool b => .bool b
  | .integer i => .number (.ofInt i)
  | .single x => x.jsonTree .single
  | .double x => x.jsonTree .double
  | .text s => .text (some s)
  | .list items => .list (trees items)
  | .object members => .object (memberTrees members)

def trees : List Json → List JsonTree
  | [] => []
  | item :: rest => tree item :: trees rest

def memberTrees : List (String × Json) → List (Option String × JsonTree)
  | [] => []
  | (key, value) :: rest => (some key, tree value) :: memberTrees rest

end

theorem trees_eq_map (items : List Json) : trees items = items.map tree := by
  induction items with
  | nil => rfl
  | cons item items ih => rw [trees, ih, List.map_cons]

variable {rest : List Char}

private theorem scan?_quote (s : String) (rest : List Char) :
    scan? (quote s ++ rest) = (scan? rest).map (.text (some s) :: ·) := by
  simp only [quote, List.cons_append, List.append_assoc, List.nil_append]
  exact scan?_text (scanText?_quote s rest)

private theorem scan?_newLine (layout : Layout) (rest : List Char) :
    scan? (layout.newLine ++ rest) = scan? rest := by
  apply scan?_blanks
  intro c hc
  cases layout with
  | none => cases hc
  | some depth =>
    rcases List.mem_cons.mp hc with rfl | hblank
    · rfl
    · rw [List.eq_of_mem_replicate hblank]
      rfl

private theorem scan?_colon (layout : Layout) (rest : List Char) :
    scan? (layout.colon ++ rest) = (scan? rest).map (.colon :: ·) := by
  cases layout with
  | none => exact scan?_mark rfl rest
  | some depth =>
    change scan? (':' :: ' ' :: rest) = _
    rw [scan?_mark rfl, scan?_blank rfl]

private theorem stops_newLine (layout : Layout) (h : Stops JsonLiteral.isLiteralChar rest) :
    Stops JsonLiteral.isLiteralChar (layout.newLine ++ rest) := by
  cases layout with
  | none => exact h
  | some depth => exact .cons (by decide) _

private theorem stops_writeItems (layout : Layout) (items : List Json)
    (h : Stops JsonLiteral.isLiteralChar rest) :
    Stops JsonLiteral.isLiteralChar (writeItems layout items ++ rest) := by
  cases items with
  | nil => exact h
  | cons item items => exact .cons (by decide) _

private theorem stops_writeMembers (layout : Layout) (members : List (String × Json))
    (h : Stops JsonLiteral.isLiteralChar rest) :
    Stops JsonLiteral.isLiteralChar (writeMembers layout members ++ rest) := by
  cases members with
  | nil => exact h
  | cons member members => exact .cons (by decide) _

private theorem scan?_jsonText {f : BinaryFormat} (x : Binary f) (reach : JsonReach)
    (h : Stops JsonLiteral.isLiteralChar rest) :
    scan? (x.jsonText reach ++ rest) = (scan? rest).map ((x.jsonTree reach).tokens ++ ·) := by
  unfold Binary.jsonTree
  cases hfinite : x.isFinite with
  | true =>
    rw [← Binary.text_jsonLiteral hfinite,
      scan?_literal (Binary.isPlain_jsonLiteral hfinite reach) h]
    rfl
  | false =>
    rw [Binary.jsonText, hfinite]
    exact scan?_null rest

mutual

theorem scan?_write (layout : Layout) (value : Json) (rest : List Char)
    (h : Stops JsonLiteral.isLiteralChar rest) :
    scan? (value.write layout ++ rest) = (scan? rest).map (value.tree.tokens ++ ·) := by
  match value with
  | .null => exact scan?_null rest
  | .bool true => exact scan?_true rest
  | .bool false => exact scan?_false rest
  | .integer i =>
    rw [write, ← JsonLiteral.text_ofInt, scan?_literal (JsonLiteral.isPlain_ofInt i) h]
    rfl
  | .single x => exact scan?_jsonText x .single h
  | .double x => exact scan?_jsonText x .double h
  | .text s => exact scan?_quote s rest
  | .list [] =>
    change scan? ('[' :: ']' :: rest) = _
    rw [scan?_mark rfl, scan?_mark rfl]
    cases scan? rest <;> rfl
  | .list (item :: items) =>
    simp only [write, List.cons_append, List.append_assoc, List.nil_append]
    have hclose : Stops JsonLiteral.isLiteralChar (layout.newLine ++ ']' :: rest) :=
      stops_newLine layout (.cons (by decide) rest)
    rw [scan?_mark rfl, scan?_newLine, scan?_write _ item _ (stops_writeItems _ items hclose),
      scan?_writeItems _ items _ hclose, scan?_newLine, scan?_mark rfl]
    cases scan? rest <;> simp [tree, trees, JsonTree.tokens]
  | .object [] =>
    change scan? ('\x7b' :: '\x7d' :: rest) = _
    rw [scan?_mark rfl, scan?_mark rfl]
    cases scan? rest <;> rfl
  | .object ((key, value) :: members) =>
    simp only [write, List.cons_append, List.append_assoc, List.nil_append]
    have hclose : Stops JsonLiteral.isLiteralChar (layout.newLine ++ '\x7d' :: rest) :=
      stops_newLine layout (.cons (by decide) rest)
    rw [scan?_mark rfl, scan?_newLine, scan?_quote, scan?_colon,
      scan?_write _ value _ (stops_writeMembers _ members hclose),
      scan?_writeMembers _ members _ hclose, scan?_newLine, scan?_mark rfl]
    cases scan? rest <;> simp [tree, memberTrees, JsonTree.tokens]

theorem scan?_writeItems (layout : Layout) (items : List Json) (rest : List Char)
    (h : Stops JsonLiteral.isLiteralChar rest) :
    scan? (writeItems layout items ++ rest) =
      (scan? rest).map (JsonTree.itemTokens (trees items) ++ ·) := by
  match items with
  | [] => exact Option.map_id'.symm
  | item :: items =>
    simp only [writeItems, List.cons_append, List.append_assoc]
    rw [scan?_mark rfl, scan?_newLine, scan?_write _ item _ (stops_writeItems _ items h),
      scan?_writeItems _ items _ h]
    cases scan? rest <;> simp [trees, JsonTree.itemTokens]

theorem scan?_writeMembers (layout : Layout) (members : List (String × Json)) (rest : List Char)
    (h : Stops JsonLiteral.isLiteralChar rest) :
    scan? (writeMembers layout members ++ rest) =
      (scan? rest).map (JsonTree.memberTokens (memberTrees members) ++ ·) := by
  match members with
  | [] => exact Option.map_id'.symm
  | (key, value) :: members =>
    simp only [writeMembers, List.cons_append, List.append_assoc]
    rw [scan?_mark rfl, scan?_newLine, scan?_quote, scan?_colon,
      scan?_write _ value _ (stops_writeMembers _ members h), scan?_writeMembers _ members _ h]
    cases scan? rest <;> simp [memberTrees, JsonTree.memberTokens]

end

/-- A value is read back as its tree from the text written for it. -/
theorem read?_write (layout : Layout) (value : Json) :
    JsonTree.read? (value.write layout) = some value.tree := by
  have hscan := scan?_write layout value [] .nil
  rw [List.append_nil, scan?_nil, Option.map_some, List.append_nil] at hscan
  rw [JsonTree.read?, hscan, Option.bind_some, JsonTree.ofTokens?_tokens]

end Json

end PagedSearch
