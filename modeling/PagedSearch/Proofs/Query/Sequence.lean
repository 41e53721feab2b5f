import Mathlib.Data.List.Chain
import PagedSearch.Proofs.Query.Primary

/-!
# Sequences of clauses

Clauses stand in a row, apart by white space or joined by AND and OR. Each of them is read as the
query that its text is by itself. Its role comes from its sign and from the pieces on both of its
sides. A connective that does not stand between two clauses is an error.
-/

namespace PagedSearch.Query

inductive Sign where
  | bare
  | plus
  | minus
  | not

namespace Sign

def chars : Sign → List Char
  | bare => []
  | plus => ['+']
  | minus => ['-']
  | not => ['N', 'O', 'T', ' ']

def role : Sign → ClauseRole
  | bare => .optional
  | plus => .required
  | minus | not => .prohibited

end Sign

/-- A clause with the query that its text without the sign is by itself. -/
structure WrittenClause where
  sign : Sign
  primary : String
  query : Query

inductive Piece where
  | connective (operator : Connective)
  | clause (clause : WrittenClause)

namespace Piece

def chars : Piece → List Char
  | connective operator => operator.word.toList
  | clause c => c.sign.chars ++ c.primary.toList

def isClause : Piece → Bool
  | connective _ => false
  | clause _ => true

def isAnd : Piece → Bool
  | connective .and => true
  | connective .or | clause _ => false

end Piece

def WrittenClause.role (c : WrittenClause) (before after : Option Piece) : ClauseRole :=
  match c.sign.role with
  | .optional => if before.any Piece.isAnd || after.any Piece.isAnd then .required else .optional
  | role => role

def clausesOf (before : Option Piece) : List Piece → List (ClauseRole × Query)
  | [] => []
  | .connective operator :: rest => clausesOf (some (.connective operator)) rest
  | .clause c :: rest => (c.role before rest.head?, c.query) :: clausesOf (some (.clause c)) rest

structure Spacing where
  chars : List Char
  blank : ∀ c ∈ chars, Unicode.isSpace c = true
  filled : chars ≠ []

structure Row where
  first : Piece
  others : List (Spacing × Piece)

namespace Row

def pieces (row : Row) : List Piece := row.first :: row.others.map Prod.snd

def spaced : List (Spacing × Piece) → List Char
  | [] => []
  | (space, piece) :: others => space.chars ++ (piece.chars ++ spaced others)

def text (row : Row) : String := .ofList (row.first.chars ++ spaced row.others)

end Row

/-- No connective stands before the first clause, behind the last one or next to another one. -/
structure WellJoined (pieces : List Piece) : Prop where
  first : ∀ piece ∈ pieces.head?, piece.isClause = true
  last : ∀ piece ∈ pieces.getLast?, piece.isClause = true
  between : pieces.IsChain fun left right => left.isClause = true ∨ right.isClause = true

structure WrittenClause.IsAccepted (scope : QueryScope) (c : WrittenClause) : Prop where
  primary : IsPrimary c.primary.toList
  alone : parse scope c.primary = .ok c.query

variable {scope : QueryScope} {before : List (ClauseRole × Query)} {pending : Option Connective}
  {text rest : List Char} {query : Query}

section Reading

def readOn (scope : QueryScope) (before : List (ClauseRole × Query)) (pending : Option Connective)
    (text : List Char) : Except QueryFault Query :=
  (readClauses scope false before pending text).map Prod.fst

private theorem map_fst_ofPart {part : List Char} (h : part.length ≤ text.length)
    (read : Except QueryFault (Query × Remains part)) :
    (read.map (ofPart h)).map Prod.fst = read.map Prod.fst := by
  cases read <;> rfl

private theorem readOn_blank (blank : Unicode.trimStart text = []) :
    readOn scope before pending text = ofClauses before pending := by
  rw [readOn, readClauses]
  split
  · cases ofClauses before pending <;> rfl
  · rename_i opens
    cases blank.symm.trans opens

private theorem readOn_connective {c : Char} {tail : List Char} {operator : Connective}
    (opens : Unicode.trimStart text = c :: tail) (inside : c ≠ ')')
    (word : Connective.ofWord? ((c :: tail).takeWhile isBareChar) = some operator) :
    readOn scope before pending text =
      if before.isEmpty || pending.isSome then .error (.unexpectedOperator operator)
      else readOn scope before (some operator) (tail.dropWhile isBareChar) := by
  rw [readOn, readClauses]
  split
  · rename_i blank
    cases blank.symm.trans opens
  · rename_i d tail' opens'
    obtain ⟨rfl, rfl⟩ := List.cons.inj (opens.symm.trans opens')
    simp only [if_neg inside, word]
    split
    · rfl
    · exact map_fst_ofPart _ _

private theorem readOn_clause {c : Char} {tail : List Char} {clause : ClauseRole × Query}
    (opens : Unicode.trimStart text = c :: tail) (inside : c ≠ ')')
    (word : Connective.ofWord? ((c :: tail).takeWhile isBareChar) = none)
    (hread : Reads scope (.clause clause) (c :: tail) rest) :
    readOn scope before pending text =
      readOn scope (joinClause before pending clause) none rest := by
  obtain ⟨lt, hclause⟩ := isAnswered_of_reads hread
  rw [readOn, readClauses]
  split
  · rename_i blank
    cases blank.symm.trans opens
  · rename_i d tail' opens'
    obtain ⟨rfl, rfl⟩ := List.cons.inj (opens.symm.trans opens')
    simp only [if_neg inside, word, hclause]
    exact map_fst_ofPart _ _

end Reading

section Clause

private theorem endsClause_of_isSpace {stop : Char} (h : Unicode.isSpace stop = true) :
    EndsClause stop := by
  have hne (c : Char) (hc : Unicode.isSpace c = false) : stop ≠ c := by
    rintro rfl
    cases h.symm.trans hc
  have hdigit : isDigit stop = false := by
    rw [Bool.eq_false_iff]
    intro hdigit
    simp only [isDigit, Bool.and_eq_true, decide_eq_true_eq] at hdigit
    have hlow : 48 ≤ stop.toNat := hdigit.1
    have hhigh : stop.toNat ≤ 57 := hdigit.2
    simp only [Unicode.isSpace, Unicode.spaceRanges, Unicode.inRanges, Bool.and_eq_true,
      Bool.or_eq_true, decide_eq_true_eq] at h
    omega
  exact ⟨by simp [isBareChar, h], by simp [isBoostChar, hdigit, hne '.' (by decide)],
    hne '^' (by decide)⟩

def Ends (rest : List Char) : Prop := ∀ c ∈ rest.head?, Unicode.isSpace c = true

private theorem Ends.stops (h : Ends rest) : Stops isBareChar rest :=
  fun c hc => (endsClause_of_isSpace (h c hc)).word

private theorem Reads.append_ends (hrest : Ends rest) {reading : Reading}
    (h : Reads scope reading text []) (inner : reading.isInner = true) :
    Reads scope reading (text ++ rest) rest := by
  cases rest with
  | nil => rwa [List.append_nil]
  | cons c rest => exact h.append_stop (endsClause_of_isSpace (hrest c rfl)) inner rest

private theorem ne_close_of_isBareChar {c : Char} (h : isBareChar c = true) : c ≠ ')' := by
  rintro rfl
  exact absurd h (by decide)

def OpensClause (text : List Char) : Prop :=
  ∃ c tail, text = c :: tail ∧ Unicode.isSpace c = false ∧ c ≠ ')' ∧
    Connective.ofWord? ((c :: tail).takeWhile isBareChar) = none

private theorem opensClause_sign {sign : Char} (hbare : isBareChar sign = true)
    (hsign : sign ∉ ['A', 'O']) (tail : List Char) : OpensClause (sign :: tail) := by
  refine ⟨sign, tail, rfl, isSpace_of_isBareChar hbare, ne_close_of_isBareChar hbare, ?_⟩
  rw [List.takeWhile_cons_of_pos hbare, Connective.ofWord?]
  simp_all

private theorem splitPrefix_not (text : List Char) :
    splitPrefix (['N', 'O', 'T'] ++ ' ' :: text) =
      (.prohibited, Unicode.trimStart (' ' :: text)) := by
  have hstop : isBareChar ' ' = false := by decide
  rw [splitPrefix_of_unsigned (by simp) (by simp), takeWhile_append_stop hstop,
    dropWhile_append_stop hstop, if_pos (by decide)]
  rfl

namespace WrittenClause

variable {c : WrittenClause}

private theorem IsAccepted.opensClause (h : c.IsAccepted scope) (hrest : Ends rest) :
    OpensClause ((Piece.clause c).chars ++ rest) := by
  obtain ⟨sign, primary, query⟩ := c
  rw [Piece.chars, List.append_assoc]
  cases sign with
  | bare =>
    have hstart := h.primary.startsPrimary hrest.stops
    obtain ⟨c, tail, hcons, hspace, hclose⟩ := hstart.exists_cons
    refine ⟨c, tail, hcons, hspace, hclose, ?_⟩
    rw [← hcons]
    exact hstart.ofWord?
  | plus => exact @opensClause_sign '+' (by decide) (by decide) _
  | minus => exact @opensClause_sign '-' (by decide) (by decide) _
  | not => exact @opensClause_sign 'N' (by decide) (by decide) _

private theorem IsAccepted.splitPrefix (h : c.IsAccepted scope) :
    splitPrefix (Piece.clause c).chars = (c.sign.role, c.primary.toList) := by
  obtain ⟨sign, primary, query⟩ := c
  have hstart : StartsPrimary primary.toList := by simpa using h.primary.startsPrimary .nil
  rw [Piece.chars]
  cases sign with
  | bare => exact hstart.splitPrefix
  | plus => rfl
  | minus => rfl
  | not =>
    have hspace : Unicode.trimStart (' ' :: primary.toList) = primary.toList :=
      (@Unicode.trimStart_append_space [' '] (by decide) _).trans hstart.trimStart
    exact (splitPrefix_not primary.toList).trans (congrArg (ClauseRole.prohibited, ·) hspace)

private theorem IsAccepted.reads (h : c.IsAccepted scope) (hrest : Ends rest) :
    Reads scope (.clause (c.sign.role, c.query)) ((Piece.clause c).chars ++ rest) rest := by
  obtain ⟨plain, after, hprimary, hboost⟩ := h.primary.reads h.alone
  have hclause : Reads scope (.clause (c.sign.role, c.query)) (Piece.clause c).chars [] :=
    .clause_of_splitPrefix h.splitPrefix hprimary hboost
  exact hclause.append_ends hrest rfl

end WrittenClause

end Clause

section Join

def join (before : List (ClauseRole × Query)) (pending : Option Connective) :
    List Piece → Except QueryFault Query
  | [] => ofClauses before pending
  | .connective operator :: rest =>
    if before.isEmpty || pending.isSome then .error (.unexpectedOperator operator)
    else join before (some operator) rest
  | .clause c :: rest => join (joinClause before pending (c.sign.role, c.query)) none rest

private theorem exists_word (operator : Connective) : ∃ c tail, operator.word.toList = c :: tail ∧
    (∀ d ∈ c :: tail, isBareChar d = true) ∧ Connective.ofWord? (c :: tail) = some operator := by
  cases operator with
  | and => exact ⟨'A', ['N', 'D'], by decide⟩
  | or => exact ⟨'O', ['R'], by decide⟩

theorem readOn_piece {piece : Piece} {pieces : List Piece}
    (opens : Unicode.trimStart text = Unicode.trimStart (piece.chars ++ rest)) (hrest : Ends rest)
    (accepted : ∀ c, piece = .clause c → c.IsAccepted scope)
    (hjoin : ∀ before pending, readOn scope before pending rest = join before pending pieces)
    (before : List (ClauseRole × Query)) (pending : Option Connective) :
    readOn scope before pending text = join before pending (piece :: pieces) := by
  cases piece with
  | connective operator =>
    obtain ⟨first, tail, hcons, hbare, hoperator⟩ := exists_word operator
    have hfirst : isBareChar first = true := hbare first List.mem_cons_self
    have hword := takeWhile_append_of_stops hbare hrest.stops
    have hafter := dropWhile_append_of_stops (List.forall_mem_cons.mp hbare).2 hrest.stops
    rw [Piece.chars, hcons, List.cons_append,
      Unicode.trimStart_cons (isSpace_of_isBareChar hfirst)] at opens
    rw [List.cons_append] at hword
    rw [readOn_connective opens (ne_close_of_isBareChar hfirst) (by rw [hword, hoperator]), hafter,
      join, hjoin]
  | clause c =>
    have hc := accepted c rfl
    obtain ⟨first, tail, hcons, hspace, hclose, hword⟩ := hc.opensClause hrest
    have hreads := hc.reads hrest
    rw [hcons] at hreads opens
    rw [join, ← hjoin]
    exact readOn_clause (opens.trans (Unicode.trimStart_cons hspace tail)) hclose hword hreads

private theorem ends_spaced (others : List (Spacing × Piece)) : Ends (Row.spaced others) := by
  cases others with
  | nil => exact nofun
  | cons other others =>
    obtain ⟨c, tail, hcons⟩ := List.exists_cons_of_ne_nil other.1.filled
    have hc : Unicode.isSpace c = true := other.1.blank c (by simp [hcons])
    rw [Row.spaced, hcons]
    rintro d ⟨⟩
    exact hc

private theorem readOn_spaced {others : List (Spacing × Piece)}
    (accepted : ∀ c, .clause c ∈ others.map Prod.snd → c.IsAccepted scope)
    (before : List (ClauseRole × Query)) (pending : Option Connective) :
    readOn scope before pending (Row.spaced others) =
      join before pending (others.map Prod.snd) := by
  induction others generalizing before pending with
  | nil => exact readOn_blank rfl
  | cons other others ih =>
    refine readOn_piece (Unicode.trimStart_append_space other.1.blank _) (ends_spaced others) ?_
      (ih fun c hc => accepted c (List.mem_cons_of_mem _ hc)) before pending
    intro c hc
    exact accepted c (List.mem_cons.mpr (.inl hc.symm))

private theorem isBlank_piece {piece : Piece} (hrest : Ends rest)
    (accepted : ∀ c, piece = .clause c → c.IsAccepted scope) :
    Unicode.isBlank (piece.chars ++ rest) = false := by
  cases piece with
  | connective operator =>
    obtain ⟨first, tail, hcons, hbare, -⟩ := exists_word operator
    rw [Piece.chars, hcons]
    exact isBlank_cons (isSpace_of_isBareChar (hbare first List.mem_cons_self)) _
  | clause c =>
    obtain ⟨first, tail, hcons, hspace, -⟩ := (accepted c rfl).opensClause hrest
    rw [hcons]
    exact isBlank_cons hspace tail

/-- The query of a row depends on its pieces alone. -/
theorem parse_eq_join {row : Row} (accepted : ∀ c, .clause c ∈ row.pieces → c.IsAccepted scope) :
    parse scope row.text = join [] none row.pieces := by
  have hfirst (c : WrittenClause) (hc : row.first = .clause c) : c.IsAccepted scope :=
    accepted c (List.mem_cons.mpr (.inl hc.symm))
  have hblank := isBlank_piece (ends_spaced row.others) hfirst
  have hread := readOn_piece rfl (ends_spaced row.others) hfirst
    (readOn_spaced fun c hc => accepted c (List.mem_cons_of_mem _ hc)) [] none
  rw [parse, Row.text, String.toList_ofList, if_neg (by simp [hblank])]
  exact hread

end Join

section Roles

variable (c d : WrittenClause) (prior : Option Piece) (others : List (ClauseRole × Query))

private theorem joinClause_of_adjacent :
    joinClause ((c.role prior none, c.query) :: others) none (d.sign.role, d.query) =
      (d.role (some (.clause c)) none, d.query) ::
        (c.role prior (some (.clause d)), c.query) :: others := by
  simp only [joinClause, WrittenClause.role]
  cases d.sign <;> simp [Sign.role, Piece.isAnd]

private theorem joinClause_of_connective (operator : Connective) :
    joinClause ((c.role prior none, c.query) :: others) (some operator) (d.sign.role, d.query) =
      (d.role (some (.connective operator)) none, d.query) ::
        (c.role prior (some (.connective operator)), c.query) :: others := by
  simp only [joinClause, WrittenClause.role]
  cases operator with
  | and => cases prior.any Piece.isAnd <;> cases c.sign <;> cases d.sign <;> rfl
  | or => cases d.sign <;> simp [Sign.role, Piece.isAnd]

private theorem length_clausesOf (before : Option Piece) (pieces : List Piece) :
    (clausesOf before pieces).length = pieces.countP Piece.isClause := by
  induction pieces generalizing before with
  | nil => rfl
  | cons piece pieces ih =>
    cases piece with
    | connective operator => rw [clausesOf, ih, List.countP_cons_of_neg (by simp [Piece.isClause])]
    | clause c => rw [clausesOf, List.length_cons, ih, List.countP_cons_of_pos rfl]

private theorem WellJoined.of_append {front pieces : List Piece} {c : WrittenClause}
    (h : WellJoined (front ++ .clause c :: pieces)) : WellJoined (.clause c :: pieces) where
  first := by
    rintro first ⟨⟩
    rfl
  last := by
    intro last hlast
    rw [List.getLast?_cons] at hlast
    exact h.last last (by rwa [List.getLast?_append, List.getLast?_cons])
  between := h.between.right_of_append

private theorem WellJoined.cases_clause {c : WrittenClause} {pieces : List Piece}
    (h : WellJoined (.clause c :: pieces)) :
    pieces = [] ∨
      (∃ d rest, pieces = .clause d :: rest ∧ WellJoined (.clause d :: rest)) ∨
      ∃ operator d rest, pieces = .connective operator :: .clause d :: rest ∧
        WellJoined (.clause d :: rest) := by
  rcases pieces with - | ⟨operator | d, pieces⟩
  · exact .inl rfl
  · rcases pieces with - | ⟨next | d, pieces⟩
    · cases h.last _ rfl
    · obtain ⟨-, hbetween⟩ := List.isChain_cons_cons.mp h.between
      rcases (List.isChain_cons_cons.mp hbetween).1 with hclause | hclause <;> cases hclause
    · exact .inr (.inr ⟨operator, d, pieces, rfl,
        @WellJoined.of_append [.clause c, .connective operator] pieces d h⟩)
  · exact .inr (.inl ⟨d, pieces, rfl, @WellJoined.of_append [.clause c] pieces d h⟩)

private theorem join_behind_clause {pieces : List Piece} (h : WellJoined (.clause c :: pieces)) :
    join ((c.role prior none, c.query) :: others) none pieces =
      ofClauses ((clausesOf prior (.clause c :: pieces)).reverse ++ others) none := by
  induction hn : pieces.length using Nat.strongRecOn generalizing c prior others pieces with
  | ind n ih =>
    subst hn
    -- the last clause has its final role only when the next clause has been read
    rcases h.cases_clause with rfl | ⟨d, rest, rfl, hrest⟩ | ⟨operator, d, rest, rfl, hrest⟩
    · simp [join, clausesOf]
    · rw [join, joinClause_of_adjacent, ih _ (by simp) _ _ _ hrest rfl]
      simp [clausesOf]
    · have hshorter :
          rest.length < (.connective operator :: .clause d :: rest : List Piece).length :=
        Nat.lt_add_of_pos_right Nat.two_pos
      rw [join, if_neg (by simp), join, joinClause_of_connective, ih _ hshorter _ _ _ hrest rfl]
      simp [clausesOf]

private theorem ofClauses_of_two_le {clauses : List (ClauseRole × Query)} (h : 2 ≤ clauses.length) :
    ofClauses clauses none = .ok (bool clauses.reverse 1) := by
  rcases clauses with - | ⟨first, - | ⟨second, rest⟩⟩
  · simp at h
  · simp at h
  · simp [ofClauses]

private theorem join_of_wellJoined {pieces : List Piece} (h : WellJoined pieces)
    (many : 2 ≤ pieces.countP Piece.isClause) :
    join [] none pieces = .ok (bool (clausesOf none pieces) 1) := by
  rcases pieces with - | ⟨operator | c, pieces⟩
  · simp at many
  · cases h.first _ rfl
  · have hjoin := join_behind_clause c none [] h
    have hlength := length_clausesOf none (.clause c :: pieces)
    rw [List.append_nil] at hjoin
    have hrole : (c.sign.role, c.query) = (c.role none none, c.query) := by
      cases hc : c.sign <;> simp [WrittenClause.role, hc, Sign.role]
    have hfirst : joinClause [] none (c.sign.role, c.query) = [(c.role none none, c.query)] := by
      rw [hrole]
      rfl
    rw [join, hfirst, hjoin, ofClauses_of_two_le (by rwa [List.length_reverse, hlength]),
      List.reverse_reverse]

end Roles

section Faults

/-- A connective was read that does not stand between two clauses. -/
def IsConnectiveFault (fault : QueryFault) : Prop :=
  ∃ operator, fault = .unexpectedOperator operator ∨ fault = .danglingOperator operator

private theorem joinClause_ne_nil (clause : ClauseRole × Query) :
    joinClause before pending clause ≠ [] := by
  unfold joinClause
  dsimp only
  split <;> simp

private theorem fault_of_ofClauses {fault : QueryFault} (hfilled : before ≠ [])
    (h : ofClauses before pending = .error fault) : IsConnectiveFault fault := by
  unfold ofClauses at h
  split at h
  · cases h
    exact ⟨_, .inr rfl⟩
  · split at h
    · exact absurd rfl hfilled
    all_goals cases h

private theorem fault_of_join {pieces : List Piece} {fault : QueryFault}
    (hfilled : before ≠ [] ∨ pieces ≠ []) (h : join before pending pieces = .error fault) :
    IsConnectiveFault fault := by
  induction pieces generalizing before pending with
  | nil => exact fault_of_ofClauses (hfilled.resolve_right (· rfl)) h
  | cons piece pieces ih =>
    cases piece with
    | connective operator =>
      rw [join] at h
      split at h
      · cases h
        exact ⟨operator, .inl rfl⟩
      · rename_i hready
        refine ih (.inl ?_) h
        intro hnil
        exact hready (by simp [hnil])
    | clause c => exact ih (.inl (joinClause_ne_nil _)) h

private theorem wellJoined_of_join {pieces : List Piece}
    (h : join before pending pieces = .ok query) :
    (∀ piece ∈ pieces.head?, piece.isClause = true ∨ before ≠ [] ∧ pending = none) ∧
    (∀ piece ∈ pieces.getLast?, piece.isClause = true) ∧
    pieces.IsChain fun left right => left.isClause = true ∨ right.isClause = true := by
  induction pieces generalizing before pending with
  | nil => exact ⟨nofun, nofun, .nil⟩
  | cons piece pieces ih =>
    cases piece with
    | connective operator =>
      rw [join] at h
      split at h
      · cases h
      rename_i hready
      have hopen : before ≠ [] ∧ pending = none := by simpa using hready
      obtain ⟨hfirst, hlast, hbetween⟩ := ih h
      refine ⟨fun _ _ => .inr hopen, ?_⟩
      -- a pending connective waits for a clause, so a clause has to be the next piece
      cases pieces with
      | nil => cases h
      | cons next pieces =>
        have hnext : next.isClause = true := (hfirst next rfl).resolve_right (nofun)
        exact ⟨hlast, List.isChain_cons_cons.mpr ⟨.inr hnext, hbetween⟩⟩
    | clause c =>
      obtain ⟨hfirst, hlast, hbetween⟩ := ih h
      have hclause : (Piece.clause c).isClause = true := rfl
      refine ⟨by simp [hclause], ?_⟩
      cases pieces with
      | nil => exact ⟨by simp [hclause], .singleton _⟩
      | cons next pieces => exact ⟨hlast, List.isChain_cons_cons.mpr ⟨.inl hclause, hbetween⟩⟩

end Faults

/-- Two clauses or more in a row are the query that requires, allows or prohibits what each of them
is by itself. The role comes from the sign, and next to AND an unsigned clause is required. The row
is refused if a connective stands before its first clause, behind its last one or next to another
connective. -/
theorem parse_row {row : Row} (many : 2 ≤ row.pieces.countP Piece.isClause)
    (accepted : ∀ c, .clause c ∈ row.pieces → c.IsAccepted scope) :
    (WellJoined row.pieces →
      parse scope row.text = .ok (bool (clausesOf none row.pieces) 1)) ∧
    (¬ WellJoined row.pieces →
      ∃ operator, parse scope row.text = .error (.unexpectedOperator operator) ∨
        parse scope row.text = .error (.danglingOperator operator)) := by
  rw [parse_eq_join accepted]
  refine ⟨fun h => join_of_wellJoined h many, fun h => ?_⟩
  rcases hjoin : join [] none row.pieces with fault | query
  · obtain ⟨operator, hfault⟩ := fault_of_join (.inr (List.cons_ne_nil _ _)) hjoin
    refine ⟨operator, ?_⟩
    rcases hfault with rfl | rfl
    · exact .inl rfl
    · exact .inr rfl
  · obtain ⟨hfirst, hlast, hbetween⟩ := wellJoined_of_join hjoin
    refine absurd ⟨?_, hlast, hbetween⟩ h
    intro piece hpiece
    exact (hfirst piece hpiece).resolve_right fun hopen => hopen.1 rfl

def oneSpace : Spacing := ⟨[' '], by decide, List.cons_ne_nil ' ' []⟩

def joinedRow (red fine dry : Query) : Row where
  first := .clause ⟨.bare, "red", red⟩
  others := [(oneSpace, .connective .and), (oneSpace, .clause ⟨.bare, "(fine pen)^2", fine⟩),
    (oneSpace, .connective .or), (oneSpace, .clause ⟨.not, "note:\"dry ink\"", dry⟩)]

def danglingRow (red fine : Query) : Row where
  first := .clause ⟨.bare, "red", red⟩
  others := [(oneSpace, .clause ⟨.bare, "(fine pen)^2", fine⟩), (oneSpace, .connective .or)]

theorem parse_row_pens : ∃ red fine dry : Query,
    parse ⟨.standard, ["name"]⟩ "red" = .ok red ∧
    parse ⟨.standard, ["name"]⟩ "(fine pen)^2" = .ok fine ∧
    parse ⟨.standard, ["name"]⟩ "note:\"dry ink\"" = .ok dry ∧
    parse ⟨.standard, ["name"]⟩ "red AND (fine pen)^2 OR NOT note:\"dry ink\"" =
      .ok (bool [(.required, red), (.required, fine), (.prohibited, dry)] 1) ∧
    ∃ operator,
      parse ⟨.standard, ["name"]⟩ "red (fine pen)^2 OR" = .error (.unexpectedOperator operator) ∨
      parse ⟨.standard, ["name"]⟩ "red (fine pen)^2 OR" = .error (.danglingOperator operator) := by
  have hok : ∀ text ∈ ["red", "(fine pen)^2", "note:\"dry ink\""],
      (parse ⟨.standard, ["name"]⟩ text).isOk = true := by decide +kernel
  obtain ⟨red, hred⟩ := exists_of_isOk (hok "red" (by simp))
  obtain ⟨fine, hfine⟩ := exists_of_isOk (hok "(fine pen)^2" (by simp))
  obtain ⟨dry, hdry⟩ := exists_of_isOk (hok "note:\"dry ink\"" (by simp))
  have hword : IsPrimary "red".toList :=
    .boosted (@IsOperand.word ['r', 'e', 'd'] (by simp) (by decide) (by simp) (by decide)) .none
  have hgroup : IsPrimary "(fine pen)^2".toList :=
    .boosted (.group (.of_plain (by decide) : Balanced "fine pen".toList))
      (@IsBoost.number ['2'] (by decide))
  have hphrase : IsPrimary "note:\"dry ink\"".toList :=
    .boosted (@IsOperand.fieldPhrase "note" "dry ink".toList (by decide) (by decide)) .none
  have hjoined := @parse_row ⟨.standard, ["name"]⟩ (joinedRow red fine dry) (Nat.le_succ 2) (by
    simp only [joinedRow, Row.pieces, List.map_cons, List.map_nil, List.mem_cons,
      Piece.clause.injEq, List.not_mem_nil, reduceCtorEq, false_or, or_false]
    rintro c (rfl | rfl | rfl)
    · exact ⟨hword, hred⟩
    · exact ⟨hgroup, hfine⟩
    · exact ⟨hphrase, hdry⟩)
  have hdangling := @parse_row ⟨.standard, ["name"]⟩ (danglingRow red fine) (Nat.le_refl 2) (by
    simp only [danglingRow, Row.pieces, List.map_cons, List.map_nil, List.mem_cons,
      Piece.clause.injEq, List.not_mem_nil, reduceCtorEq, or_false]
    rintro c (rfl | rfl)
    · exact ⟨hword, hred⟩
    · exact ⟨hgroup, hfine⟩)
  have hjoinedText : (joinedRow red fine dry).text =
      "red AND (fine pen)^2 OR NOT note:\"dry ink\"" := by
    apply String.toList_injective
    simp [joinedRow, Row.text, Row.spaced, Piece.chars, Sign.chars, Connective.word, oneSpace]
  have hdanglingText : (danglingRow red fine).text = "red (fine pen)^2 OR" := by
    apply String.toList_injective
    simp [danglingRow, Row.text, Row.spaced, Piece.chars, Sign.chars, Connective.word, oneSpace]
  rw [hjoinedText] at hjoined
  rw [hdanglingText] at hdangling
  refine ⟨red, fine, dry, hred, hfine, hdry, hjoined.1 ⟨?_, ?_, ?_⟩, hdangling.2 fun h => ?_⟩
  · simp [joinedRow, Row.pieces, Piece.isClause]
  · simp [joinedRow, Row.pieces, Piece.isClause]
  · simp [joinedRow, Row.pieces, Piece.isClause]
  · cases h.last _ rfl

end PagedSearch.Query
