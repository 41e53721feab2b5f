import PagedSearch.Order.Hits

/-! # Collectors -/

namespace PagedSearch

def Hit.ranksBefore (a b : Hit) : Bool :=
  ((b.score.compareTotal a.score).then (compare a.id b.id)).isLT

/-- The best hits by score out of all that were offered, in a heap with the worst of them on top.
No more than the top of a heap can be looked at, so the order of the others means nothing. -/
structure ScoreCollector where
  capacity : Nat
  heap : List Hit
  total : Nat
deriving DecidableEq

namespace ScoreCollector

def ofCapacity (capacity : Nat) : ScoreCollector := ⟨capacity, [], 0⟩

def worst? : List Hit → Option Hit
  | [] => none
  | hit :: rest =>
    match worst? rest with
    | some other => some (if hit.ranksBefore other then other else hit)
    | none => some hit

def kept (c : ScoreCollector) : List Hit := c.heap.mergeSort fun a b => !b.ranksBefore a

def collect (c : ScoreCollector) (hit : Hit) : ScoreCollector :=
  let counted := { c with total := c.total + 1 }
  if c.capacity = 0 then
    counted
  else if c.heap.length < c.capacity then
    { counted with heap := hit :: c.heap }
  else
    match worst? c.heap with
    | some worst =>
      if hit.ranksBefore worst then { counted with heap := hit :: c.heap.erase worst }
      else counted
    | none => counted

end ScoreCollector

structure FieldCollector where
  capacity : Nat
  kept : Array KeyedHit
  total : Nat
deriving DecidableEq

namespace FieldCollector

def ofCapacity (capacity : Nat) : FieldCollector := ⟨capacity, #[], 0⟩

def hits (c : FieldCollector) : List Hit := c.kept.toList.map KeyedHit.hit

/-- The place of an entry behind all that do not rank after it, found by halving the range of
places. A comparison that fails ends the search. -/
def insertionPlace (spec : SortSpec) (kept : Array KeyedHit) (entry : KeyedHit)
    (low high : Nat) : Except OrderFault Nat :=
  if _inside : low < high then
    let middle := low + (high - low) / 2
    match kept[middle]? with
    | some other =>
      match spec.compareKeyed other entry with
      | .ok .gt => insertionPlace spec kept entry low middle
      | .ok _ => insertionPlace spec kept entry (middle + 1) high
      | .error fault => .error fault
    | none => .ok low
  else
    .ok low
termination_by high - low
decreasing_by all_goals omega

/-- The entries kept once another one is offered. When there is no room, an entry that does not
rank before the last one is turned away without a search. -/
def keep (spec : SortSpec) (capacity : Nat) (kept : Array KeyedHit) (entry : KeyedHit) :
    Except OrderFault (Array KeyedHit) := do
  if capacity ≤ kept.size then
    match kept.back? with
    | some last =>
      if (← spec.compareKeyed entry last) ≠ .lt then
        return kept
    | none => pure ()
  let place ← insertionPlace spec kept entry 0 kept.size
  return (kept.insertIdxIfInBounds place entry).take capacity

/-- Offers a hit of a session. A hit that cannot be placed counts all the same. -/
def collect (spec : SortSpec) (session : Session) (c : FieldCollector) (hit : Hit) :
    FieldCollector × Option OrderFault :=
  let counted := { c with total := c.total + 1 }
  if c.capacity = 0 then
    (counted, none)
  else
    match (spec.keyedHit session hit).bind (keep spec c.capacity c.kept) with
    | .ok kept => ({ counted with kept }, none)
    | .error fault => (counted, some fault)

def collectAll (spec : SortSpec) (session : Session) (c : FieldCollector) :
    List Hit → Except OrderFault FieldCollector
  | [] => .ok c
  | hit :: rest =>
    match c.collect spec session hit with
    | (next, none) => collectAll spec session next rest
    | (_, some fault) => .error fault

end FieldCollector

end PagedSearch
