import PagedSearch.Session.Basic
import PagedSearch.Query.Syntax

/-! # Runs of session operations -/

namespace PagedSearch

inductive SessionSlot where
  | bare (session : Session)
  | guarded (guard : SessionGuard)
  | dropped

namespace SessionSlot

def session? : SessionSlot → Option Session
  | bare session => some session
  | guarded guard => some guard.session
  | dropped => none

end SessionSlot

inductive SessionRead where
  | location
  | count
  | fields
  | document (id : Nat)
  | search (fields : List String) (query : String)
  | isClosed
  | isReleased

inductive SessionAction where
  | openAt (location : String)
  | read (slot : Nat) (what : SessionRead)
  | close (slot : Nat)
  | guard (slot : Nat)
  | release (slot : Nat)
  | drop (slot : Nat)

inductive SessionReply where
  | done
  | slot (number : Nat)
  | location (location : String)
  | count (n : Nat)
  | fields (names : List String)
  | document (d : Document)
  | hits (hits : List Hit)
  | flag (b : Bool)
  | fault (fault : IndexFault)
  | queryFault (text : String) (fault : QueryFault)

structure SessionDesk where
  source : IndexSource
  counters : SessionCounts
  slots : Array SessionSlot

namespace SessionDesk

def ofSource (source : IndexSource) : SessionDesk := ⟨source, .zero, #[]⟩

def replyOf {α : Type} (result : Except IndexFault α) (reply : α → SessionReply) : SessionReply :=
  match result with
  | .ok value => reply value
  | .error fault => .fault fault

def answer (slot : SessionSlot) (session : Session) : SessionRead → SessionReply
  | .location => .location session.location
  | .count => replyOf session.documentCount .count
  | .fields => replyOf session.fieldNames .fields
  | .document id => replyOf (session.document id) .document
  | .search fields text =>
    match Query.parse ⟨.standard, fields⟩ text with
    | .ok query => replyOf (session.hits query) .hits
    | .error fault => .queryFault text fault
  | .isClosed => .flag session.isClosed
  | .isReleased =>
    match slot with
    | .guarded guard => .flag guard.released
    | _ => .flag false

def closeSlot (desk : SessionDesk) (number : Nat) (session : Session)
    (slot : Session → SessionSlot) : SessionDesk :=
  let (counters, session) := desk.counters.close session
  { desk with counters, slots := desk.slots.setIfInBounds number (slot session) }

/-- Performs one operation. Operations on a number that holds no session do nothing. -/
def perform (desk : SessionDesk) : SessionAction → SessionDesk × SessionReply
  | .openAt location =>
    match desk.source.openSession desk.counters location with
    | .ok (counters, session) =>
      ({ desk with counters, slots := desk.slots.push (.bare session) }, .slot desk.slots.size)
    | .error fault => (desk, .fault fault)
  | .read number what =>
    match desk.slots[number]? with
    | some slot =>
      match slot.session? with
      | some session => (desk, answer slot session what)
      | none => (desk, .done)
    | none => (desk, .done)
  | .close number =>
    match desk.slots[number]? with
    | some (.bare session) => (desk.closeSlot number session .bare, .done)
    | some (.guarded guard) =>
      (desk.closeSlot number guard.session (.guarded ⟨·, guard.released⟩), .done)
    | _ => (desk, .done)
  | .guard number =>
    match desk.slots[number]? with
    | some (.bare session) =>
      ({ desk with slots := desk.slots.setIfInBounds number (.guarded (.ofSession session)) },
        .done)
    | _ => (desk, .done)
  | .release number =>
    match desk.slots[number]? with
    | some (.guarded guard) =>
      let (counters, guard) := guard.release desk.counters
      ({ desk with counters, slots := desk.slots.setIfInBounds number (.guarded guard) },
        .flag guard.released)
    | _ => (desk, .done)
  | .drop number =>
    match desk.slots[number]? with
    | some (.guarded guard) =>
      ({ desk with
          counters := guard.drop desk.counters
          slots := desk.slots.setIfInBounds number .dropped }, .done)
    | _ => ({ desk with slots := desk.slots.setIfInBounds number .dropped }, .done)

def run (desk : SessionDesk) (actions : List SessionAction) : SessionDesk :=
  actions.foldl (fun desk action => (desk.perform action).1) desk

end SessionDesk

end PagedSearch
