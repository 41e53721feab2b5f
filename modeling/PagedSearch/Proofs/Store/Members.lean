import Mathlib.Data.List.Induction
import Mathlib.Data.List.Nodup
import PagedSearch.Proofs.Outcome
import PagedSearch.Store.Lines

/-! # Documents from members -/

namespace PagedSearch

namespace Json

def firstKeys (written : List (String × Json)) : List String := (written.map Prod.fst).eraseDups

def lastValue (written : List (String × Json)) (key : String) : Json :=
  (written.reverse.lookup key).getD .null

def Writes (line : String) (written : List (String × Json)) : Prop :=
  ∃ members, JsonTree.read? line.toList = some (.object members) ∧
    List.Forall₂ (fun member (entry : String × Json) => member.1 = some entry.1 ∧
      ofTree? (nestingLimit - 1) member.2 = some entry.2) members written

section Keys

variable {keys : List String} {key : String} {value : Json}

private theorem eraseDups_concat (keys : List String) (key : String) :
    (keys ++ [key]).eraseDups =
      if key ∈ keys then keys.eraseDups else keys.eraseDups ++ [key] := by
  rw [List.eraseDups_append, List.removeAll]
  by_cases hkey : key ∈ keys
  · simp [hkey]
  · simp [hkey, List.eraseDups_cons]

private theorem nodup_eraseDups (keys : List String) : keys.eraseDups.Nodup := by
  induction keys using List.reverseRecOn with
  | nil => exact .nil
  | append_singleton keys key ih =>
    rw [eraseDups_concat]
    split
    · exact ih
    · rename_i hkey
      exact List.Nodup.append ih (List.nodup_singleton key) (by simpa using hkey)

private theorem insertMember_map (hkeys : keys.Nodup) (values : String → Json) :
    insertMember key value (keys.map fun k => (k, values k)) =
      (if key ∈ keys then keys else keys ++ [key]).map fun k =>
        (k, if k = key then value else values k) := by
  induction keys with
  | nil => simp [insertMember]
  | cons first rest ih =>
    obtain ⟨hfirst, hrest⟩ := List.nodup_cons.mp hkeys
    rw [List.map_cons, insertMember]
    by_cases hkey : first = key
    · subst hkey
      have hothers : rest.map (fun k => (k, values k)) =
          rest.map fun k => (k, if k = first then value else values k) := by
        refine List.map_congr_left fun k hk => ?_
        rw [if_neg]
        rintro rfl
        exact hfirst hk
      rw [if_pos rfl, if_pos List.mem_cons_self, List.map_cons, if_pos rfl, hothers]
    · rw [if_neg hkey, ih hrest]
      by_cases hmem : key ∈ rest
      · simp [hkey, hmem]
      · simp [hkey, hmem, Ne.symm hkey]

private theorem foldl_insertMember (written : List (String × Json)) :
    written.foldl (fun known member => insertMember member.1 member.2 known) [] =
      (firstKeys written).map fun key => (key, lastValue written key) := by
  induction written using List.reverseRecOn with
  | nil => rfl
  | append_singleton written member ih =>
    have hkeys : firstKeys (written ++ [member]) = if member.1 ∈ firstKeys written then
        firstKeys written else firstKeys written ++ [member.1] := by
      rw [firstKeys, List.map_append, List.map_singleton, eraseDups_concat]
      simp only [firstKeys, List.mem_eraseDups]
    have hvalues (key : String) : lastValue (written ++ [member]) key =
        if key = member.1 then member.2 else lastValue written key := by
      rw [lastValue, List.reverse_concat, List.lookup_cons, lastValue]
      by_cases hkey : key = member.1
      · simp [hkey]
      · rw [if_neg hkey, beq_eq_false_iff_ne.mpr hkey]
    have hnodup : (firstKeys written).Nodup := nodup_eraseDups _
    rw [List.foldl_concat, ih, insertMember_map hnodup, hkeys]
    exact List.map_congr_left fun key _ => by rw [hvalues]

end Keys

section Trees

private theorem ofMembers?_eq_some_iff {nesting : Nat} {known : List (String × Json)}
    {members : List (Option String × JsonTree)} {result : List (String × Json)} :
    ofMembers? nesting known members = some result ↔ ∃ written,
      List.Forall₂ (fun member (entry : String × Json) => member.1 = some entry.1 ∧
        ofTree? nesting member.2 = some entry.2) members written ∧
      result = written.foldl (fun known member => insertMember member.1 member.2 known) known := by
  induction members generalizing known with
  | nil => simp [ofMembers?, eq_comm]
  | cons member rest ih =>
    obtain ⟨key?, tree⟩ := member
    simp only [ofMembers?, List.forall₂_cons_left_iff, Option.bind_eq_bind,
      Option.bind_eq_some_iff, ih]
    constructor
    · rintro ⟨key, hkey, value, hvalue, written, hwritten, hresult⟩
      exact ⟨(key, value) :: written, ⟨_, _, ⟨hkey, hvalue⟩, hwritten, rfl⟩, hresult⟩
    · rintro ⟨_, ⟨⟨key, value⟩, written, ⟨hkey, hvalue⟩, hwritten, rfl⟩, hresult⟩
      exact ⟨key, hkey, value, hvalue, written, hwritten, hresult⟩

theorem read?_eq_object_iff {line : String} {members : List (String × Json)} :
    read? line.toList = some (.object members) ↔ ∃ written, Writes line written ∧
      members = (firstKeys written).map fun key => (key, lastValue written key) := by
  rw [read?, Option.bind_eq_some_iff]
  constructor
  · rintro ⟨tree, htree, hvalue⟩
    cases tree with
    | object trees =>
      rw [ofTree?, if_neg (by decide), Option.map_eq_some_iff] at hvalue
      obtain ⟨result, hresult, hobject⟩ := hvalue
      cases hobject
      obtain ⟨written, hwritten, rfl⟩ := ofMembers?_eq_some_iff.mp hresult
      exact ⟨written, ⟨trees, htree, hwritten⟩, foldl_insertMember written⟩
    | number literal =>
      rw [ofTree?, Option.map_eq_some_iff] at hvalue
      obtain ⟨number, -, hnumber⟩ := hvalue
      cases number <;> cases hnumber
    | _ => simp [ofTree?] at hvalue
  · rintro ⟨written, ⟨trees, htree, hwritten⟩, rfl⟩
    refine ⟨.object trees, htree, ?_⟩
    rw [ofTree?, if_neg (by decide), ofMembers?_eq_some_iff.mpr ⟨written, hwritten, rfl⟩,
      foldl_insertMember]
    rfl

end Trees

def IsContainer : Json → Prop
  | .list _ | .object _ => True
  | _ => False

/-- Whether a value cannot be stored: an object, or a list with a list or an object in it. -/
def IsNested : Json → Prop
  | .object _ => True
  | .list items => ∃ item ∈ items, IsContainer item
  | _ => False

/-- What is stored of a value that is not nested: the scalar, or the scalars in the list. Null is
left out. -/
def stored : Json → List StoredValue
  | .list items => items.filterMap StoredValue.ofScalar?
  | value => (StoredValue.ofScalar? value).toList

instance : DecidablePred IsContainer := fun value => by
  cases value <;> simp only [IsContainer] <;> infer_instance

instance : DecidablePred IsNested := fun value => by
  cases value <;> simp only [IsNested] <;> infer_instance

end Json

namespace Document

open Json (IsContainer IsNested Writes firstKeys lastValue stored)

private theorem scalarFields_eq (key : String) (value : Json) : scalarFields key value =
    if IsContainer value then .error (.nested key)
    else .ok ((StoredValue.ofScalar? value).toList.map (StoredField.mk key)) := by
  cases value <;> rfl

private theorem memberFields_eq (key : String) (value : Json) : memberFields key value =
    if IsNested value then .error (.nested key)
    else .ok ((stored value).map (StoredField.mk key)) := by
  cases value with
  | list items =>
    rw [memberFields]
    cases hitems : items.mapM (scalarFields key) with
    | error cause =>
      obtain ⟨before, item, after, rfl, -, hitem, rfl⟩ :=
        (mapM_guarded_eq_error_iff (scalarFields_eq key)).mp hitems
      have hnested : IsNested (.list (before ++ item :: after)) := ⟨item, by simp, hitem⟩
      rw [if_pos hnested]
      rfl
    | ok fields =>
      obtain ⟨hnone, rfl⟩ := (mapM_guarded_eq_ok_iff (scalarFields_eq key)).mp hitems
      have hplain : ¬ IsNested (.list items) := fun ⟨item, hmem, hitem⟩ => hnone item hmem hitem
      rw [if_neg hplain, stored, List.filterMap_eq_flatMap_toList, List.map_flatMap, List.flatMap]
      rfl
  | _ => rfl

variable {line : String} {written : List (String × Json)}

private theorem ofLine_of_writes (hwritten : Writes line written) : ofLine line =
    ((firstKeys written).mapM fun key => memberFields key (lastValue written key)).map
      fun fields => ⟨fields.flatten⟩ := by
  rw [ofLine, Json.read?_eq_object_iff.mpr ⟨written, hwritten, rfl⟩]
  dsimp only
  rw [List.mapM_map]
  rfl

private theorem exists_writes_of_ofLine {d : Document} (h : ofLine line = .ok d) :
    ∃ written, Writes line written := by
  rw [ofLine] at h
  split at h
  · cases h
  · rename_i members hread
    obtain ⟨written, hwritten, -⟩ := Json.read?_eq_object_iff.mp hread
    exact ⟨written, hwritten⟩
  · cases h

theorem ofLine_eq_ok_of_writes (hwritten : Writes line written) {d : Document} :
    ofLine line = .ok d ↔ (∀ key ∈ firstKeys written, ¬ IsNested (lastValue written key)) ∧
      d.fields = (firstKeys written).flatMap fun key =>
        (stored (lastValue written key)).map (StoredField.mk key) := by
  rw [ofLine_of_writes hwritten, map_eq_ok_iff]
  simp only [mapM_guarded_eq_ok_iff fun key => memberFields_eq key (lastValue written key)]
  constructor
  · rintro ⟨_, ⟨hplain, rfl⟩, rfl⟩
    exact ⟨hplain, rfl⟩
  · rintro ⟨hplain, hfields⟩
    exact ⟨_, ⟨hplain, rfl⟩, congrArg Document.mk hfields.symm⟩

/-- A line holds a document if it holds an object and none of the values that count is nested. The
document stores what there is to store of these values. -/
theorem ofLine_eq_ok_iff {d : Document} :
    ofLine line = .ok d ↔ ∃ written, Writes line written ∧
      (∀ key ∈ firstKeys written, ¬ IsNested (lastValue written key)) ∧
      d.fields = (firstKeys written).flatMap fun key =>
        (stored (lastValue written key)).map (StoredField.mk key) := by
  constructor
  · intro h
    obtain ⟨written, hwritten⟩ := exists_writes_of_ofLine h
    exact ⟨written, hwritten, (ofLine_eq_ok_of_writes hwritten).mp h⟩
  · rintro ⟨written, hwritten, hd⟩
    exact (ofLine_eq_ok_of_writes hwritten).mpr hd

/-- A line that holds an object is refused for the first key with a nested value. -/
theorem ofLine_eq_error_iff (hwritten : Writes line written) {fault : LineFault} :
    ofLine line = .error fault ↔ ∃ before key after, firstKeys written = before ++ key :: after ∧
      (∀ earlier ∈ before, ¬ IsNested (lastValue written earlier)) ∧
      IsNested (lastValue written key) ∧ .nested key = fault := by
  rw [ofLine_of_writes hwritten, map_eq_error_iff,
    mapM_guarded_eq_error_iff fun key => memberFields_eq key (lastValue written key)]

end Document

end PagedSearch
