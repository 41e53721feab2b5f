import Mathlib.Data.List.Nodup
import Std.Data.TreeMap.Lemmas
import PagedSearch.Order.Registry
import PagedSearch.Proofs.Outcome

/-!
# Runs of aliases

An alias is accepted if its target is registered, whatever its own name is. Accepted aliases never
take anything from the registered identifiers, so they can be resolved ever after. But a name is
looked up among the aliases first: an alias with the name of a registered identifier hides it.
-/

namespace PagedSearch

namespace Registry

variable {registry : Registry} {name target : String}

/-- The registry after a call that adds an alias, given as its name and its target. A refused call
leaves the registry as it was. -/
def afterCall (registry : Registry) (call : String × String) : Registry :=
  match registry.insertAlias call.1 call.2 with
  | .ok extended => extended
  | .error _ => registry

def afterCalls (registry : Registry) (calls : List (String × String)) : Registry :=
  calls.foldl afterCall registry

def lastTarget? (registry : Registry) (calls : List (String × String)) (name : String) :
    Option String :=
  (calls.filter fun call => registry.constructors.contains call.2).reverse.lookup name

private theorem mem_identifiers :
    name ∈ registry.identifiers ↔ registry.constructors.contains name := by
  rw [identifiers, Std.TreeMap.mem_keys, Std.TreeMap.contains_iff_mem]

private theorem insertAlias_eq_error_iff {fault : AliasFault} :
    registry.insertAlias name target = .error fault ↔
      target ∉ registry.identifiers ∧ fault = ⟨name, target⟩ := by
  rw [mem_identifiers, insertAlias]
  cases registry.constructors.contains target <;> simp [@eq_comm _ fault]

theorem afterCall_cases (registry : Registry) (call : String × String) :
    (registry.constructors.contains call.2 = true ∧ registry.afterCall call =
      { registry with aliases := registry.aliases.insert call.1 call.2 }) ∨
    (registry.constructors.contains call.2 = false ∧ registry.afterCall call = registry) := by
  unfold afterCall insertAlias
  cases hregistered : registry.constructors.contains call.2
  · exact .inr ⟨rfl, rfl⟩
  · exact .inl ⟨rfl, rfl⟩

private theorem afterCalls_append (registry : Registry) (calls later : List (String × String)) :
    registry.afterCalls (calls ++ later) = (registry.afterCalls calls).afterCalls later :=
  List.foldl_append

section Run

variable (registry) (calls : List (String × String))

private theorem constructors_afterCalls :
    (registry.afterCalls calls).constructors = registry.constructors := by
  induction calls generalizing registry with
  | nil => rfl
  | cons call calls ih =>
    refine (ih (registry.afterCall call)).trans ?_
    rcases registry.afterCall_cases call with ⟨-, hcall⟩ | ⟨-, hcall⟩ <;> rw [hcall]

private theorem identifiers_afterCalls :
    (registry.afterCalls calls).identifiers = registry.identifiers := by
  rw [identifiers, constructors_afterCalls, identifiers]

/-- After a run a name stands for what its last accepted call says. -/
theorem identifierOf_afterCalls (name : String) : (registry.afterCalls calls).identifierOf name =
    (registry.lastTarget? calls name).getD (registry.identifierOf name) := by
  induction calls generalizing registry with
  | nil => rfl
  | cons call calls ih =>
    refine (ih (registry.afterCall call)).trans ?_
    rcases registry.afterCall_cases call with ⟨hregistered, hcall⟩ | ⟨hregistered, hcall⟩
    · have hown : (registry.afterCall call).identifierOf name =
          ([call].lookup name).getD (registry.identifierOf name) := by
        obtain ⟨other, target⟩ := call
        rw [hcall, identifierOf, Std.TreeMap.getD_insert, List.lookup_cons, List.lookup_nil]
        by_cases hname : other = name
        · simp [hname]
        · simp [hname, beq_false_of_ne (Ne.symm hname), identifierOf]
      have hlast : registry.lastTarget? (call :: calls) name =
          ((registry.afterCall call).lastTarget? calls name).or ([call].lookup name) := by
        rw [lastTarget?, List.filter_cons, if_pos hregistered, List.reverse_cons,
          List.lookup_append, hcall, lastTarget?]
      rw [hown, hlast]
      cases (registry.afterCall call).lastTarget? calls name <;> rfl
    · rw [hcall, lastTarget?, lastTarget?, List.filter_cons_of_neg (by simp [hregistered])]

private theorem mem_identifiers_of_lastTarget? {registry : Registry}
    {calls : List (String × String)} (h : registry.lastTarget? calls name = some target) :
    target ∈ registry.identifiers := by
  obtain ⟨before, after, hsplit, -⟩ := List.lookup_eq_some_iff.mp h
  have hmem : (name, target) ∈ calls.filter fun call => registry.constructors.contains call.2 := by
    rw [← List.mem_reverse, hsplit]
    simp
  exact mem_identifiers.mpr (List.mem_filter.mp hmem).2

private theorem exists_lastTarget? {registry : Registry} {calls : List (String × String)}
    (hcall : (name, target) ∈ calls) (htarget : target ∈ registry.identifiers) :
    ∃ last, registry.lastTarget? calls name = some last := by
  cases hlast : registry.lastTarget? calls name with
  | some last => exact ⟨last, rfl⟩
  | none =>
    have hmem : (name, target) ∈
        (calls.filter fun call => registry.constructors.contains call.2).reverse :=
      List.mem_reverse.mpr (List.mem_filter.mpr ⟨hcall, mem_identifiers.mp htarget⟩)
    simpa using List.lookup_eq_none_iff.mp hlast _ hmem

private theorem identifierOf_afterCalls_mem {registry extended : Registry}
    (haccepted : registry.insertAlias name target = .ok extended)
    (later : List (String × String)) :
    (extended.afterCalls later).identifierOf name ∈ registry.identifiers := by
  have htarget : target ∈ registry.identifiers := by
    by_contra hmissing
    rw [insertAlias_eq_error_iff.mpr ⟨hmissing, rfl⟩] at haccepted
    cases haccepted
  have hrun : extended.afterCalls later = registry.afterCalls ((name, target) :: later) := by
    show _ = (registry.afterCall (name, target)).afterCalls later
    rw [afterCall, haccepted]
  have hcall : (name, target) ∈ (name, target) :: later := List.mem_cons_self
  obtain ⟨last, hlast⟩ := exists_lastTarget? hcall htarget
  rw [hrun, identifierOf_afterCalls, hlast]
  exact mem_identifiers_of_lastTarget? hlast

end Run

private theorem resolve_eq_ok_iff {parameters : List String} {comparator : ValueComparator} :
    registry.resolve name parameters = .ok comparator ↔
      ∃ recipes, registry.constructors[registry.identifierOf name]? = some recipes ∧
        firstApplied parameters recipes = .ok comparator := by
  rw [resolve]
  cases registry.constructors[registry.identifierOf name]? with
  | none => simp
  | some recipes => simp [mapError_eq_ok_iff]

section Builtin

variable {calls : List (String × String)}

private theorem resolve_builtin_plain : builtin.identifiers.map (builtin.resolve · []) =
    [.ok (.articleSkipping ComparatorRecipe.defaultArticles), .ok .length, .ok (.numeric none)] :=
  rfl

private theorem exists_resolve_builtin (h : name ∈ builtin.identifiers) :
    ∃ comparator, builtin.resolve name [] = .ok comparator := by
  have hplain := List.mem_map_of_mem (f := (builtin.resolve · [])) h
  rw [resolve_builtin_plain] at hplain
  simp only [List.mem_cons, List.not_mem_nil, or_false] at hplain
  rcases hplain with hplain | hplain | hplain <;> exact ⟨_, hplain⟩

private theorem eq_of_resolve_builtin (hname : name ∈ builtin.identifiers)
    (htarget : target ∈ builtin.identifiers)
    (h : builtin.resolve name [] = builtin.resolve target []) : name = target := by
  have hnodup : (builtin.identifiers.map (builtin.resolve · [])).Nodup := by
    rw [resolve_builtin_plain]
    simp
  exact List.inj_on_of_nodup_map hnodup hname htarget h

private theorem resolve_afterCalls_iff (hname : name ∈ builtin.identifiers) :
    (∀ parameters, (builtin.afterCalls calls).resolve name parameters =
        builtin.resolve name parameters) ↔
      ∀ target, builtin.lastTarget? calls name = some target → target = name := by
  constructor
  · intro hsame target hlast
    have htarget := mem_identifiers_of_lastTarget? hlast
    obtain ⟨comparator, hplain⟩ := exists_resolve_builtin htarget
    have hafter : (builtin.afterCalls calls).resolve name [] = .ok comparator := by
      rw [resolve_eq_ok_iff] at hplain ⊢
      rw [constructors_afterCalls, identifierOf_afterCalls, hlast]
      exact hplain
    refine eq_of_resolve_builtin htarget hname ?_
    rw [hplain, ← hsame, hafter]
  · intro hlast parameters
    have hown : (builtin.afterCalls calls).identifierOf name = builtin.identifierOf name := by
      rw [identifierOf_afterCalls]
      cases htarget : builtin.lastTarget? calls name with
      | none => rfl
      | some target => exact hlast target htarget
    rw [resolve, resolve, hown, constructors_afterCalls]

/-- After any calls that add aliases, accepted or refused, a registered identifier is resolved as
before if and only if the last accepted call for it as a name leads to itself, if there is one. A
refused call names its alias and a target that is not registered, and it changes no name. What was
accepted as an alias stands for a registered identifier after all later calls. -/
theorem resolve_afterCalls (calls : List (String × String)) :
    (∀ name ∈ builtin.identifiers,
      (∀ parameters, (builtin.afterCalls calls).resolve name parameters =
          builtin.resolve name parameters) ↔
        ∀ target, builtin.lastTarget? calls name = some target → target = name) ∧
    (∀ name target fault, (builtin.afterCalls calls).insertAlias name target = .error fault →
      fault = ⟨name, target⟩ ∧ target ∉ builtin.identifiers ∧
      ∀ other,
        (builtin.afterCalls (calls ++ [(name, target)])).contains other =
          (builtin.afterCalls calls).contains other ∧
        ∀ parameters, (builtin.afterCalls (calls ++ [(name, target)])).resolve other parameters =
          (builtin.afterCalls calls).resolve other parameters) ∧
    ∀ name target extended,
      (builtin.afterCalls calls).insertAlias name target = .ok extended →
      extended = builtin.afterCalls (calls ++ [(name, target)]) ∧
      ∀ later, (extended.afterCalls later).contains name = true ∧
        (extended.afterCalls later).identifierOf name ∈ builtin.identifiers := by
  refine ⟨fun name => resolve_afterCalls_iff, fun name target fault hrefused => ?_,
    fun name target extended haccepted => ?_⟩
  · have hsame : builtin.afterCalls (calls ++ [(name, target)]) = builtin.afterCalls calls := by
      rw [afterCalls_append]
      show (builtin.afterCalls calls).afterCall (name, target) = _
      rw [afterCall, hrefused]
    obtain ⟨htarget, hfault⟩ := insertAlias_eq_error_iff.mp hrefused
    rw [identifiers_afterCalls] at htarget
    rw [hsame]
    exact ⟨hfault, htarget, fun other => ⟨rfl, fun parameters => rfl⟩⟩
  · have hrun : extended = builtin.afterCalls (calls ++ [(name, target)]) := by
      rw [afterCalls_append]
      show _ = (builtin.afterCalls calls).afterCall (name, target)
      rw [afterCall, haccepted]
    refine ⟨hrun, fun later => ?_⟩
    have hidentifier := identifierOf_afterCalls_mem haccepted later
    rw [identifiers_afterCalls] at hidentifier
    refine ⟨?_, hidentifier⟩
    rw [contains, ← mem_identifiers, identifiers_afterCalls, hrun, identifiers_afterCalls, ← hrun]
    exact hidentifier

def hidingCalls : List (String × String) :=
  [("my.ByLength", lengthIdentifier), ("my.Other", "no.Comparator"),
    (lengthIdentifier, numericIdentifier)]

theorem resolve_afterCalls_hiding :
    numericIdentifier ∈ builtin.identifiers ∧ lengthIdentifier ∈ builtin.identifiers ∧
    (∀ parameters, (builtin.afterCalls hidingCalls).resolve numericIdentifier parameters =
      builtin.resolve numericIdentifier parameters) ∧
    (¬ ∀ parameters, (builtin.afterCalls hidingCalls).resolve lengthIdentifier parameters =
      builtin.resolve lengthIdentifier parameters) ∧
    "my.ByLength" ∉ builtin.identifiers ∧
    (builtin.afterCalls (("my.Articles", articleSkippingIdentifier) :: hidingCalls)).contains
      "my.Articles" = true := by
  have hregistered : numericIdentifier ∈ builtin.identifiers ∧
      lengthIdentifier ∈ builtin.identifiers := by
    decide +kernel
  obtain ⟨hresolve, hrefused, -⟩ := resolve_afterCalls hidingCalls
  obtain ⟨-, -, haccepted⟩ := resolve_afterCalls []
  have hkept : ∀ target, builtin.lastTarget? hidingCalls numericIdentifier = some target →
      target = numericIdentifier := by
    have hnone : builtin.lastTarget? hidingCalls numericIdentifier = none := by decide +kernel
    simp [hnone]
  refine ⟨hregistered.1, hregistered.2, (hresolve _ hregistered.1).mpr hkept, ?_,
    (hrefused "my.Again" "my.ByLength" _ rfl).2.1,
    ((haccepted "my.Articles" articleSkippingIdentifier _ rfl).2 hidingCalls).1⟩
  intro hsame
  have hlast : builtin.lastTarget? hidingCalls lengthIdentifier = some numericIdentifier := by
    decide +kernel
  exact absurd ((hresolve _ hregistered.2).mp hsame _ hlast) (by decide)

/-- An alias may have the name of a registered identifier, which is then resolved to the comparator
of another. -/
theorem resolve_hidden :
    lengthIdentifier ∈ builtin.identifiers ∧
    builtin.insertAlias lengthIdentifier numericIdentifier =
      .ok (builtin.afterCalls [(lengthIdentifier, numericIdentifier)]) ∧
    builtin.resolve lengthIdentifier [] = .ok .length ∧
    (builtin.afterCalls [(lengthIdentifier, numericIdentifier)]).resolve lengthIdentifier [] =
      .ok (.numeric none) :=
  ⟨by decide +kernel, rfl, rfl, rfl⟩

end Builtin

end Registry

end PagedSearch
