import PagedSearch.Proofs.Request.Execution
import PagedSearch.Request.Defaults

/-!
# Accepted defaults and accepted requests

Defaults are checked when they are loaded, and a request again before it is executed. The second
check refuses blank fields besides, so defaults with a blank field are accepted and then make every
search fail.
-/

namespace PagedSearch

def FirstBlank (fields : List String) (field : String) : Prop :=
  Unicode.isBlank field.toList = true ∧ ∃ before after, fields = before ++ field :: after ∧
    ∀ earlier ∈ before, Unicode.isBlank earlier.toList = false

namespace Request

variable {request : Request}

theorem check_eq_error_iff (hsettings : request.toSearchSettings.check = .ok ())
    {fault : RequestFault} :
    request.check = .error fault ↔
      ∃ field, fault = .blankField field ∧ FirstBlank request.fields field := by
  have hfirst (field : String) : FirstBlank request.fields field ↔
      request.fields.find? (fun field => Unicode.isBlank field.toList) = some field := by
    simp [FirstBlank, List.find?_eq_some_iff_append]
  simp only [hfirst, check, hsettings]
  cases request.fields.find? fun field => Unicode.isBlank field.toList with
  | none => simp
  | some field => simp [eq_comm]

private theorem check_eq_ok_iff (hsettings : request.toSearchSettings.check = .ok ()) :
    request.check = .ok () ↔ ∀ field ∈ request.fields, Unicode.isBlank field.toList = false := by
  simp only [check, hsettings]
  cases hfind : request.fields.find? fun field => Unicode.isBlank field.toList with
  | none => simpa using hfind
  | some field =>
    refine iff_of_false (by simp) fun hfields => ?_
    have hblank := List.find?_some hfind
    rw [hfields field (List.mem_of_find?_eq_some hfind)] at hblank
    cases hblank

end Request

private theorem Searcher.execute_eq_invalid_iff {service : Searcher} {counters : SessionCounts}
    {request : Request} {fault : RequestFault} :
    (service.execute counters request).2 = .error (.request fault) ↔
      request.check = .error fault := by
  rw [execute_eq_error_iff]
  constructor
  · rintro ⟨step, hfails, -⟩
    -- the other steps fail with errors of their own
    cases step with
    | validate =>
      simp only [faultAt] at hfails
      split at hfails
      · rename_i hcheck
        cases hfails
        exact hcheck
      · cases hfails
    | query | sortGrammar | openIndex =>
      simp only [faultAt] at hfails
      split at hfails <;> cases hfails
    | fieldMembership | search =>
      simp only [faultAt] at hfails
      split at hfails
      · split at hfails <;> cases hfails
      · cases hfails
  · intro hcheck
    refine ⟨.validate, ?_, fun earlier hlt => absurd hlt (Nat.not_lt_zero _)⟩
    simp only [faultAt, hcheck]

namespace SearchDefaults

variable {defaults : SearchDefaults}

private theorem check_of_load {files : FileView} {path : String}
    (h : load files path = .ok defaults) :
    defaults.check = .ok () := by
  obtain ⟨text, -, hread⟩ := bind_eq_ok_iff.mp h
  split at hread
  · obtain ⟨⟨⟩, hcheck, hsame⟩ := bind_eq_ok_iff.mp hread
    obtain rfl := Except.ok.inj hsame
    exact mapError_eq_ok_iff.mp hcheck
  · cases hread

/-- Defaults that are accepted give accepted requests exactly if none of their fields is blank. If
one is, then every search with them fails on the first such field, whatever it asks for. -/
theorem request_accepted_iff
    (h : defaults.check = .ok () ∨ ∃ files path, load files path = .ok defaults) :
    (∀ query location, (defaults.request query location).check = .ok () ↔
      ∀ field ∈ defaults.fields, Unicode.isBlank field.toList = false) ∧
    ∀ (service : Searcher) counters query location fault,
      (service.execute counters (defaults.request query location)).2 = .error (.request fault) ↔
        ∃ field, fault = .blankField field ∧ FirstBlank defaults.fields field := by
  have hsettings : defaults.check = .ok () := by
    rcases h with hchecked | ⟨files, path, hload⟩
    · exact hchecked
    · exact check_of_load hload
  constructor
  · intro query location
    have hrequest : (defaults.request query location).toSearchSettings.check = .ok () := hsettings
    exact Request.check_eq_ok_iff hrequest
  · intro service counters query location fault
    have hrequest : (defaults.request query location).toSearchSettings.check = .ok () := hsettings
    rw [Searcher.execute_eq_invalid_iff]
    exact Request.check_eq_error_iff hrequest

theorem request_accepted_iff_standard :
    (standard.request "fox" "pens").check = .ok () ∧
    (Searcher.penService.execute .zero
        ({ standard with fields := ["title", " "] }.request "fox" "pens")).2 =
      .error (.request (.blankField " ")) := by
  have hfilled : ∀ field ∈ standard.fields, Unicode.isBlank field.toList = false := by decide
  have hblank : FirstBlank ["title", " "] " " := ⟨by decide, ["title"], [], rfl, by decide⟩
  obtain ⟨haccepted, -⟩ := request_accepted_iff (.inl (rfl : standard.check = .ok ()))
  have hchecked : { standard with fields := ["title", " "] }.check = .ok () := rfl
  obtain ⟨-, hfails⟩ := request_accepted_iff (.inl hchecked)
  exact ⟨(haccepted "fox" "pens").mpr hfilled, (hfails _ _ _ _ _).mpr ⟨" ", rfl, hblank⟩⟩

def blankField : FileView := fun _ =>
  .file "\x7b\x22default_fields\x22: [\x22\x22]\x7d".toUTF8.toList

/-- Defaults with a blank field are accepted at load time. -/
theorem load_blankField : ¬ ∀ files path defaults, load files path = .ok defaults →
    ∀ query location, (defaults.request query location).check = .ok () := by
  have hload : (load blankField "defaults.json").toOption.map (·.fields) = some [""] := by
    decide +kernel
  intro h
  rcases hdefaults : load blankField "defaults.json" with fault | defaults
  · rw [hdefaults] at hload
    cases hload
  · rw [hdefaults] at hload
    have hfields : defaults.fields = [""] := Option.some.inj hload
    have hrequest := h _ _ _ hdefaults "fox" "pens"
    rw [Request.check_eq_ok_iff (check_of_load hdefaults)] at hrequest
    have hfilled := hrequest "" (hfields ▸ List.mem_singleton_self "")
    revert hfilled
    decide

end SearchDefaults

end PagedSearch
