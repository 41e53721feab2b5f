import Mathlib.Data.List.TakeWhile
import PagedSearch.Unicode.Basic

/-! # Splitting texts -/

namespace PagedSearch

/-- What holds of all characters of a text is decided along the text, not over all characters. -/
instance (priority := high) decidableForallMemText {p : Char → Prop} [DecidablePred p]
    (text : List Char) : Decidable (∀ c ∈ text, p c) :=
  List.decidableBAll p text

section Stop

theorem append_eq_append_cons {α : Type} {as bs cs ds : List α} {d : α}
    (h : as ++ bs = cs ++ d :: ds) :
    (∃ w, cs = as ++ w ∧ bs = w ++ d :: ds) ∨ ∃ w, as = cs ++ d :: w := by
  rcases List.append_eq_append_iff.mp h with ⟨w, hcs, hbs⟩ | ⟨w, has, hds⟩
  · exact .inl ⟨w, hcs, hbs⟩
  · cases w with
    | nil => exact .inl ⟨[], by simpa using has.symm, by simpa using hds.symm⟩
    | cons e w =>
      obtain ⟨rfl, -⟩ := List.cons.inj hds
      exact .inr ⟨w, has⟩

variable {α : Type} {p : α → Bool} {stop : α}

theorem takeWhile_append_stop (h : p stop = false) (xs more : List α) :
    (xs ++ stop :: more).takeWhile p = xs.takeWhile p := by
  induction xs with
  | nil => simp [h]
  | cons x xs ih => simp [List.takeWhile_cons, ih]

theorem dropWhile_append_stop (h : p stop = false) (xs more : List α) :
    (xs ++ stop :: more).dropWhile p = xs.dropWhile p ++ stop :: more := by
  induction xs with
  | nil => simp [h]
  | cons x xs ih =>
    simp only [List.cons_append, List.dropWhile_cons, ih]
    split <;> rfl

def Stops (p : α → Bool) (rest : List α) : Prop := ∀ x ∈ rest.head?, p x = false

theorem Stops.nil : Stops p [] := nofun

theorem Stops.cons (h : p stop = false) (more : List α) : Stops p (stop :: more) := by
  rintro x ⟨⟩
  exact h

theorem stops_dropWhile (p : α → Bool) (rest : List α) : Stops p (rest.dropWhile p) := by
  intro x hx
  have hhead := List.head?_dropWhile_not p rest
  rw [Option.mem_def.mp hx] at hhead
  exact hhead

theorem stops_append_iff {xs ys : List α} :
    Stops p (xs ++ ys) ↔ Stops p xs ∧ (xs = [] → Stops p ys) := by
  cases xs with
  | nil => exact ⟨fun h => ⟨.nil, fun _ => h⟩, fun h => h.2 rfl⟩
  | cons x xs => exact ⟨fun h => ⟨h, nofun⟩, fun h => h.1⟩

theorem stops_of_forall {xs : List α} (h : ∀ x ∈ xs, p x = false) : Stops p xs :=
  fun x hx => h x (List.mem_of_head? hx)

theorem not_stops_append {xs : List α} (hne : xs ≠ []) (h : ∀ x ∈ xs, p x = true)
    (ys : List α) : ¬ Stops p (xs ++ ys) := by
  obtain ⟨x, more, rfl⟩ := List.exists_cons_of_ne_nil hne
  intro hstops
  have hx : p x = false := hstops x rfl
  rw [h x List.mem_cons_self] at hx
  cases hx

instance (p : α → Bool) (rest : List α) : Decidable (Stops p rest) :=
  match rest with
  | [] => isTrue .nil
  | x :: more => decidable_of_iff (p x = false) ⟨fun h => .cons h more, fun h => h x rfl⟩

variable {run rest : List α} (hrun : ∀ x ∈ run, p x = true) (hrest : Stops p rest)

include hrun hrest

theorem takeWhile_append_of_stops : (run ++ rest).takeWhile p = run := by
  rw [List.takeWhile_append_of_pos hrun]
  cases rest with
  | nil => rw [List.takeWhile_nil, List.append_nil]
  | cons x rest =>
    rw [List.takeWhile_cons_of_neg (by simpa using hrest x rfl), List.append_nil]

theorem dropWhile_append_of_stops : (run ++ rest).dropWhile p = rest := by
  rw [List.dropWhile_append_of_pos hrun]
  cases rest with
  | nil => rfl
  | cons x rest => rw [List.dropWhile_cons_of_neg (by simpa using hrest x rfl)]

end Stop

section Separator

variable {α : Type} [DecidableEq α] {separator : α} {text : List α}

theorem takeWhile_ne_of_not_mem (h : separator ∉ text) : text.takeWhile (· ≠ separator) = text :=
  List.takeWhile_eq_self_iff.mpr fun _ hc => decide_eq_true (ne_of_mem_of_not_mem hc h)

theorem dropWhile_ne_of_not_mem (h : separator ∉ text) : text.dropWhile (· ≠ separator) = [] :=
  List.dropWhile_eq_nil_iff.mpr fun _ hc => decide_eq_true (ne_of_mem_of_not_mem hc h)

theorem takeWhile_ne_append (h : separator ∉ text) (rest : List α) :
    (text ++ separator :: rest).takeWhile (· ≠ separator) = text := by
  rw [takeWhile_append_stop (by simp), takeWhile_ne_of_not_mem h]

theorem dropWhile_ne_append (h : separator ∉ text) (rest : List α) :
    (text ++ separator :: rest).dropWhile (· ≠ separator) = separator :: rest := by
  rw [dropWhile_append_stop (by simp), dropWhile_ne_of_not_mem h, List.nil_append]

theorem append_stop_inj {other rest rest' : List α} (h : separator ∉ text)
    (hother : separator ∉ other) (heq : text ++ separator :: rest = other ++ separator :: rest') :
    text = other ∧ rest = rest' := by
  have htake := congrArg (List.takeWhile (· ≠ separator)) heq
  have hdrop := congrArg (List.dropWhile (· ≠ separator)) heq
  rw [takeWhile_ne_append h, takeWhile_ne_append hother] at htake
  rw [dropWhile_ne_append h, dropWhile_ne_append hother] at hdrop
  exact ⟨htake, (List.cons_eq_cons.mp hdrop).2⟩

omit [DecidableEq α] in
theorem exists_last_of_mem (h : separator ∈ text) :
    ∃ front behind, text = front ++ separator :: behind ∧ separator ∉ behind := by
  obtain ⟨behind, front, hreverse, hbehind⟩ :=
    List.eq_append_cons_of_mem (List.mem_reverse.mpr h)
  refine ⟨front.reverse, behind.reverse, ?_, by simpa using hbehind⟩
  simpa using congrArg List.reverse hreverse

theorem append_last_inj {other front front' : List α} (h : separator ∉ text)
    (hother : separator ∉ other) (heq : front ++ separator :: text = front' ++ separator :: other) :
    front = front' ∧ text = other := by
  have hreverse := congrArg List.reverse heq
  simp only [List.reverse_append, List.reverse_cons, List.append_assoc, List.singleton_append]
    at hreverse
  obtain ⟨hbehind, hfront⟩ :=
    append_stop_inj (by simpa using h) (by simpa using hother) hreverse
  exact ⟨List.reverse_inj.mp hfront, List.reverse_inj.mp hbehind⟩

end Separator

namespace Unicode

variable {text before after : List Char} {c : Char}

theorem trimStart_cons (h : isSpace c = false) (rest : List Char) :
    trimStart (c :: rest) = c :: rest :=
  List.dropWhile_cons_of_neg (by simp [h])

theorem trimStart_append_space (h : ∀ c ∈ before, isSpace c = true) (text : List Char) :
    trimStart (before ++ text) = trimStart text :=
  List.dropWhile_append_of_pos h

private theorem trimEnd_append_space (h : ∀ c ∈ after, isSpace c = true) (text : List Char) :
    trimEnd (text ++ after) = trimEnd text := by
  rw [trimEnd, List.reverse_append, List.dropWhile_append_of_pos (by simpa using h), trimEnd]

theorem trimEnd_append_cons (h : isSpace c = false) (text rest : List Char) :
    trimEnd (text ++ c :: rest) = text ++ c :: trimEnd rest := by
  rw [trimEnd, List.reverse_append, List.reverse_cons, List.append_assoc, List.singleton_append,
    dropWhile_append_stop h]
  simp [trimEnd]

theorem trimStart_eq_nil_iff : trimStart text = [] ↔ ∀ c ∈ text, isSpace c = true :=
  List.dropWhile_eq_nil_iff

theorem trimStart_append (h : trimStart text ≠ []) (rest : List Char) :
    trimStart (text ++ rest) = trimStart text ++ rest := by
  rw [trimStart, List.dropWhile_append, if_neg (by simpa [trimStart] using h), trimStart]

theorem trim_append_space (hbefore : ∀ c ∈ before, isSpace c = true)
    (hafter : ∀ c ∈ after, isSpace c = true) (text : List Char) :
    trim (before ++ (text ++ after)) = trim text := by
  rw [trim, trimStart_append_space hbefore]
  by_cases hblank : trimStart text = []
  · have hall : ∀ c ∈ text ++ after, isSpace c = true := by
      intro c hc
      rcases List.mem_append.mp hc with hc | hc
      · exact trimStart_eq_nil_iff.mp hblank c hc
      · exact hafter c hc
    rw [trimStart_eq_nil_iff.mpr hall, trim, hblank]
  · rw [trimStart_append hblank, trimEnd_append_space hafter, trim]

theorem trim_trimStart (text : List Char) : trim (trimStart text) = trim text := by
  have hspace : ∀ c ∈ text.takeWhile isSpace, isSpace c = true := fun _ hc =>
    List.mem_takeWhile_imp hc
  have hdrop := trimStart_append_space hspace (trimStart text)
  have hsplit : text.takeWhile isSpace ++ trimStart text = text :=
    List.takeWhile_append_dropWhile
  rw [hsplit] at hdrop
  rw [trim, trim, ← hdrop]

theorem trim_trimEnd (text : List Char) : trim (trimEnd text) = trim text := by
  have hspace : ∀ c ∈ (text.reverse.takeWhile isSpace).reverse, isSpace c = true := by
    intro c hc
    exact List.mem_takeWhile_imp (List.mem_reverse.mp hc)
  have hsplit : trimEnd text ++ (text.reverse.takeWhile isSpace).reverse = text := by
    rw [trimEnd, ← List.reverse_append, List.takeWhile_append_dropWhile, List.reverse_reverse]
  have hdrop := @trim_append_space [] _ (by simp) hspace (trimEnd text)
  rw [List.nil_append, hsplit] at hdrop
  exact hdrop.symm

theorem head?_trim (text : List Char) : (trim text).head? = (trimStart text).head? := by
  rcases hstart : trimStart text with - | ⟨c, rest⟩
  · rw [trim, hstart]
    rfl
  · have hc : isSpace c = false :=
      stops_dropWhile isSpace text c (by rw [← trimStart, hstart]; rfl)
    rw [trim, hstart, ← List.nil_append (c :: rest), trimEnd_append_cons hc]
    rfl

theorem trim_subset (text : List Char) : trim text ⊆ text := by
  intro c hc
  have hstart : c ∈ trimStart text := by
    simpa using (List.dropWhile_sublist isSpace).subset (List.mem_reverse.mp hc)
  exact (List.dropWhile_sublist isSpace).subset hstart

theorem trim_eq_self (hhead : ∀ c, text.head? = some c → isSpace c = false)
    (hlast : ∀ c, text.getLast? = some c → isSpace c = false) : trim text = text := by
  rcases List.eq_nil_or_concat text with rfl | ⟨front, last, rfl⟩
  · rfl
  rw [List.concat_eq_append] at hhead hlast ⊢
  have hstart : trimStart (front ++ [last]) = front ++ [last] := by
    cases front with
    | nil => exact trimStart_cons (hhead last rfl) []
    | cons c rest => exact trimStart_cons (hhead c rfl) _
  have hend : isSpace last = false := hlast last (by simp)
  rw [trim, hstart, trimEnd_append_cons hend]
  rfl

theorem trimStart_of_trimmed (h : trim text = text) : trimStart text = text := by
  have hsublist : (trimStart text).Sublist text := List.dropWhile_sublist isSpace
  refine hsublist.eq_of_length (Nat.le_antisymm hsublist.length_le ?_)
  have hlength := ((List.dropWhile_sublist isSpace).length_le :
    ((trimStart text).reverse.dropWhile isSpace).length ≤ _)
  have htrim := congrArg List.length h
  simp only [trim, trimEnd, List.length_reverse] at htrim hlength
  omega

theorem head_of_trimmed {rest : List Char} (h : trim (c :: rest) = c :: rest) :
    isSpace c = false := by
  by_contra hspace
  have hstart := trimStart_of_trimmed h
  rw [Bool.not_eq_false] at hspace
  rw [trimStart, List.dropWhile_cons_of_pos hspace] at hstart
  have hlength := (List.dropWhile_sublist isSpace (l := rest)).length_le
  rw [hstart, List.length_cons] at hlength
  omega

end Unicode

end PagedSearch
