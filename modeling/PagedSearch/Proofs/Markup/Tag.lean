import PagedSearch.Proofs.Markup.Reference
import PagedSearch.Proofs.Text.Split
import PagedSearch.Result.Xml

/-!
# Reading tags

A marked up text is read as its tags, each with the text in front of it. However the events of a
document are laid out, a tag is read with a line break in front of it or with the content that it
follows.
-/

namespace PagedSearch

structure PlacedTag where
  before : List Char
  tag : List Char
deriving DecidableEq

def tagsOf (text : List Char) : List PlacedTag :=
  match _h : text.dropWhile (· ≠ '<') with
  | [] => []
  | _ :: rest =>
    ⟨text.takeWhile (· ≠ '<'), rest.takeWhile (· ≠ '>')⟩ :: tagsOf (rest.dropWhile (· ≠ '>')).tail
termination_by text.length
decreasing_by
  have hdrop := (List.dropWhile_sublist (· ≠ '<') (l := text)).length_le
  have hrest := (List.dropWhile_sublist (· ≠ '>') (l := rest)).length_le
  simp only [_h, List.length_cons, List.length_tail] at hdrop hrest ⊢
  omega

theorem tagsOf_nil : tagsOf [] = [] := by rw [tagsOf]; rfl

private theorem tagsOf_tag {before tag : List Char} (hbefore : '<' ∉ before) (htag : '>' ∉ tag)
    (rest : List Char) :
    tagsOf (before ++ '<' :: (tag ++ '>' :: rest)) = ⟨before, tag⟩ :: tagsOf rest := by
  rw [tagsOf]
  split
  case h_1 h =>
    rw [dropWhile_ne_append hbefore] at h
    cases h
  case h_2 behind h =>
    rw [dropWhile_ne_append hbefore] at h
    obtain ⟨-, rfl⟩ := List.cons_eq_cons.mp h
    rw [takeWhile_ne_append hbefore, takeWhile_ne_append htag, dropWhile_ne_append htag,
      List.tail_cons]

namespace XmlEvent

def startTag (name : String) (attributes : List (String × String)) : List Char :=
  name.toList ++ attributes.flatMap attributeChars

def endTag (name : String) : List Char := '/' :: name.toList

def declarationTag : List Char := "?xml version=\"1.0\" encoding=\"UTF-8\"?".toList

def tagName (tag : List Char) : List Char := tag.takeWhile (· ≠ ' ')

theorem tagName_startTag {name : String} (h : ' ' ∉ name.toList) (pair : String × String)
    (attributes : List (String × String)) :
    tagName (startTag name (pair :: attributes)) = name.toList :=
  takeWhile_ne_append h _

private theorem attributes_injective {attributes others : List (String × String)}
    (hkeys : ∀ pair ∈ attributes, '=' ∉ pair.1.toList)
    (hothers : ∀ pair ∈ others, '=' ∉ pair.1.toList)
    (h : attributes.flatMap attributeChars = others.flatMap attributeChars) :
    attributes = others := by
  induction attributes generalizing others with
  | nil =>
    cases others with
    | nil => rfl
    | cons pair others => simp [attributeChars] at h
  | cons pair attributes ih =>
    cases others with
    | nil => simp [attributeChars] at h
    | cons other others =>
      -- the key is cut off at its equals sign, then the value at the quote behind it
      rw [List.forall_mem_cons] at hkeys hothers
      simp only [List.flatMap_cons, attributeChars, List.cons_append, List.append_assoc,
        List.nil_append, List.cons.injEq, true_and] at h
      obtain ⟨hkey, h⟩ := append_stop_inj hkeys.1 hothers.1 h
      have hquote (text : List Char) : '"' ∉ escapeText text :=
        reserved_not_mem_escapeText (by decide) text
      obtain ⟨hvalue, h⟩ := append_stop_inj (hquote _) (hquote _) (List.cons_eq_cons.mp h).2
      have hpair : pair = other :=
        Prod.ext (String.toList_inj.mp hkey) (String.toList_inj.mp (escapeText_injective hvalue))
      rw [hpair, ih hkeys.2 hothers.2 h]

theorem startTag_injective {name : String} {attributes others : List (String × String)}
    (hkeys : ∀ pair ∈ attributes, '=' ∉ pair.1.toList)
    (hothers : ∀ pair ∈ others, '=' ∉ pair.1.toList)
    (h : startTag name attributes = startTag name others) : attributes = others := by
  apply attributes_injective hkeys hothers
  exact List.append_cancel_left h

theorem not_mem_startTag {name : String} {attributes : List (String × String)}
    (hname : '>' ∉ name.toList) (hkeys : ∀ pair ∈ attributes, '>' ∉ pair.1.toList) :
    '>' ∉ startTag name attributes := by
  intro h
  rcases List.mem_append.mp h with h | h
  · exact hname h
  · obtain ⟨pair, hpair, h⟩ := List.mem_flatMap.mp h
    have hvalue : '>' ∉ escapeText pair.2.toList := reserved_not_mem_escapeText (by decide) _
    simp [attributeChars, hkeys pair hpair, hvalue] at h

private theorem not_mem_lineBreak (due : Bool) (depth : Nat) : '<' ∉ lineBreak due depth := by
  cases due <;> simp [lineBreak]

def layOut (pretty due : Bool) (depth : Nat) (events : List XmlEvent) : List Char :=
  if pretty then writeIndented due depth events else writeFlat events

section LayOut

variable (pretty due : Bool) (depth : Nat) (rest : List XmlEvent)

theorem layOut_nil : layOut pretty due depth [] = [] := by cases pretty <;> rfl

private theorem layOut_content (escaped : String) :
    layOut pretty due depth (content escaped :: rest) =
      escaped.toList ++ layOut pretty false depth rest := by
  cases pretty <;> rfl

private theorem layOut_declaration :
    layOut pretty due depth (declaration :: rest) = lineBreak (pretty && due) depth ++
      '<' :: (declarationTag ++ '>' :: layOut pretty true depth rest) := by
  have hchars : declaration.chars = '<' :: (declarationTag ++ ['>']) := by decide
  have hwrite : layOut pretty due depth (declaration :: rest) =
      lineBreak (pretty && due) depth ++ declaration.chars ++ layOut pretty true depth rest := by
    cases pretty <;> rfl
  rw [hwrite, hchars, List.append_assoc, List.cons_append, List.append_assoc, List.singleton_append]

private theorem layOut_openTag (name : String) (attributes : List (String × String)) :
    layOut pretty due depth (openTag name attributes :: rest) = lineBreak (pretty && due) depth ++
      '<' :: (startTag name attributes ++ '>' :: layOut pretty true (depth + 1) rest) := by
  have hchars : (openTag name attributes).chars = '<' :: (startTag name attributes ++ ['>']) := rfl
  have hwrite : layOut pretty due depth (openTag name attributes :: rest) =
      lineBreak (pretty && due) depth ++ (openTag name attributes).chars ++
        layOut pretty true (depth + 1) rest := by
    cases pretty <;> rfl
  rw [hwrite, hchars, List.append_assoc, List.cons_append, List.append_assoc, List.singleton_append]

private theorem layOut_closeTag (name : String) :
    layOut pretty due depth (closeTag name :: rest) = lineBreak (pretty && due) (depth - 1) ++
      '<' :: (endTag name ++ '>' :: layOut pretty true (depth - 1) rest) := by
  have hchars : (closeTag name).chars = '<' :: (endTag name ++ ['>']) := rfl
  have hwrite : layOut pretty due depth (closeTag name :: rest) =
      lineBreak (pretty && due) (depth - 1) ++ (closeTag name).chars ++
        layOut pretty true (depth - 1) rest := by
    cases pretty <;> rfl
  rw [hwrite, hchars, List.append_assoc, List.cons_append, List.append_assoc, List.singleton_append]

theorem tagsOf_declaration :
    tagsOf (layOut pretty due depth (declaration :: rest)) =
      ⟨lineBreak (pretty && due) depth, declarationTag⟩ ::
        tagsOf (layOut pretty true depth rest) := by
  rw [layOut_declaration, tagsOf_tag (not_mem_lineBreak _ _) (by decide)]

theorem tagsOf_openTag {name : String} {attributes : List (String × String)}
    (h : '>' ∉ startTag name attributes) :
    tagsOf (layOut pretty due depth (openTag name attributes :: rest)) =
      ⟨lineBreak (pretty && due) depth, startTag name attributes⟩ ::
        tagsOf (layOut pretty true (depth + 1) rest) := by
  rw [layOut_openTag, tagsOf_tag (not_mem_lineBreak _ _) h]

theorem tagsOf_closeTag {name : String} (h : '>' ∉ endTag name) :
    tagsOf (layOut pretty due depth (closeTag name :: rest)) =
      ⟨lineBreak (pretty && due) (depth - 1), endTag name⟩ ::
        tagsOf (layOut pretty true (depth - 1) rest) := by
  rw [layOut_closeTag, tagsOf_tag (not_mem_lineBreak _ _) h]

theorem tagsOf_content {escaped name : String} (hescaped : '<' ∉ escaped.toList)
    (h : '>' ∉ endTag name) :
    tagsOf (layOut pretty due depth (content escaped :: closeTag name :: rest)) =
      ⟨escaped.toList, endTag name⟩ :: tagsOf (layOut pretty true (depth - 1) rest) := by
  rw [layOut_content, layOut_closeTag, Bool.and_false]
  exact tagsOf_tag hescaped h _

end LayOut

end XmlEvent

end PagedSearch
