import PagedSearch.Markup.Escape

/-!
# Excerpts and snippets

A value that is too long is cut. What looks like the start of an entity reference near the end of
the cut is dropped with all after it. Highlighted fragments are joined by a separator, and before
they are shown, a reference that was cut off at the end of a fragment is dropped as well.
-/

namespace PagedSearch

def ellipsis : List Char := [' ', '.', '.', '.', ' ']

/-- How many places at the end of a cut are searched for the start of a reference. -/
def referenceWindow : Nat := 8

def lastAmpersand? (text : List Char) : Option Nat :=
  match text.reverse.dropWhile (· ≠ '&') with
  | [] => none
  | _ :: before => some before.length

/-- The first characters of a text, up to an ampersand in the window at their end. -/
def cutText (limit : Nat) (text : List Char) : List Char :=
  let cut := text.take limit
  match lastAmpersand? cut with
  | some place => if limit < place + referenceWindow then cut.take place else cut
  | none => cut

/-- The plain content of a field: the whole value, or an excerpt if there is a limit and the value
passes it. -/
def plainContent (limit : Nat) (text : List Char) : List Char :=
  if 0 < limit && limit < text.length then escapeText (cutText limit text) ++ ellipsis
  else escapeText text

/-- Whether a word, given last character first, begins an entity reference that it does not
complete. -/
def isCutReference (reversedWord : List Char) : Bool :=
  reversedWord.getLast? == some '&' && reversedWord.head? != some ';'

/-- Drops cut references after spaces from the end of a segment, given last character first. A
segment without a space is kept. -/
def repairReversed (segment : List Char) : List Char :=
  match h : segment.dropWhile (· ≠ ' ') with
  | [] => segment
  | _ :: before =>
    have : before.length < segment.length := by
      have := (List.dropWhile_sublist (· ≠ ' ') (l := segment)).length_le
      rw [h, List.length_cons] at this
      omega
    if isCutReference (segment.takeWhile (· ≠ ' ')) then repairReversed before else segment
termination_by segment.length

def repairSegment (segment : List Char) : List Char := (repairReversed segment.reverse).reverse

def repairText (separator text : List Char) : List Char :=
  separator.intercalate ((segments separator text).map repairSegment)

end PagedSearch
