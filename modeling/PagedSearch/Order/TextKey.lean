import PagedSearch.Order.Basic
import PagedSearch.Unicode.Canonical
import PagedSearch.Unicode.Case

/-!
# Collation

Texts are compared by base letters first, then by accents, then by case, and at last as they
stand. Some languages count a few accented letters as letters of their own behind z.
-/

namespace PagedSearch

structure TextKey where
  primary : List Nat
  secondary : List Nat
  tertiary : List Nat
  identical : String
deriving DecidableEq

namespace TextKey

protected def compare (a b : TextKey) : Ordering :=
  (compare a.primary b.primary).then <|
    (compare a.secondary b.secondary).then <|
      (compare a.tertiary b.tertiary).then (compare a.identical b.identical)

instance : Ord TextKey := ⟨TextKey.compare⟩

end TextKey

/-- A weight in a key. A letter weighs at the first level and leaves a place without accent at the
second; an accent weighs at the second only. -/
inductive CollationElement where
  | letter (weight : Nat)
  | accent (weight : Nat)
deriving DecidableEq

namespace CollationElement

def primary? : CollationElement → Option Nat
  | letter weight => some weight
  | accent _ => none

def secondary : CollationElement → Nat
  | letter _ => 0
  | accent weight => weight

end CollationElement

/-- A collation: the letters that one language sorts behind z, in their order. -/
structure Collation where
  tailoring : List Char
deriving DecidableEq

namespace Collation

def lettersOf (language : String) : List Char :=
  match language with
  | "da" | "no" | "nb" | "nn" => ['æ', 'ø', 'å']
  | "sv" | "fi" => ['å', 'ä', 'ö']
  | _ => []

def ofLocale (l : Locale) : Collation := ⟨lettersOf (Unicode.lowercaseString l.language)⟩

/-- The weight of a base letter. Between two letters there is room for tailored ones. -/
def letterWeight (c : Char) : Nat := c.toNat * 256

/-- The weights of a lowercase character. The sharp s counts as two letters. -/
def elements (collation : Collation) (c : Char) : List CollationElement :=
  match collation.tailoring.idxOf? c with
  | some place => [.letter (letterWeight 'z' + 1 + place)]
  | none =>
    if c = 'ß' then
      [.letter (letterWeight 's'), .letter (letterWeight 's')]
    else
      (Unicode.decomposition c).map fun part =>
        if Unicode.isMark part then .accent part.toNat else .letter (letterWeight part)

def key (collation : Collation) (text : String) : TextKey :=
  let chars := Unicode.composed text.toList
  let weights := chars.flatMap fun c => (Unicode.lowercaseChar c).flatMap collation.elements
  { primary := weights.filterMap CollationElement.primary?
    secondary := weights.map CollationElement.secondary
    tertiary := chars.map fun c => if Unicode.isUppercase c then 1 else 0
    identical := text }

def compareTexts (collation : Collation) (a b : String) : Ordering :=
  compare (collation.key a) (collation.key b)

end Collation

end PagedSearch
