import Quiesce.Text.Blank

/-!
Cutting text apart: at every separator, at the first one, into words and into lines.
-/
namespace Quiesce.Text

/-- The pieces between the elements that satisfy `sep`; always at least one. -/
def splitWhen {α : Type} (sep : α → Bool) : List α → List (List α)
  | [] => [[]]
  | a :: as =>
    if sep a then [] :: splitWhen sep as
    else match splitWhen sep as with
      | [] => [[a]]
      | piece :: rest => (a :: piece) :: rest

def cutAt (sep : Char) : List Char → Option (List Char × List Char)
  | [] => none
  | c :: cs =>
    if c = sep then some ([], cs)
    else (cutAt sep cs).map fun (before, after) => (c :: before, after)

/-- The maximal runs of characters that are not white space. -/
def words (cs : List Char) : List (List Char) :=
  (splitWhen isBlank cs).filter (!·.isEmpty)

def trimEnd (cs : List Char) : List Char :=
  (cs.reverse.dropWhile isBlank).reverse

def stripStart? : List Char → List Char → Option (List Char)
  | [], cs => some cs
  | _ :: _, [] => none
  | p :: ps, c :: cs => if p = c then stripStart? ps cs else none

def contains (part : List Char) : List Char → Bool
  | [] => part.isEmpty
  | c :: cs => (stripStart? part (c :: cs)).isSome || contains part cs

def dropLastIf {α : Type} [BEq α] (a : α) (as : List α) : List α :=
  if as.getLast? == some a then as.dropLast else as

end Quiesce.Text
