/-!
# Cutting text at a character

The cuts that the value grammars need: before the first character of a class, and at the last
occurrence of a character. (A cut at every occurrence is `List.splitOn`.) Case is folded for the
twenty-six letters of ASCII and for no other.
-/

namespace TypedManifest.Text

/-- Cut before the first character that satisfies `p`: what comes before it, and the rest from it
on. -/
def cutBefore (p : Char → Bool) (cs : List Char) : List Char × List Char :=
  (cs.takeWhile (!p ·), cs.dropWhile (!p ·))

/-- Cut at the last `c`, which is dropped: what stands before it and after it, or `none` when there
is no `c`. -/
def cutLast (c : Char) (cs : List Char) : Option (List Char × List Char) :=
  match cs.reverse.dropWhile (· != c) with
  | [] => none
  | _ :: before => some (before.reverse, (cs.reverse.takeWhile (· != c)).reverse)

/-- Lower case, for the letters of ASCII. -/
def lower (cs : List Char) : List Char := cs.map Char.toLower

/-- Upper case, for the letters of ASCII. -/
def upper (cs : List Char) : List Char := cs.map Char.toUpper

/-- The texts one after the other, with a comma and a space between two. -/
def commaSeparated (texts : List String) : String := ", ".intercalate texts

end TypedManifest.Text
