/-! # Blanks and words

* `isBlank` is the `White_Space` property of characters.
* `trimBlanks` removes blanks at both ends.
* `words` splits at separators and drops empty pieces, so several separators count as one.
-/

set_option autoImplicit false

namespace StyledMap.Text

/-- Whether a character has the property `White_Space`. -/
def isBlank (c : Char) : Bool :=
  let n := c.toNat
  (0x09 ≤ n && n ≤ 0x0D) || n == 0x20 || n == 0x85 || n == 0xA0 || n == 0x1680 ||
    (0x2000 ≤ n && n ≤ 0x200A) || n == 0x2028 || n == 0x2029 || n == 0x202F || n == 0x205F ||
    n == 0x3000

def dropEnd (p : Char → Bool) (cs : List Char) : List Char :=
  (cs.reverse.dropWhile p).reverse

/-- Removes blanks at both ends. -/
def trimBlanks (cs : List Char) : List Char :=
  dropEnd isBlank (cs.dropWhile isBlank)

/-- Puts a piece that is held in reverse in front of others, unless it is empty. -/
def endPiece (piece : List Char) (pieces : List (List Char)) : List (List Char) :=
  if piece.isEmpty then pieces else piece.reverse :: pieces

/-- The non-empty pieces between separators, the first of them begun by `piece` in reverse. -/
def wordsFrom (separator : Char → Bool) (piece : List Char) : List Char → List (List Char)
  | [] => endPiece piece []
  | c :: rest =>
    if separator c then endPiece piece (wordsFrom separator [] rest)
    else wordsFrom separator (c :: piece) rest

def words (separator : Char → Bool) (cs : List Char) : List (List Char) :=
  wordsFrom separator [] cs

end StyledMap.Text
