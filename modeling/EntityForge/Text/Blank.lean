import EntityForge.Text.Basic
import EntityForge.Text.Ranges

/-!
# Blank characters

The characters that are trimmed from the ends of a name before it is judged: the Unicode white
space and the four ASCII information separators.
-/

namespace EntityForge.Text

/-- The blank characters, as intervals of code points. -/
def blankRanges : List (Nat × Nat) :=
  [ (0x09, 0x0d), (0x1c, 0x20), (0x85, 0x85), (0xa0, 0xa0), (0x1680, 0x1680), (0x2000, 0x200a),
    (0x2028, 0x2029), (0x202f, 0x202f), (0x205f, 0x205f), (0x3000, 0x3000) ]

/-- Whether trimming removes the character from the end of a text. -/
def isBlank (character : Point) : Bool :=
  inRanges blankRanges character.toNat

/-- Whether a character is Unicode white space.  The information separators are not. -/
def isWhiteSpace (character : Point) : Bool :=
  isBlank character && !(0x1c ≤ character.toNat && character.toNat ≤ 0x1f)

/-- The text without the code points of a class at its end. -/
def trimEndWhere {α : Type} (remove : α → Bool) (text : List α) : List α :=
  (text.reverse.dropWhile remove).reverse

/-- The text without the characters of a class at either end. -/
def trimWhere {α : Type} (remove : α → Bool) (text : List α) : List α :=
  trimEndWhere remove (text.dropWhile remove)

/-- The text without blank characters at either end. -/
def trim (text : List Point) : List Point :=
  trimWhere isBlank text

/-- Whether a text is empty or holds blank characters only. -/
def isBlankText (text : Text) : Bool :=
  text.toList.all isBlank

theorem length_trimEndWhere_le {α : Type} (remove : α → Bool) (text : List α) :
    (trimEndWhere remove text).length ≤ text.length := by
  have shorter := (List.dropWhile_sublist remove (l := text.reverse)).length_le
  simpa [trimEndWhere] using shorter

theorem length_trimWhere_le {α : Type} (remove : α → Bool) (text : List α) :
    (trimWhere remove text).length ≤ text.length :=
  Nat.le_trans (length_trimEndWhere_le remove _) (List.dropWhile_sublist remove).length_le

theorem length_trim_le (text : List Point) : (trim text).length ≤ text.length :=
  length_trimWhere_le isBlank text

end EntityForge.Text
