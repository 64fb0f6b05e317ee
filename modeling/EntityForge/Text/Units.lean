import EntityForge.Text.Basic

/-!
# Ordinal order of texts

Texts are compared by their UTF-16 code units.  The order differs from that of code points where
supplementary characters, whose units lie between `D800` and `DFFF`, meet the characters from
`E000` to `FFFF`.
-/

namespace EntityForge.Text

/-- The UTF-16 code units of a character: one, or a high and a low surrogate. -/
def unitsOfChar (character : Point) : List Nat :=
  if character.toNat < 0x10000 then
    [character.toNat]
  else
    let offset := character.toNat - 0x10000
    [0xd800 + offset / 0x400, 0xdc00 + offset % 0x400]

/-- The UTF-16 code units of a text. -/
def units (text : Text) : List Nat :=
  text.toList.flatMap unitsOfChar

/-- Whether a list of code units comes before another or equals it.  The first difference decides,
and a list that ends there comes first. -/
def unitsLe : List Nat → List Nat → Bool
  | [], _ => true
  | _ :: _, [] => false
  | left :: leftRest, right :: rightRest =>
      left < right || (left == right && unitsLe leftRest rightRest)

/-- Whether one text comes before another in ordinal order or equals it. -/
def ordinalLe (left right : Text) : Bool :=
  unitsLe (units left) (units right)

end EntityForge.Text
