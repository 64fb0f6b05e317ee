/-!
# Code points

What texts are made of: characters, and the surrogates.  A surrogate is half of a pair that stands
for a supplementary character; escapes in a document may name one without the other half, and then
it is a code point like others, except that no encoding of texts has a form for it.
-/

namespace EntityForge

/-- A code point. -/
inductive Point where
  | scalar (character : Char)
  /-- Half of a pair, counted from the first one. -/
  | surrogate (half : Fin 0x800)
  deriving DecidableEq, Repr

namespace Point

attribute [coe] scalar

instance : Coe Char Point := ⟨scalar⟩

/-- The first surrogate. -/
def firstSurrogate : Nat := 0xd800

/-- The number of a code point. -/
def toNat : Point → Nat
  | scalar character => character.toNat
  | surrogate half => firstSurrogate + half

/-- The code point of a number. -/
def ofNat (code : Nat) : Point :=
  if _within : firstSurrogate ≤ code ∧ code < firstSurrogate + 0x800 then
    surrogate ⟨code - firstSurrogate, by omega⟩
  else scalar (Char.ofNat code)

/-- The character of a code point that is one. -/
def char? : Point → Option Char
  | scalar character => some character
  | surrogate _ => none

def isSurrogate : Point → Bool
  | scalar _ => false
  | surrogate _ => true

/-- Whether a surrogate stands for a byte that is part of no character.  Names of files are read and
written with such surrogates. -/
def isEscapedByte : Point → Bool
  | scalar _ => false
  | surrogate half => 0x480 ≤ half.val && half.val < 0x500

/-- The number of bytes of a code point in UTF-8. -/
def utf8Size : Point → Nat
  | scalar character => character.utf8Size
  | surrogate _ => 3

/-- Whether a code point is an ASCII digit. -/
def isDigit : Point → Bool
  | scalar character => character.isDigit
  | surrogate _ => false

/-- Whether a code point is an ASCII letter. -/
def isAlpha : Point → Bool
  | scalar character => character.isAlpha
  | surrogate _ => false

@[simp]
theorem toNat_scalar (character : Char) : (scalar character).toNat = character.toNat :=
  rfl

@[simp]
theorem char?_scalar (character : Char) : (scalar character).char? = some character :=
  rfl

/-- No character has the number of a surrogate, and none is beyond the last code point. -/
theorem toNat_char_range (character : Char) :
    character.toNat < 0xd800 ∨ 0xdfff < character.toNat ∧ character.toNat < 0x110000 :=
  character.valid

theorem toNat_lt (point : Point) : point.toNat < 0x110000 := by
  cases point with
  | scalar character =>
      have range := toNat_char_range character
      rw [toNat_scalar]
      omega
  | surrogate half =>
      have bound := half.isLt
      simp only [toNat, firstSurrogate]
      omega

/-- A code point is determined by its number. -/
theorem toNat_inj {left right : Point} : left.toNat = right.toNat ↔ left = right := by
  constructor
  · intro same
    cases left with
    | scalar leftCharacter =>
        have leftRange := toNat_char_range leftCharacter
        cases right with
        | scalar rightCharacter => exact congrArg scalar (Char.toNat_inj.mp same)
        | surrogate half =>
            have bound := half.isLt
            simp only [toNat, firstSurrogate] at same
            omega
    | surrogate half =>
        have bound := half.isLt
        cases right with
        | scalar character =>
            have range := toNat_char_range character
            simp only [toNat, firstSurrogate] at same
            omega
        | surrogate other =>
            simp only [toNat] at same
            exact congrArg surrogate (Fin.ext (by omega))
  · exact congrArg toNat

end Point

end EntityForge
