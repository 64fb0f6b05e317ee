import EntityForge.Proofs.Text.Units
import EntityForge.Proofs.Traversal
import EntityForge.Text.Utf8
import Mathlib.Data.List.TakeWhile

/-!
# The bytes of a text

A text has as many bytes as its size says and is determined by them.  Decoding loses nothing: where
there are bytes there are characters.
-/

namespace EntityForge.Text.Utf8

/-! ## Encoding -/

/-- Characters have the bytes that strings keep of them. -/
theorem encodePoint_scalar (character : Char) :
    encodePoint (.scalar character) = String.utf8EncodeChar character := by
  simp only [encodePoint, codeBytes, String.utf8EncodeChar, Point.toNat_scalar, Nat.div_one,
    Char.toNat]

theorem length_encodePoint (point : Point) : (encodePoint point).length = point.utf8Size := by
  cases point with
  | scalar character => rw [encodePoint_scalar, String.length_utf8EncodeChar, Point.utf8Size]
  | surrogate half =>
      have bound := half.isLt
      rw [encodePoint, codeBytes, if_neg, if_neg, if_pos]
      · rfl
      all_goals
        simp only [Point.toNat, Point.firstSurrogate]
        omega

theorem length_encode (text : Text) : (encode text).length = text.utf8ByteSize := by
  rw [encode, utf8ByteSize]
  induction text.toList with
  | nil => rfl
  | cons point rest ih =>
      rw [List.flatMap_cons, List.length_append, length_encodePoint, ih, List.foldr_cons]

/-- A number is read off its bytes in front of others. -/
theorem codeBytes_append_inj {left right : Nat} {leftRest rightRest : List UInt8}
    (leftSmall : left < 0x110000) (rightSmall : right < 0x110000)
    (equal : codeBytes left ++ leftRest = codeBytes right ++ rightRest) :
    left = right ∧ leftRest = rightRest := by
  -- the first byte tells how many there are
  have same : left = right := by
    have bytes := equal
    unfold codeBytes at bytes
    simp only [Nat.div_one] at bytes
    split_ifs at bytes
    all_goals
      simp only [List.cons_append, List.nil_append, List.cons.injEq, ← UInt8.toNat_inj,
        UInt8.toNat_ofNat'] at bytes
      omega
  rw [same] at equal
  exact ⟨same, List.append_cancel_left equal⟩

theorem encodePoint_append_inj {left right : Point} {leftRest rightRest : List UInt8}
    (equal : encodePoint left ++ leftRest = encodePoint right ++ rightRest) :
    left = right ∧ leftRest = rightRest := by
  obtain ⟨same, rest⟩ := codeBytes_append_inj left.toNat_lt right.toNat_lt equal
  exact ⟨Point.toNat_inj.mp same, rest⟩

theorem encodePoint_ne_nil (point : Point) : encodePoint point ≠ [] := by
  simp only [encodePoint, codeBytes]
  split
  next => exact List.cons_ne_nil _ _
  next =>
    split
    next => exact List.cons_ne_nil _ _
    next => split <;> exact List.cons_ne_nil _ _

theorem encode_inj {left right : Text} : encode left = encode right ↔ left = right := by
  constructor
  · intro equal
    rw [← toList_inj]
    unfold encode at equal
    generalize left.toList = leftText at equal ⊢
    generalize right.toList = rightText at equal ⊢
    induction leftText generalizing rightText with
    | nil =>
        cases rightText with
        | nil => rfl
        | cons point rest => simp [encodePoint_ne_nil] at equal
    | cons point rest ih =>
        cases rightText with
        | nil => simp [encodePoint_ne_nil] at equal
        | cons other others =>
            simp only [List.flatMap_cons] at equal
            obtain ⟨sameFirst, sameRest⟩ := encodePoint_append_inj equal
            rw [sameFirst, ih others sameRest]
  · intro same
    rw [same]

/-! ## Faults -/

/-- There is a fault exactly if some code point is refused. -/
theorem faultAt?_eq_none_iff {isRefused : Point → Bool} {text : Text} :
    faultAt? isRefused text = none ↔ ∀ point ∈ text.toList, isRefused point = false := by
  have none : faultAt? isRefused text = none ↔ text.toList.dropWhile (!isRefused ·) = [] := by
    rw [faultAt?]
    split
    next done => simp [done]
    next first rest found => simp [found]
  simp [none, List.dropWhile_eq_nil_iff]

theorem encodingFault?_eq_none_iff {text : Text} :
    encodingFault? text = none ↔ text.isEncodable = true := by
  rw [encodingFault?, faultAt?_eq_none_iff, isEncodable, Bool.not_eq_true', List.any_eq_false]
  simp

/-! ## Decoding -/

/-- Some character is decoded wherever there are bytes, or a character has begun. -/
theorem decodeFrom_ne_nil {position : Nat} {state : Option Partial} {bytes : List UInt8}
    {characters : List Char} (run : decodeFrom position state bytes = .ok characters)
    (begun : bytes ≠ [] ∨ state.isSome = true) : characters ≠ [] := by
  induction bytes generalizing position state with
  | nil =>
      cases state with
      | none => simp at begun
      | some part => cases run
  | cons byte rest ih =>
      have ends {image : List Char → List Char} (filled : ∀ more, image more ≠ [])
          (whole : (decodeFrom (position + 1) none rest).map image = .ok characters) :
          characters ≠ [] := by
        obtain ⟨more, _, rfl⟩ := map_eq_ok_iff.mp whole
        exact filled more
      cases state with
      | none =>
          rw [decodeFrom] at run
          split at run
          next => exact ends (fun _ => List.cons_ne_nil _ _) run
          next =>
            split at run
            next => cases run
            next => exact ih run (.inr rfl)
      | some part =>
          rw [decodeFrom] at run
          dsimp only at run
          split at run
          next =>
            split at run
            next => exact ends (fun _ => List.cons_ne_nil _ _) run
            next => exact ih run (.inr rfl)
          next => cases run

/-- Bytes encode an empty text exactly if there are none. -/
theorem ne_nil_iff_of_decode {bytes : List UInt8} {text : String}
    (run : decode bytes = .ok text) : bytes ≠ [] ↔ text ≠ "" := by
  obtain ⟨characters, decoded, rfl⟩ := map_eq_ok_iff.mp run
  have empty : String.ofList characters = "" ↔ characters = [] := by
    rw [← String.toList_inj, String.toList_ofList]
    rfl
  rw [Ne, Ne, empty]
  constructor
  · intro given
    exact decodeFrom_ne_nil decoded (.inl given)
  · rintro filled rfl
    cases decoded
    exact filled rfl

end EntityForge.Text.Utf8
