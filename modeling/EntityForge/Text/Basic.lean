import EntityForge.Text.Point

/-!
# Texts

A text is a sequence of code points, among which there may be surrogates without their other half.
They are called characters where the difference does not matter.
-/

namespace EntityForge

/-- A text. -/
structure Text where
  ofList ::
  toList : List Point
  deriving DecidableEq, Repr, Inhabited

namespace Text

/-- A text of characters. -/
@[coe]
def ofString (characters : String) : Text :=
  ofList (characters.toList.map Point.scalar)

instance : Coe String Text := ⟨ofString⟩

/-- A text of one code point. -/
def singleton (point : Point) : Text :=
  ofList [point]

protected def append (left right : Text) : Text :=
  ofList (left.toList ++ right.toList)

instance : Append Text := ⟨Text.append⟩

/-- The number of code points. -/
def length (text : Text) : Nat :=
  text.toList.length

/-- The number of bytes in UTF-8. -/
def utf8ByteSize (text : Text) : Nat :=
  text.toList.foldr (fun point size => point.utf8Size + size) 0

def isEmpty (text : Text) : Bool :=
  text.toList.isEmpty

/-- Whether there is no surrogate in a text, so that it can be encoded. -/
def isEncodable (text : Text) : Bool :=
  !text.toList.any Point.isSurrogate

/-- Texts one after the other. -/
def join (texts : List Text) : Text :=
  ofList (texts.flatMap toList)

/-- Texts with a separator between them. -/
def intercalate (separator : Text) (texts : List Text) : Text :=
  ofList (separator.toList.intercalate (texts.map toList))

/-- The text as characters, unless there is a surrogate in it. -/
def string? (text : Text) : Option String :=
  (text.toList.mapM Point.char?).map String.ofList

/-- The characters of a text, with the replacement character in the place of every surrogate. -/
def characters (text : Text) : List Char :=
  text.toList.map fun point => point.char?.getD '\ufffd'

/-- Texts are in the lexicographic order of the numbers of their code points. -/
instance : LT Text :=
  ⟨fun left right => left.toList.map Point.toNat < right.toList.map Point.toNat⟩

instance : LE Text :=
  ⟨fun left right => ¬right < left⟩

instance : DecidableLT Text := fun left right =>
  inferInstanceAs (Decidable (left.toList.map Point.toNat < right.toList.map Point.toNat))

instance : DecidableLE Text := fun left right =>
  inferInstanceAs (Decidable (¬right < left))

/-! ## Code points of texts -/

theorem toList_inj {left right : Text} : left.toList = right.toList ↔ left = right := by
  cases left
  cases right
  simp

@[simp]
theorem ofList_toList (text : Text) : ofList text.toList = text :=
  rfl

theorem toList_ofList (points : List Point) : (ofList points).toList = points :=
  rfl

@[simp]
theorem toList_ofString (characters : String) :
    (ofString characters).toList = characters.toList.map Point.scalar :=
  rfl

@[simp]
theorem toList_singleton (point : Point) : (singleton point).toList = [point] :=
  rfl

@[simp]
theorem toList_append (left right : Text) : (left ++ right).toList = left.toList ++ right.toList :=
  rfl

@[simp]
theorem toList_join (texts : List Text) : (join texts).toList = texts.flatMap toList :=
  rfl

@[simp]
theorem toList_intercalate (separator : Text) (texts : List Text) :
    (intercalate separator texts).toList = separator.toList.intercalate (texts.map toList) :=
  rfl

/-- Texts of the same characters are texts of equal strings. -/
@[simp]
theorem ofString_inj {left right : String} : ofString left = ofString right ↔ left = right := by
  rw [← toList_inj, toList_ofString, toList_ofString,
    List.map_inj_right fun _ _ => Point.scalar.inj, String.toList_inj]

@[simp]
theorem toList_eq_nil_iff {text : Text} : text.toList = [] ↔ text = "" := by
  rw [← toList_inj]
  rfl

@[simp]
theorem ofList_nil : ofList [] = "" :=
  rfl

@[simp]
theorem isEmpty_iff {text : Text} : text.isEmpty = true ↔ text = "" := by
  rw [isEmpty, List.isEmpty_iff, toList_eq_nil_iff]

@[simp]
theorem isEmpty_eq_false_iff {text : Text} : text.isEmpty = false ↔ text ≠ "" := by
  rw [← Bool.not_eq_true, isEmpty_iff]

/-! ## Texts in a row -/

theorem isEncodable_append (left right : Text) :
    (left ++ right).isEncodable = (left.isEncodable && right.isEncodable) := by
  simp [isEncodable]

@[simp]
theorem append_empty {text : Text} : text ++ ("" : Text) = text :=
  toList_inj.mp (List.append_nil _)

@[simp]
theorem empty_append {text : Text} : ("" : Text) ++ text = text :=
  toList_inj.mp (List.nil_append _)

theorem append_assoc (first second third : Text) :
    first ++ second ++ third = first ++ (second ++ third) :=
  toList_inj.mp (List.append_assoc _ _ _)

@[simp]
theorem append_right_inj (first : Text) {left right : Text} :
    first ++ left = first ++ right ↔ left = right := by
  rw [← toList_inj, toList_append, toList_append, List.append_right_inj, toList_inj]

@[simp]
theorem append_left_inj {left right : Text} (last : Text) :
    left ++ last = right ++ last ↔ left = right := by
  rw [← toList_inj, toList_append, toList_append, List.append_left_inj, toList_inj]

theorem ofList_append (left right : List Point) :
    ofList (left ++ right) = ofList left ++ ofList right :=
  rfl

theorem ofList_cons (point : Point) (points : List Point) :
    ofList (point :: points) = singleton point ++ ofList points :=
  rfl

@[simp]
theorem isEncodable_ofString (characters : String) : (ofString characters).isEncodable = true := by
  simp [isEncodable, Point.isSurrogate]

theorem isEncodable_iff {text : Text} :
    text.isEncodable = true ↔ ∀ point ∈ text.toList, point.isSurrogate = false := by
  simp [isEncodable]

/-- What can be encoded is made of characters. -/
theorem exists_string_of_isEncodable {text : Text} (encodable : text.isEncodable = true) :
    ∃ characters : String, text = characters := by
  refine ⟨String.ofList text.characters, ?_⟩
  rw [← toList_inj, toList_ofString, String.toList_ofList, characters, List.map_map]
  have same : ∀ point ∈ text.toList, point = Point.scalar (point.char?.getD '\ufffd') := by
    intro point member
    have isCharacter := isEncodable_iff.mp encodable point member
    cases point with
    | scalar => rfl
    | surrogate => cases isCharacter
  exact (List.map_id _).symm.trans (List.map_congr_left same)

theorem mapM_char?_eq_some_iff {points : List Point} {characters : List Char} :
    points.mapM Point.char? = some characters ↔ points = characters.map Point.scalar := by
  induction points generalizing characters with
  | nil => cases characters <;> simp
  | cons point rest ih =>
      rw [List.mapM_cons]
      cases point with
      | surrogate half => cases characters <;> simp [Point.char?]
      | scalar character =>
          cases characters with
          | nil => simp [Option.bind_eq_some_iff]
          | cons first others =>
              simp only [Point.char?_scalar, Option.pure_def, Option.bind_eq_bind,
                Option.bind_some, Option.bind_eq_some_iff, Option.some.injEq, List.cons.injEq, ih,
                List.map_cons, Point.scalar.injEq]
              constructor
              · rintro ⟨_, members, rfl, rfl⟩
                exact ⟨rfl, members⟩
              · rintro ⟨rfl, members⟩
                exact ⟨others, members, rfl, rfl⟩

/-- The string of a text has the same characters. -/
theorem string?_eq_some_iff {text : Text} {characters : String} :
    text.string? = some characters ↔ text = characters := by
  rw [string?, Option.map_eq_some_iff, ← toList_inj, toList_ofString, ← mapM_char?_eq_some_iff]
  constructor
  · rintro ⟨points, all, rfl⟩
    rwa [String.toList_ofList]
  · intro all
    exact ⟨_, all, String.ofList_toList⟩

@[simp]
theorem string?_ofString (characters : String) : (ofString characters).string? = some characters :=
  string?_eq_some_iff.mpr rfl

@[simp]
theorem append_eq_empty_iff {left right : Text} :
    left ++ right = ("" : Text) ↔ left = "" ∧ right = "" := by
  rw [← toList_inj, ← toList_inj, ← toList_inj]
  exact List.append_eq_nil_iff

theorem intercalate_nil (separator : Text) : separator.intercalate [] = "" :=
  rfl

theorem intercalate_singleton (separator text : Text) : separator.intercalate [text] = text := by
  simp [← toList_inj]

theorem intercalate_cons_cons (separator first second : Text) (rest : List Text) :
    separator.intercalate (first :: second :: rest) =
      first ++ separator ++ separator.intercalate (second :: rest) := by
  simp [← toList_inj]

@[simp]
theorem join_nil : join [] = "" :=
  rfl

theorem join_cons (text : Text) (texts : List Text) : join (text :: texts) = text ++ join texts :=
  toList_inj.mp List.flatMap_cons

@[simp]
theorem join_singleton (text : Text) : join [text] = text :=
  toList_inj.mp (List.flatMap_singleton _ _)

theorem join_append (left right : List Text) : join (left ++ right) = join left ++ join right :=
  toList_inj.mp List.flatMap_append

/-- The halves of a list are joined on their own, with a separator between them. -/
theorem intercalate_append_of_ne_nil {separator : Text} {left right : List Text}
    (leftNonempty : left ≠ []) (rightNonempty : right ≠ []) :
    separator.intercalate (left ++ right) =
      separator.intercalate left ++ separator ++ separator.intercalate right := by
  induction left with
  | nil => exact absurd rfl leftNonempty
  | cons first rest ih =>
      cases rest with
      | nil =>
          cases right with
          | nil => exact absurd rfl rightNonempty
          | cons next others =>
              rw [List.singleton_append, intercalate_cons_cons, intercalate_singleton]
      | cons next others =>
          rw [List.cons_append, List.cons_append, intercalate_cons_cons, intercalate_cons_cons,
            ← List.cons_append, ih (List.cons_ne_nil next others)]
          simp only [append_assoc]

/-! ## Order -/

protected theorem le_trans {first second third : Text} (lower : first ≤ second)
    (upper : second ≤ third) : first ≤ third :=
  List.le_trans lower upper

protected theorem le_total (left right : Text) : left ≤ right ∨ right ≤ left :=
  List.le_total (left.toList.map Point.toNat) (right.toList.map Point.toNat)

protected theorem not_le {left right : Text} : ¬left ≤ right ↔ right < left :=
  List.not_le

protected theorem le_antisymm {left right : Text} (forward : left ≤ right)
    (backward : right ≤ left) : left = right := by
  rw [← toList_inj]
  exact (List.map_inj_right fun _ _ => Point.toNat_inj.mp).mp (List.le_antisymm forward backward)

/-! ## Lengths -/

theorem length_ofList (points : List Point) : (ofList points).length = points.length :=
  rfl

theorem length_append (left right : Text) : (left ++ right).length = left.length + right.length :=
  List.length_append

end Text

end EntityForge
