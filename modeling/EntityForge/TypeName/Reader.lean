import EntityForge.Text.Split
import EntityForge.TypeName.Basic

/-!
# Reading type names

A type name is read from the outside inwards: blanks around it are dropped, a pair of square
brackets at its end makes an array, and the text between the first `<` and a closing `>` holds the
arguments of a generic application, which commas outside all inner brackets separate.
-/

namespace EntityForge.TypeName

open EntityForge.Text

/-- The letters, digits and the underscore of ASCII, which are all that a type name is made of. -/
def isNamePart (character : Point) : Bool :=
  character.isAlpha || character.isDigit || character == '_'

/-- An identifier of ASCII characters. -/
def isSimpleName : List Point → Bool
  | [] => false
  | first :: rest => (first.isAlpha || first == '_') && rest.all isNamePart

/-- Whether a text is identifiers joined by dots. -/
def isQualifiedName (text : List Point) : Bool :=
  (splitOn '.' text).all isSimpleName

/-- The pieces of an argument list between its commas outside angle brackets, where `depth`
brackets are open and `piece` holds the characters since the last comma in reverse. -/
def splitArgumentsFrom (depth : Nat) (piece : List Point) :
    List Point → Except TypeFault.Reason (List (List Point))
  | [] => if depth = 0 then .ok [piece.reverse] else .error .unbalancedOpen
  | character :: rest =>
      if character = '<' then
        splitArgumentsFrom (depth + 1) (character :: piece) rest
      else if character = '>' then
        match depth with
        | 0 => .error .unbalancedClose
        | depth + 1 => splitArgumentsFrom depth (character :: piece) rest
      else if character = ',' ∧ depth = 0 then
        (splitArgumentsFrom 0 [] rest).map (piece.reverse :: ·)
      else
        splitArgumentsFrom depth (character :: piece) rest

/-- The arguments of a generic application, without blanks around them. -/
def splitArguments (text : List Point) : Except TypeFault.Reason (List (List Point)) :=
  (splitArgumentsFrom 0 [] text).map (·.map trim)

theorem length_le_of_mem_splitArgumentsFrom {text piece : List Point} {depth : Nat}
    {found : List (List Point)} (split : splitArgumentsFrom depth piece text = .ok found) :
    ∀ member ∈ found, member.length ≤ piece.length + text.length := by
  induction text generalizing depth piece found with
  | nil =>
      simp only [splitArgumentsFrom] at split
      split at split
      · cases split
        simp
      · cases split
  | cons character rest ih =>
      simp only [splitArgumentsFrom] at split
      have step : ∀ {depth : Nat} {found : List (List Point)},
          splitArgumentsFrom depth (character :: piece) rest = .ok found →
          ∀ member ∈ found, member.length ≤ piece.length + (character :: rest).length := by
        intro depth found split member inFound
        have bound := ih split member inFound
        simp only [List.length_cons] at bound ⊢
        omega
      split at split
      · exact step split
      · split at split
        · split at split
          · cases split
          · exact step split
        · split at split
          · cases tail : splitArgumentsFrom 0 [] rest with
            | error reason => simp [tail, Except.map] at split
            | ok others =>
                simp only [tail, Except.map, Except.ok.injEq] at split
                subst split
                intro member inFound
                rcases List.mem_cons.mp inFound with same | inOthers
                · subst same
                  simp
                · have bound := ih tail member inOthers
                  simp only [List.length_nil, List.length_cons] at bound ⊢
                  omega
          · exact step split

theorem length_le_of_mem_splitArguments {text : List Point} {found : List (List Point)}
    (split : splitArguments text = .ok found) :
    ∀ member ∈ found, member.length ≤ text.length := by
  cases untrimmed : splitArgumentsFrom 0 [] text with
  | error reason => simp [splitArguments, untrimmed, Except.map] at split
  | ok raw =>
      simp only [splitArguments, untrimmed, Except.map, Except.ok.injEq] at split
      subst split
      intro member inFound
      obtain ⟨piece, inRaw, rfl⟩ := List.mem_map.mp inFound
      have bound := length_le_of_mem_splitArgumentsFrom untrimmed piece inRaw
      have trimmed := length_trim_le piece
      simp only [List.length_nil] at bound
      omega

/-- The text before the last two characters where these are `[]`. -/
def arrayElement? (text : List Point) : Option (List Point) :=
  match text.reverse with
  | ']' :: '[' :: element => some element.reverse
  | _ => none

theorem length_lt_of_arrayElement? {text element : List Point}
    (found : arrayElement? text = some element) : element.length < text.length := by
  unfold arrayElement? at found
  split at found
  · rename_i rest shape
    cases found
    have lengths := congrArg List.length shape
    simp only [List.length_reverse, List.length_cons] at lengths ⊢
    omega
  · cases found

/-- The parts of a generic application: the head before the first `<` and the text between it and
the last character. -/
def genericParts (text : List Point) : List Point × List Point :=
  (text.takeWhile (· != .scalar '<'), (text.dropWhile (· != .scalar '<')).tail.dropLast)

theorem length_genericParts_lt {text : List Point} (opening : .scalar '<' ∈ text) :
    (genericParts text).2.length < text.length := by
  have shorter := (List.dropWhile_sublist (· != .scalar '<') (l := text)).length_le
  have nonempty : 0 < text.length := List.length_pos_of_mem opening
  simp only [genericParts, List.length_dropLast, List.length_tail]
  omega

/-- Reads a type expression. -/
def readChars (text : List Point) : Except TypeFault TypeTree :=
  let cleaned := trim text
  if cleaned.isEmpty then
    .error ⟨Text.ofList text, .emptyName⟩
  else
    match _array : arrayElement? cleaned with
    | some element => (readChars element).map .array
    | none =>
        if ("System.Nullable<" : Text).toList.isPrefixOf cleaned &&
            cleaned.getLast? == some (.scalar '>') then
          .error ⟨Text.ofList cleaned, .nullableApplication⟩
        else if _opening : .scalar '<' ∈ cleaned then
          if cleaned.getLast? != some (.scalar '>') then
            .error ⟨Text.ofList cleaned, .malformedGeneric⟩
          else
            let head := trim (genericParts cleaned).1
            match _split : splitArguments (genericParts cleaned).2 with
            | .error reason => .error ⟨Text.ofList (genericParts cleaned).2, reason⟩
            | .ok arguments =>
                if !isQualifiedName head || arguments.any (·.isEmpty) then
                  .error ⟨Text.ofList cleaned, .malformedGeneric⟩
                else
                  (arguments.attach.mapM fun argument => readChars argument.1).map
                    (.generic (Text.ofList head))
        else if isQualifiedName cleaned then
          .ok (.named (Text.ofList cleaned))
        else
          .error ⟨Text.ofList cleaned, .notAName⟩
termination_by text.length
decreasing_by
  · exact Nat.lt_of_lt_of_le (length_lt_of_arrayElement? _array) (length_trim_le text)
  · have inner := length_le_of_mem_splitArguments _split argument.1 argument.2
    have parts := length_genericParts_lt _opening
    have cleaner : cleaned.length ≤ text.length := length_trim_le text
    omega

/-- The type expression that a text spells. -/
def read (text : Text) : Except TypeFault TypeTree :=
  readChars text.toList

/-- The canonical form of a type name. -/
def canonical (text : Text) : Except TypeFault Text :=
  (read text).map TypeTree.print

end EntityForge.TypeName
