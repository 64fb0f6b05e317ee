import EntityForge.Proofs.Layout.Characters
import Mathlib.Data.List.Chain
import Mathlib.Data.List.Forall2

/-!
# What writers print

A run of a writer is compared with a transcript of it.  A transcript keeps every character that was
added since the last clearing, together with the level that was in force when it came, and says
nothing about spaces: only when it is printed is each physical line indented, by the level of its
first character.  The text of a writer is the printed transcript after every operation of every
run, and operations other than clearing only add to it.
-/

namespace EntityForge.Layout

/-! ## Printed marks -/

/-- A character with the level that was in force when it was added. -/
structure Mark where
  character : Point
  level : Nat

namespace Mark

/-- Whether a mark ends its line. -/
def isFeed (mark : Mark) : Bool :=
  mark.character == .scalar '\n'

/-- The characters of a text, all added at one level. -/
def ofText (level : Nat) (text : List Point) : List Mark :=
  text.map fun character => ⟨character, level⟩

/-- The physical lines of marks: line feeds separate them. -/
def lines (marks : List Mark) : List (List Mark) :=
  marks.splitOnP isFeed

/-- A physical line as it is printed: the level of its first mark says how far it is indented, and
a line without marks carries no spaces. -/
def printLine (unit : Nat) : List Mark → List Point
  | [] => []
  | first :: rest =>
      List.replicate (unit * first.level) (.scalar ' ') ++ (first :: rest).map (·.character)

/-- The text of marks, with `unit` spaces a level. -/
def print (unit : Nat) (marks : List Mark) : List Point :=
  [.scalar '\n'].intercalate ((lines marks).map (printLine unit))

theorem lines_ne_nil (marks : List Mark) : lines marks ≠ [] :=
  List.splitOnP_ne_nil isFeed marks

/-- The line that is not ended yet. -/
def current (marks : List Mark) : List Mark :=
  (lines marks).getLastD []

/-- The lines of marks are those that are ended, and the current one. -/
theorem lines_eq (marks : List Mark) : (lines marks).dropLast ++ [current marks] = lines marks := by
  rw [current, List.getLastD_eq_getLast?, List.getLast?_eq_some_getLast (lines_ne_nil marks),
    Option.getD_some, List.dropLast_append_getLast]

theorem lines_concat_feed (marks : List Mark) {feed : Mark} (ends : feed.isFeed = true) :
    lines (marks ++ [feed]) = lines marks ++ [[]] := by
  rw [lines, List.splitOnP_append_cons marks [] ends, List.splitOnP_nil, lines]

/-- Marks without line feeds only lengthen the current line. -/
theorem lines_append (marks : List Mark) {more : List Mark}
    (single : ∀ mark ∈ more, mark.isFeed = false) :
    lines (marks ++ more) = (lines marks).dropLast ++ [current marks ++ more] := by
  induction marks with
  | nil => exact List.splitOnP_eq_singleton single
  | cons mark rest ih =>
      have found := (lines_eq rest).symm
      simp only [current, lines] at ih found ⊢
      rw [List.cons_append, List.splitOnP_cons_eq_if_modifyHead,
        List.splitOnP_cons_eq_if_modifyHead, ih, found]
      generalize (rest.splitOnP isFeed).dropLast = ended
      cases mark.isFeed with
      | true => simp [List.dropLast_cons_of_ne_nil, List.getLast?_cons]
      | false =>
          cases ended with
          | nil => simp
          | cons first others => simp [List.dropLast_cons_of_ne_nil, List.getLast?_cons]

theorem current_concat_feed (marks : List Mark) {feed : Mark} (ends : feed.isFeed = true) :
    current (marks ++ [feed]) = [] := by
  rw [current, lines_concat_feed marks ends, List.getLastD_concat]

theorem current_append (marks : List Mark) {more : List Mark}
    (single : ∀ mark ∈ more, mark.isFeed = false) :
    current (marks ++ more) = current marks ++ more := by
  rw [current, lines_append marks single, List.getLastD_concat]

/-- A joined list ends with the last of its texts. -/
theorem intercalate_concat {separator last : List Point} {texts : List (List Point)}
    (nonempty : texts ≠ []) :
    separator.intercalate (texts ++ [last]) = separator.intercalate texts ++ separator ++ last := by
  induction texts with
  | nil => exact absurd rfl nonempty
  | cons text rest ih =>
      cases rest with
      | nil => simp
      | cons next others =>
          have later := ih (List.cons_ne_nil next others)
          rw [List.cons_append, List.cons_append, List.intercalate_cons_cons,
            List.intercalate_cons_cons, ← List.cons_append, later]
          simp only [List.append_assoc]

theorem print_concat_feed (unit : Nat) (marks : List Mark) {feed : Mark}
    (ends : feed.isFeed = true) :
    print unit (marks ++ [feed]) = print unit marks ++ [.scalar '\n'] := by
  have nonempty : (lines marks).map (printLine unit) ≠ [] := by
    simpa using lines_ne_nil marks
  rw [print, lines_concat_feed marks ends, List.map_append, List.map_singleton,
    intercalate_concat nonempty, print]
  exact List.append_nil _

/-- What is added to a line that has text stands behind it, and the first text of a line stands
behind the spaces of its own level. -/
theorem printLine_append (unit level : Nat) (line : List Mark) {text : List Point}
    (filled : text ≠ []) :
    printLine unit (line ++ ofText level text) =
      printLine unit line ++
        (List.replicate (if line.isEmpty then unit * level else 0) (.scalar ' ') ++ text) := by
  obtain ⟨first, rest, rfl⟩ := List.exists_cons_of_ne_nil filled
  have characters : ∀ text, (ofText level text).map (·.character) = text := by
    intro text
    rw [ofText, List.map_map]
    exact List.map_id text
  cases line with
  | nil =>
      have begun := characters (first :: rest)
      rw [ofText, List.map_cons] at begun
      simp [printLine, ofText, begun]
  | cons mark others =>
      simp only [List.cons_append, printLine, List.map_cons, List.map_append, characters]
      simp

/-- Text without line feeds ends no line. -/
theorem isFeed_eq_false_of_mem_ofText (level : Nat) {text : List Point}
    (single : .scalar '\n' ∉ text) :
    ∀ mark ∈ ofText level text, mark.isFeed = false := by
  intro mark member
  obtain ⟨character, inText, rfl⟩ := List.mem_map.mp member
  exact beq_false_of_ne (ne_of_mem_of_not_mem inText single)

/-- Text without line feeds is printed behind what was there. -/
theorem print_append (unit level : Nat) (marks : List Mark) {text : List Point} (filled : text ≠ [])
    (single : .scalar '\n' ∉ text) :
    print unit (marks ++ ofText level text) =
      print unit marks ++
        (List.replicate (if (current marks).isEmpty then unit * level else 0) (.scalar ' ') ++
          text) := by
  have plain := isFeed_eq_false_of_mem_ofText level single
  rw [print, lines_append marks plain, print, ← lines_eq marks, List.dropLast_concat]
  rw [List.map_append, List.map_append, List.map_singleton, List.map_singleton,
    printLine_append unit level _ filled]
  cases (lines marks).dropLast with
  | nil => simp
  | cons first others =>
      have nonempty : (first :: others).map (printLine unit) ≠ [] := by simp
      rw [intercalate_concat nonempty, intercalate_concat nonempty]
      simp only [List.append_assoc]

theorem print_prefix (unit : Nat) (marks more : List Mark) :
    print unit marks <+: print unit (marks ++ more) := by
  induction more generalizing marks with
  | nil => simp
  | cons mark rest ih =>
      have first : print unit marks <+: print unit (marks ++ [mark]) := by
        cases ends : mark.isFeed with
        | true => exact ⟨_, (print_concat_feed unit marks ends).symm⟩
        | false =>
            have single : .scalar '\n' ∉ [mark.character] := by
              rw [List.mem_singleton]
              exact (ne_of_beq_false ends).symm
            exact ⟨_, (print_append unit mark.level marks (by simp) single).symm⟩
      have later := ih (marks ++ [mark])
      rw [List.append_assoc] at later
      exact first.trans later

end Mark

/-! ## Transcripts -/

/-- What was added since the last clearing, and the level that is in force now. -/
structure Transcript where
  level : Nat := 0
  marks : List Mark := []

namespace Transcript

/-- The transcript after a text. -/
def add (transcript : Transcript) (text : Text) : Transcript :=
  { transcript with marks := transcript.marks ++ Mark.ofText transcript.level text.toList }

/-- The transcript one level deeper. -/
def increase (transcript : Transcript) : Transcript :=
  { transcript with level := transcript.level + 1 }

/-- The transcript one level back.  At the outermost level that is refused, and nothing changes. -/
def decrease (transcript : Transcript) : Transcript :=
  { transcript with level := transcript.level - 1 }

/-- The text of a transcript, with `unit` spaces a level. -/
def print (unit : Nat) (transcript : Transcript) : List Point :=
  Mark.print unit transcript.marks

/-- Whether a writer shows a transcript: the level, and the text with its length. -/
structure IsShownBy (unit : Nat) (transcript : Transcript) (writer : Writer) : Prop where
  level : writer.level = transcript.level
  text : writer.text.toList = transcript.print unit
  length : writer.length = (transcript.print unit).length

/-- A writer that has written a transcript, in a single part. -/
def written (unit : Nat) (transcript : Transcript) : Writer where
  unit := unit
  level := transcript.level
  parts := [Text.ofList (transcript.print unit)]
  atLineStart := (Mark.current transcript.marks).isEmpty

theorem text_written (unit : Nat) (transcript : Transcript) :
    (transcript.written unit).text = Text.ofList (transcript.print unit) := by
  simp [written, Writer.text]

theorem isShownBy_of_agrees {unit : Nat} {transcript : Transcript} {writer : Writer}
    (agrees : Writer.Agrees (transcript.written unit) writer) :
    transcript.IsShownBy unit writer := by
  have text : writer.text = Text.ofList (transcript.print unit) :=
    agrees.text.symm.trans (transcript.text_written unit)
  exact
    { level := agrees.level.symm
      text := by rw [text, Text.toList_ofList]
      length := by rw [Writer.length_eq, text, Text.length_ofList] }

end Transcript

/-- A moment of a run: an operation that has just ended, and the transcript by then. -/
structure Moment where
  operation : Command
  transcript : Transcript

namespace Command

mutual

/-- The transcript after an operation, behind the moments inside it. -/
def record (past : Transcript) : Command → List Moment × Transcript
  | .append text => ([], past.add text)
  | .appendLine text => ([], past.add (text ++ "\n"))
  | .increase => ([], past.increase)
  | .decrease => ([], past.decrease)
  | .clear => ([], {})
  | .block body _ =>
      let (moments, inside) := recordAll past.increase body
      (moments, inside.decrease)

/-- The moments of operations one after the other, and the transcript after them. -/
def recordAll (past : Transcript) : List Command → List Moment × Transcript
  | [] => ([], past)
  | command :: rest =>
      let (inside, after) := record past command
      let (later, last) := recordAll after rest
      (inside ++ ⟨command, after⟩ :: later, last)

end

end Command

/-! ## Writers and transcripts -/

namespace Writer

theorem appendPiece_written (unit : Nat) (past : Transcript) {piece : Text}
    (single : .scalar '\n' ∉ piece.toList) :
    Agrees ((past.add piece).written unit) ((past.written unit).appendPiece piece) := by
  by_cases empty : piece = ""
  · have same : past.add "" = past := by simp [Transcript.add, Mark.ofText]
    rw [empty, same, appendPiece_empty]
    exact .refl _
  have filled : piece.toList ≠ [] := by simpa using empty
  have text := Mark.print_append unit past.level past.marks filled single
  have line := Mark.current_append past.marks
    (Mark.isFeed_eq_false_of_mem_ofText past.level single)
  have added := text_appendPiece_of_ne (past.written unit) empty
  rw [appendPiece_of_ne _ empty] at added ⊢
  refine ⟨(unit_indent (past.written unit)).symm, (level_indent (past.written unit)).symm, ?_,
    fun _ => ?_⟩
  · rw [added, Transcript.text_written, Transcript.text_written, Transcript.print,
      Transcript.add, text, spaces]
    simp [Transcript.written, Transcript.print, ← Text.toList_inj]
  · refine Eq.trans ?_ (atLineStart_indent (past.written unit)).symm
    have begun : Mark.current (past.add piece).marks ≠ [] := by
      rw [Transcript.add, line]
      simp [Mark.ofText, filled]
    rw [Transcript.written, List.isEmpty_eq_false_iff.mpr begun]

/-- A line feed ends the line, at whatever level it comes. -/
theorem newline_written (unit : Nat) (past : Transcript) :
    Agrees ((past.add "\n").written unit) (past.written unit).newline := by
  have ends : (Mark.mk '\n' past.level).isFeed = true := rfl
  have text := Mark.print_concat_feed unit past.marks ends
  have line := Mark.current_concat_feed past.marks ends
  have feed : Mark.ofText past.level ("\n" : Text).toList = [⟨'\n', past.level⟩] := rfl
  refine ⟨rfl, rfl, ?_, fun _ => ?_⟩
  · rw [text_newline, Transcript.text_written, Transcript.text_written, Transcript.print,
      Transcript.add, feed, text, Text.ofList_append]
    rfl
  · rw [Transcript.written, Transcript.add, feed, line]
    rfl

theorem add_add (past : Transcript) (first second : Text) :
    (past.add first).add second = past.add (first ++ second) := by
  simp [Transcript.add, Mark.ofText]

theorem put_written (unit : Nat) (past : Transcript) (character : Point) :
    Agrees ((past.add (Text.singleton character)).written unit)
      ((past.written unit).put character) := by
  by_cases feed : character = '\n'
  · rw [feed, put_feed]
    exact newline_written unit past
  · have single : .scalar '\n' ∉ (Text.singleton character).toList := by
      rw [Text.toList_singleton, List.mem_singleton]
      exact Ne.symm feed
    rw [put_of_ne _ feed]
    exact appendPiece_written unit past single

variable {unit : Nat} {past : Transcript} {writer : Writer}

theorem foldl_put_of_agrees (agrees : Agrees (past.written unit) writer)
    (characters : List Point) :
    Agrees ((past.add (Text.ofList characters)).written unit)
      (characters.foldl put writer) := by
  induction characters generalizing past writer with
  | nil => simpa [Transcript.add, Mark.ofText] using agrees
  | cons character rest ih =>
      have whole : past.add (Text.ofList (character :: rest)) =
          (past.add (Text.singleton character)).add (Text.ofList rest) := by
        rw [add_add, ← Text.ofList_cons]
      rw [List.foldl_cons, whole]
      exact ih ((put_written unit past character).trans (agrees.put character))

/-- Added text is recorded as it stands, line feeds and all. -/
theorem append_of_agrees (agrees : Agrees (past.written unit) writer) (text : Text) :
    Agrees ((past.add text).written unit) (writer.append text) := by
  have characters := foldl_put_of_agrees agrees text.toList
  rw [Text.ofList_toList] at characters
  exact characters.trans (append_agrees_foldl writer text).symm

theorem appendLine_of_agrees (agrees : Agrees (past.written unit) writer) (text : Text) :
    Agrees ((past.add (text ++ "\n")).written unit) (writer.appendLine text) :=
  (append_of_agrees agrees _).trans (appendLine_agrees_append writer text).symm

/-- The writer one level back, or as it is where that is refused. -/
def lowered (writer : Writer) : Writer :=
  match writer.decrease with
  | .ok lower => lower
  | .error _ => writer

theorem lowered_of_agrees (agrees : Agrees (past.written unit) writer) :
    Agrees (past.decrease.written unit) writer.lowered := by
  have level : past.level = writer.level := agrees.level
  rw [lowered, decrease]
  cases outside : writer.level with
  | zero =>
      have kept : past.decrease = past := by
        have same : past.level - 1 = past.level := by omega
        rw [Transcript.decrease, same]
      rw [kept]
      exact agrees
  | succ lower =>
      have left : past.decrease.written unit = { past.written unit with level := lower } := by
        simp [Transcript.decrease, Transcript.written, Transcript.print, level, outside]
      rw [left]
      exact agrees.atLevel lower

theorem clear_of_agrees (agrees : Agrees (past.written unit) writer) :
    Agrees (Transcript.written unit {}) writer.clear :=
  ⟨agrees.unit, rfl, rfl, fun _ => rfl⟩

end Writer

namespace Command

theorem run_decrease (writer : Writer) :
    (run writer .decrease).1 = writer.lowered ∧ (run writer .decrease).2.1 = [] := by
  rw [run, Writer.lowered]
  cases writer.decrease <;> exact ⟨rfl, rfl⟩

/-- A block is left whether its body fails or not. -/
theorem run_block (writer : Writer) (body : List Command) (failure : Option Text) :
    (run writer (.block body failure)).1 = (runAll writer.increase body).1.lowered ∧
      (run writer (.block body failure)).2.1 = (runAll writer.increase body).2 := by
  rw [run, Writer.lowered]
  dsimp only
  cases (runAll writer.increase body).1.decrease with
  | ok lower => exact ⟨rfl, rfl⟩
  | error refusal => exact ⟨rfl, rfl⟩

/-- Whether steps show the transcripts of moments, one by one. -/
def Show (unit : Nat) : List Step → List Moment → Prop :=
  List.Forall₂ fun step moment => Writer.Agrees (moment.transcript.written unit) step.writer

mutual

/-- A run of a writer writes what the transcript of the run records. -/
theorem run_written {unit : Nat} {past : Transcript} {writer : Writer}
    (agrees : Writer.Agrees (past.written unit) writer) :
    (command : Command) →
      Writer.Agrees ((record past command).2.written unit) (run writer command).1 ∧
      Show unit (run writer command).2.1 (record past command).1
  | .append text => ⟨Writer.append_of_agrees agrees text, .nil⟩
  | .appendLine text => ⟨Writer.appendLine_of_agrees agrees text, .nil⟩
  | .increase => ⟨agrees.increase, .nil⟩
  | .decrease => by
      obtain ⟨left, noSteps⟩ := run_decrease writer
      rw [left, noSteps]
      exact ⟨Writer.lowered_of_agrees agrees, .nil⟩
  | .clear => ⟨Writer.clear_of_agrees agrees, .nil⟩
  | .block body failure => by
      have entered : Writer.Agrees (past.increase.written unit) writer.increase := agrees.increase
      obtain ⟨inside, steps⟩ := runAll_written entered body
      obtain ⟨left, shown⟩ := run_block writer body failure
      rw [left, shown]
      exact ⟨Writer.lowered_of_agrees inside, steps⟩

theorem runAll_written {unit : Nat} {past : Transcript} {writer : Writer}
    (agrees : Writer.Agrees (past.written unit) writer) :
    (commands : List Command) →
      Writer.Agrees ((recordAll past commands).2.written unit) (runAll writer commands).1 ∧
      Show unit (runAll writer commands).2 (recordAll past commands).1
  | [] => ⟨agrees, .nil⟩
  | command :: rest => by
      obtain ⟨after, inside⟩ := run_written agrees command
      obtain ⟨last, later⟩ := runAll_written after rest
      exact ⟨last, List.rel_append inside (.cons after later)⟩

end

end Command

/-! ## Growth -/

/-- Moments at each of which there is at least what was there before, unless it was a clearing. -/
inductive Grows : List Mark → List Moment → List Mark → Prop where
  | none (past : List Mark) : Grows past [] past
  | moment {past last : List Mark} {moment : Moment} {later : List Moment} :
      (moment.operation ≠ .clear → past <+: moment.transcript.marks) →
      Grows moment.transcript.marks later last → Grows past (moment :: later) last

namespace Grows

theorem append {past between last : List Mark} {moments later : List Moment}
    (first : Grows past moments between) (second : Grows between later last) :
    Grows past (moments ++ later) last := by
  induction first with
  | none past => exact second
  | moment grown _ ih => exact .moment grown (ih second)

/-- An operation that adds or keeps what is there. -/
theorem single {past : List Mark} {operation : Command} {after : Transcript}
    (grown : past <+: after.marks) : Grows past [⟨operation, after⟩] after.marks :=
  .moment (fun _ => grown) (.none _)

/-- The texts that are printed by then grow, too. -/
theorem isChain_print (unit : Nat) {past last : List Mark} {moments : List Moment}
    (grows : Grows past moments last) (start : Moment) (same : start.transcript.marks = past) :
    ((start :: moments).map fun moment => (moment.transcript.print unit, moment)).IsChain
      fun before after => after.2.operation ≠ .clear → before.1 <+: after.1 := by
  induction grows generalizing start with
  | none past => exact .singleton _
  | @moment past last moment later grown _ ih =>
      refine .cons_cons ?_ (ih moment rfl)
      intro kept
      obtain ⟨more, shape⟩ := grown kept
      simp only [Transcript.print, same, ← shape]
      exact Mark.print_prefix unit past more

end Grows

namespace Command

mutual

theorem grows_record (past : Transcript) :
    (command : Command) →
      Grows past.marks ((record past command).1 ++ [⟨command, (record past command).2⟩])
        (record past command).2.marks
  | .append _ => .single (List.prefix_append _ _)
  | .appendLine _ => .single (List.prefix_append _ _)
  | .increase => .single (List.prefix_refl _)
  | .decrease => .single (List.prefix_refl _)
  | .clear => .moment (fun other => absurd rfl other) (.none _)
  | .block body _ => (grows_recordAll past.increase body).append (.single (List.prefix_refl _))

theorem grows_recordAll (past : Transcript) :
    (commands : List Command) →
      Grows past.marks (recordAll past commands).1 (recordAll past commands).2.marks
  | [] => .none past.marks
  | command :: rest => by
      have here := grows_record past command
      have later := grows_recordAll (record past command).2 rest
      have whole := here.append later
      rw [List.append_assoc, List.singleton_append] at whole
      exact whole

end

/-- The texts of steps are those that are printed of the moments. -/
theorem Show.zip_eq {unit : Nat} {steps : List Step} {moments : List Moment}
    (shows : Show unit steps moments) :
    (((steps.map (·.writer)).zip moments).map fun shown => (shown.1.text.toList, shown.2)) =
      moments.map fun moment => (moment.transcript.print unit, moment) := by
  induction shows with
  | nil => rfl
  | cons agrees _ ih =>
      simp only [List.map_cons, List.zip_cons_cons, ih,
        (Transcript.isShownBy_of_agrees agrees).text]

/-- What a writer shows after every operation of a run, inside blocks and behind refused operations,
too: the level, and the text that was added since the last clearing, where the spaces in front of a
line are those of the level at which its first text came.  After every operation but clearing, the
text begins with the text before. -/
theorem text_of_runAll (unit : Nat) (commands : List Command) :
    ∃ fresh, Writer.ofUnit unit = .ok fresh ∧
      let (last, steps) := runAll fresh commands
      let (moments, whole) := recordAll {} commands
      whole.IsShownBy unit last ∧
      List.Forall₂ (fun step moment => moment.transcript.IsShownBy unit step.writer)
        steps moments ∧
      ((fresh, ⟨.clear, {}⟩) :: (steps.map (·.writer)).zip moments).IsChain
        fun before after => after.2.operation ≠ .clear →
          before.1.text.toList <+: after.1.text.toList := by
  let fresh : Writer := { unit }
  have begun : Writer.Agrees (Transcript.written unit {}) fresh := ⟨rfl, rfl, rfl, fun _ => rfl⟩
  obtain ⟨last, shows⟩ := runAll_written begun commands
  refine ⟨fresh, rfl, Transcript.isShownBy_of_agrees last, ?_, ?_⟩
  · exact shows.imp fun _ _ agrees => Transcript.isShownBy_of_agrees agrees
  · have grown := (grows_recordAll {} commands).isChain_print unit ⟨.clear, {}⟩ rfl
    have texts := shows.zip_eq
    have start : fresh.text.toList = Transcript.print unit {} := rfl
    rw [List.map_cons, ← texts, ← start] at grown
    let shownBy (shown : Writer × Moment) : List Point × Moment := (shown.1.text.toList, shown.2)
    have whole : List.IsChain _ (((fresh, ⟨.clear, {}⟩) :: _).map shownBy) := grown
    exact (List.isChain_map shownBy).mp whole

/-- A line that is begun outside a block stays as it was begun, the next one is indented inside the
block, and the block is left although its body fails. -/
example :
    (runAll {}
      [.append "a", .block [.append "b\nc", .append "d\n"] (some "boom"), .append "e"]).1.text =
        "ab\n    cd\ne" := by
  cbv

end Command

end EntityForge.Layout
