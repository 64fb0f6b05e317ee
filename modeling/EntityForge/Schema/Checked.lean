import EntityForge.Data.Basic
import EntityForge.Schema.Issue

/-!
# Checked readings

The outcome of reading untyped data: a value, or everything that is wrong with the data.  Readings
that are put side by side report the issues of all of them.
-/

namespace EntityForge.Schema

/-- A value, or the issues that stand in its way. -/
inductive Checked (α : Type) where
  | valid (value : α)
  | invalid (issues : List Issue)
  deriving Repr

namespace Checked

variable {α β : Type}

/-- A single issue at the place that is being read. -/
def issue (kind : Kind) : Checked α :=
  .invalid [⟨kind, []⟩]

def map (image : α → β) : Checked α → Checked β
  | .valid value => .valid (image value)
  | .invalid issues => .invalid issues

/-- Applies a checked function to a checked argument and keeps the issues of both. -/
def apply : Checked (α → β) → Checked α → Checked β
  | .valid function, .valid value => .valid (function value)
  | .valid _, .invalid issues => .invalid issues
  | .invalid issues, .valid _ => .invalid issues
  | .invalid issues, .invalid more => .invalid (issues ++ more)

/-- Continues with a reading that needs the value of the first one. -/
def andThen : Checked α → (α → Checked β) → Checked β
  | .valid value, next => next value
  | .invalid issues, _ => .invalid issues

/-- The same reading one step further inside. -/
def under (step : Step) : Checked α → Checked α
  | .valid value => .valid value
  | .invalid issues =>
      .invalid (issues.map fun issue => { issue with path := step :: issue.path })

instance : Applicative Checked where
  map := map
  pure := .valid
  seq function argument := apply function (argument ())

/-- Reads the items of a list, each under its position counted from `start`. -/
def items (read : Data → Checked α) (start : Nat) : List Data → Checked (List α)
  | [] => .valid []
  | item :: rest =>
      List.cons <$> ((read item).under (.index start)) <*> items read (start + 1) rest

end Checked

end EntityForge.Schema
