/-!
# Indicators

A cell of the dashboard: a label and the class of its colour.
-/

namespace TrackerBoard

/-- The colour classes. -/
inductive Tone where
  | green
  | yellow
  | red
  | neutral
  | inactive
deriving DecidableEq, Repr

/-- A labelled cell. -/
structure Indicator where
  label : String
  tone : Tone
deriving DecidableEq, Repr

/-- What is shown for a value that cannot be shown. -/
def notAvailableLabel : String := "N/A"

/-- The cell of a value that cannot be shown. -/
def Indicator.notAvailable : Indicator := ⟨notAvailableLabel, .inactive⟩

/-- The cell of a value that may be absent. -/
def Indicator.ofOption {α : Type} (show? : α → Indicator) : Option α → Indicator
  | some a => show? a
  | none => notAvailable

end TrackerBoard
