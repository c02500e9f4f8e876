import TrackerBoard.Frame.Indicator

/-!
# The signal chart

The history is drawn as a step line: every sample holds until the next one starts.  The samples
are spread evenly over the width; the height stands for -100 dBm at its foot to 0 at its top, and
samples beyond are drawn at the edge.  Coordinates are single precision numbers.
-/

namespace TrackerBoard

/-- A point of the chart. -/
structure Vertex where
  x : Float32
  y : Float32

namespace Chart

/-- The level at the foot of the chart. -/
def lowest : Float32 := -100.0

/-- The level at its top. -/
def highest : Float32 := 0.0

/-- The single precision number nearest to a signed word. -/
def ofWord (n : Int64) : Float32 :=
  if n < 0 then -(n.toInt.natAbs.toUInt64.toFloat32) else n.toInt.natAbs.toUInt64.toFloat32

/-- The single precision number nearest to a count. -/
def ofCount (n : Nat) : Float32 := n.toUInt64.toFloat32

/-- The level to draw for a sample. -/
def clampLevel (level : Float32) : Float32 :=
  if level < lowest then lowest else if highest < level then highest else level

/-- How far below the top a sample is drawn. -/
def yFor (dbm : Int64) (height : Float32) : Float32 :=
  (highest - clampLevel (ofWord dbm)) / (highest - lowest) * height

/-- The vertices after that of a first sample: the level of `previous` is held up to the place of
the next sample, which is the `index`-th, and then left for its own. -/
def stepsFrom (step height : Float32) : Nat → Int64 → List Int64 → List Vertex
  | _, _, [] => []
  | index, previous, dbm :: samples =>
    let x := ofCount index * step
    ⟨x, yFor previous height⟩ :: ⟨x, yFor dbm height⟩ ::
      stepsFrom step height (index + 1) dbm samples

/-- The vertices of the step line of some samples. -/
def steppedPoints (samples : List Int64) (width height : Float32) : List Vertex :=
  match samples with
  | [] => []
  | dbm :: rest =>
    ⟨0.0, yFor dbm height⟩ ::
      stepsFrom (width / (ofCount samples.length - 1.0)) height 1 dbm rest

end Chart

/-- A colour, by its parts of red, green and blue between 0 and 1, and its opacity. -/
structure Color where
  red : Float32
  green : Float32
  blue : Float32
  alpha : Float32 := 1.0

/-- The colour of a class of indicators. -/
def Tone.color : Tone → Color
  | green => { red := 0.30, green := 0.80, blue := 0.35 }
  | yellow => { red := 0.95, green := 0.80, blue := 0.20 }
  | red => { red := 0.90, green := 0.25, blue := 0.20 }
  | neutral => { red := 0.90, green := 0.90, blue := 0.90 }
  | inactive => { red := 0.45, green := 0.45, blue := 0.50 }

end TrackerBoard
