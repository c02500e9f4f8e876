import TrackerBoard.Dashboard.Chart

/-! # The step line of the signal chart

Each step of the line adds two vertices, and takes what it needs from the sample before and the one
that it comes to: the level of the former, held up to the place of the latter, and then the level of
the latter.  So every second vertex begins a level and the vertex behind it ends it
(`getElem?_steppedPoints_even`, `getElem?_steppedPoints_odd`), and the line holds every sample once,
in order (`drawsSteps`).  Coordinates are compared, never computed.
-/

namespace TrackerBoard.Chart

/-- The distance of a sample from the left edge: a step for each sample before it. -/
def place (count : Nat) (width : Float32) : Nat → Float32
  | 0 => 0.0
  | i + 1 => ofCount (i + 1) * (width / (ofCount count - 1.0))

/-- Every second vertex, from the first on. -/
def levelStarts : List Vertex → List Vertex
  | [] => []
  | [v] => [v]
  | v :: _ :: vertices => v :: levelStarts vertices

variable {samples : List Int64} {width height step : Float32} {index i : Nat}
  {previous dbm next : Int64}

/-! ### The steps behind a sample -/

/-- Each sample adds two vertices. -/
theorem length_stepsFrom :
    (stepsFrom step height index previous samples).length = 2 * samples.length := by
  induction samples generalizing index previous with
  | nil => rfl
  | cons dbm samples ih =>
    rw [stepsFrom, List.length_cons, List.length_cons, ih, List.length_cons]
    omega

/-- Both vertices of a step are at the place of the sample that it comes to: the one at the level
of the sample before, the other at its own. -/
theorem getElem?_stepsFrom (hprevious : (previous :: samples)[i]? = some dbm)
    (hnext : samples[i]? = some next) :
    (stepsFrom step height index previous samples)[2 * i]? =
        some ⟨ofCount (i + index) * step, yFor dbm height⟩ ∧
      (stepsFrom step height index previous samples)[2 * i + 1]? =
        some ⟨ofCount (i + index) * step, yFor next height⟩ := by
  induction samples generalizing index previous i with
  | nil => cases hnext
  | cons sample samples ih =>
    cases i with
    | zero =>
      obtain rfl : previous = dbm := Option.some.inj hprevious
      obtain rfl : sample = next := Option.some.inj hnext
      rw [Nat.zero_add]
      exact ⟨rfl, rfl⟩
    | succ i =>
      have hindex : i + 1 + index = i + (index + 1) := by omega
      rw [hindex]
      exact ih hprevious hnext

/-- The levels begin at the samples, one after the other. -/
theorem map_levelStarts_stepsFrom (x : Float32) :
    (levelStarts (⟨x, yFor previous height⟩ :: stepsFrom step height index previous samples)).map
      Vertex.y = (previous :: samples).map (yFor · height) := by
  induction samples generalizing index previous x with
  | nil => rfl
  | cons dbm samples ih =>
    rw [stepsFrom, levelStarts, List.map_cons, ih]
    rfl

/-! ### The whole line -/

theorem length_steppedPoints :
    (steppedPoints samples width height).length = 2 * samples.length - 1 := by
  cases samples with
  | nil => rfl
  | cons dbm samples =>
    rw [steppedPoints, List.length_cons, length_stepsFrom, List.length_cons]
    omega

/-- A sample begins its level at its own place. -/
theorem getElem?_steppedPoints_even (h : samples[i]? = some dbm) :
    (steppedPoints samples width height)[2 * i]? =
      some ⟨place samples.length width i, yFor dbm height⟩ := by
  cases samples with
  | nil => cases h
  | cons first samples =>
    cases i with
    | zero =>
      obtain rfl : first = dbm := Option.some.inj h
      rfl
    | succ i =>
      have hbefore : i < (first :: samples).length := by
        have hlt := (List.getElem?_eq_some_iff.mp h).1
        omega
      exact (getElem?_stepsFrom (List.getElem?_eq_getElem hbefore) h).2

/-- A sample with another behind it ends its level at the place of that one. -/
theorem getElem?_steppedPoints_odd (h : samples[i]? = some dbm) (hnext : i + 1 < samples.length) :
    (steppedPoints samples width height)[2 * i + 1]? =
      some ⟨place samples.length width (i + 1), yFor dbm height⟩ := by
  cases samples with
  | nil => cases h
  | cons first samples =>
    have hbehind : i < samples.length := Nat.lt_of_succ_lt_succ hnext
    exact (getElem?_stepsFrom h (List.getElem?_eq_getElem hbehind)).1

theorem map_levelStarts_steppedPoints :
    (levelStarts (steppedPoints samples width height)).map Vertex.y =
      samples.map (yFor · height) := by
  cases samples with
  | nil => rfl
  | cons dbm samples => exact map_levelStarts_stepsFrom 0.0

/-- The vertices of a line that draws samples as steps. -/
structure DrawsSteps (samples : List Int64) (width height : Float32) (vertices : List Vertex) :
    Prop where
  length_few : samples.length < 2 → vertices.length = samples.length
  length_many : 2 ≤ samples.length → vertices.length = 2 * samples.length - 1
  start : ∀ v, vertices[0]? = some v → v.x = (0.0 : Float32)
  /-- A sample's level begins at its own place -/
  begins : ∀ i dbm, samples[i]? = some dbm →
    vertices[2 * i]? = some ⟨place samples.length width i, yFor dbm height⟩
  /-- and is held up to the place of the next one. -/
  holds : ∀ i dbm, samples[i]? = some dbm → i + 1 < samples.length →
    vertices[2 * i + 1]? = some ⟨place samples.length width (i + 1), yFor dbm height⟩
  /-- The line goes across and up or down in turn. -/
  across : ∀ i u v, vertices[2 * i]? = some u → vertices[2 * i + 1]? = some v → u.y = v.y
  upOrDown : ∀ i u v, vertices[2 * i + 1]? = some u → vertices[2 * i + 2]? = some v → u.x = v.x
  /-- Its levels are those of all samples in their order, each of them once. -/
  levels : (levelStarts vertices).map Vertex.y = samples.map (yFor · height)

/-- **The step line holds every sample from its own place to the next one's.** -/
theorem drawsSteps (samples : List Int64) (width height : Float32) :
    DrawsSteps samples width height (steppedPoints samples width height) where
  length_few h := by
    rw [length_steppedPoints]
    omega
  length_many _ := length_steppedPoints
  start v hv := by
    cases samples with
    | nil => cases hv
    | cons dbm samples =>
      obtain rfl := Option.some.inj hv
      rfl
  begins _ _ := getElem?_steppedPoints_even
  holds _ _ := getElem?_steppedPoints_odd
  across i u v hu hv := by
    have hlength := (List.getElem?_eq_some_iff.mp hv).1
    rw [length_steppedPoints] at hlength
    have hi : i < samples.length := by omega
    have hsample := List.getElem?_eq_getElem hi
    rw [getElem?_steppedPoints_even hsample] at hu
    rw [getElem?_steppedPoints_odd hsample (by omega)] at hv
    rw [← Option.some.inj hu, ← Option.some.inj hv]
  upOrDown i u v hu hv := by
    have hlength := (List.getElem?_eq_some_iff.mp hv).1
    rw [length_steppedPoints] at hlength
    have hi : i + 1 < samples.length := by omega
    rw [getElem?_steppedPoints_odd (List.getElem?_eq_getElem (by omega)) hi] at hu
    rw [← Nat.mul_succ, getElem?_steppedPoints_even (List.getElem?_eq_getElem hi)] at hv
    rw [← Option.some.inj hu, ← Option.some.inj hv]
  levels := map_levelStarts_steppedPoints

/-- The second of three samples is held up to the third. -/
theorem drawsSteps_second :
    (steppedPoints [-100, -50, -63] 200 100)[2]? = some ⟨place 3 200 1, yFor (-50) 100⟩ ∧
      (steppedPoints [-100, -50, -63] 200 100)[3]? = some ⟨place 3 200 2, yFor (-50) 100⟩ :=
  ⟨(drawsSteps [-100, -50, -63] 200 100).begins 1 (-50) rfl,
    (drawsSteps [-100, -50, -63] 200 100).holds 1 (-50) rfl (by decide)⟩

end TrackerBoard.Chart
