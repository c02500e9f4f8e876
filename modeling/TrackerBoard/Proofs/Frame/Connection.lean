import TrackerBoard.Frame.Basic
import TrackerBoard.Proofs.Snapshot.Field
import TrackerBoard.Proofs.Text.Occurrence

/-! # State names in a list and in one string

A tracker may send its state names as a list or joined in one string.  A token is looked for inside
the names, so the two forms mention the same tokens as long as the token does not hold the separator
(`mentions_joined`).  Names that hold it, empty names and repeated ones make no difference.  The
frame asks for two tokens only: with a separator that stands in neither of them it is the same for
both forms (`meansSame`).
-/

namespace TrackerBoard

open Json

/-- Some names in one string, with a separator between them. -/
def joinedNames (separator : Char) (names : List String) : String :=
  (String.singleton separator).intercalate names

variable {separator : Char} {token : String}

theorem mentions_eq_true_iff {names : List String} :
    mentions names token = true ↔ ∃ name ∈ names, token.toList <:+: name.toList := by
  simp only [mentions, List.any_eq_true, occursIn_eq_true_iff]

theorem toList_joinedNames (separator : Char) (names : List String) :
    (joinedNames separator names).toList = [separator].intercalate (names.map String.toList) := by
  rw [joinedNames, String.toList_intercalate, String.toList_singleton]

/-- **Joined names mention a token exactly when one of the names does.** -/
theorem mentions_joined (hne : token ≠ "") (hseparator : separator ∉ token.toList)
    (names : List String) : mentions [joinedNames separator names] token = mentions names token := by
  have hword : token.toList ≠ [] := fun hnil => hne (String.toList_eq_nil_iff.mp hnil)
  rw [Bool.eq_iff_iff, mentions_eq_true_iff, mentions_eq_true_iff]
  calc (∃ name ∈ [joinedNames separator names], token.toList <:+: name.toList)
    _ ↔ token.toList <:+: [separator].intercalate (names.map String.toList) := by
      simp only [List.mem_singleton, exists_eq_left, toList_joinedNames]
    _ ↔ ∃ part ∈ names.map String.toList, token.toList <:+: part :=
      infix_intercalate_iff hword hseparator _
    _ ↔ ∃ name ∈ names, token.toList <:+: name.toList := by
      simp only [List.mem_map, exists_exists_and_eq_and]

/-- The frame looks at the state names only for two tokens. -/
theorem Frame.ofSnapshot_congr {s : Snapshot} {names names' : List String}
    (hweak : mentions names TrackerState.weak.name = mentions names' TrackerState.weak.name)
    (honline : mentions names TrackerState.online.name = mentions names' TrackerState.online.name)
    (zone : Zone) : Frame.ofSnapshot { s with trackerState := names } zone =
      Frame.ofSnapshot { s with trackerState := names' } zone := by
  have hconnection : connectionCell names = connectionCell names' := by
    rw [connectionCell, connectionCell, hweak, honline]
  simp only [ofSnapshot, signalCell, hconnection]
  rfl

/-- A list of names and one string of them, sent as JSON, mean the same. -/
structure MeansSame (separator : Char) (names : List String) : Prop where
  mentions : ∀ token : String, token ≠ "" → separator ∉ token.toList →
    mentions (Field.names (.list (names.map .string))) token =
      mentions (Field.names (.string (joinedNames separator names))) token
  /-- The frame is the same, its connection and its signal included, if all else is. -/
  frame : separator ∉ TrackerState.online.name.toList → separator ∉ TrackerState.weak.name.toList →
    ∀ (s : Snapshot) (zone : Zone),
      Frame.ofSnapshot
          { s with trackerState := Field.names (.list (names.map .string)) } zone =
        Frame.ofSnapshot
          { s with trackerState := Field.names (.string (joinedNames separator names)) } zone

/-- **A list of state names means the same as the names joined in one string.** -/
theorem meansSame (separator : Char) (names : List String) : MeansSame separator names where
  mentions token hne hseparator := by
    rw [Field.names_list, Field.names, mentions_joined hne hseparator]
  frame honline hweak s zone := by
    rw [Field.names_list, Field.names]
    refine Frame.ofSnapshot_congr ?_ ?_ zone
    · exact (mentions_joined (by decide) hweak names).symm
    · exact (mentions_joined (by decide) honline names).symm

/-- A token inside a name that holds the separator is found, and one across two names is not. -/
theorem meansSame_comma :
    mentions (Field.names (.string (joinedNames ',' ["ON", "LINE", ",WEAK"]))) "WEAK" = true ∧
      mentions (Field.names (.string (joinedNames ',' ["ON", "LINE", ",WEAK"]))) "ONLINE" = false := by
  have hmentions := (meansSame ',' ["ON", "LINE", ",WEAK"]).mentions
  constructor
  · exact (hmentions "WEAK" (by decide) (by decide)).symm.trans (by decide +kernel)
  · exact (hmentions "ONLINE" (by decide) (by decide)).symm.trans (by decide +kernel)

end TrackerBoard
