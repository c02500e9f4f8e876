import TrackerBoard.Proofs.Json.RoundTrip
import TrackerBoard.Proofs.Time.Timestamp
import TrackerBoard.Snapshot.Wire

/-! # Fields read back

What is written for a field is read as that field by the reader of its kind.  Timestamps are the
one exception: a year that is written with a sign is not read.
-/

namespace TrackerBoard

open Json

/-- An instant that is read back from its timestamp. -/
def Instant.readable (t : Option Instant) : Option Instant :=
  t.filter fun t => decide t.HasFourDigitYear

/-- An event as it is read back: without a timestamp whose year has a sign. -/
def TrackerEvent.readable (e : TrackerEvent) : TrackerEvent :=
  { e with timestamp := Instant.readable e.timestamp }

namespace Json

theorem Number.int64?_ofInt64 (n : Int64) : (Number.ofInt64 n).int64? = some n := by
  rw [ofInt64]
  split
  · rfl
  · next h =>
    have hlt := n.toInt_lt
    have hword : n.toInt.toNat.toUInt64.toNat = n.toInt.toNat :=
      Nat.mod_eq_of_lt (by omega)
    rw [int64?, hword, Int.toNat_of_nonneg (by omega), signedWord?_toInt]

theorem Value.isPlain_int64 (depth : Nat) (n : Int64) : (Value.int64 n).IsPlain depth := by
  rw [Value.int64, Number.ofInt64]
  split
  · next h => exact .negative h
  · exact .natural _

/-- What is written for a value that may be absent is plain if what is written for a value is. -/
theorem Value.isPlain_option {α : Type} {depth : Nat} {write : α → Value}
    (h : ∀ a, (write a).IsPlain depth) (a : Option α) : (Value.option write a).IsPlain depth := by
  cases a with
  | none => exact .null
  | some a => exact h a

end Json

namespace Field

/-- What is written for a value that may be absent is read as that value, or as none. -/
theorem read_option {α β : Type} {read : Value → Option β} {write : α → Value} {f : α → Option β}
    (hnull : read .null = none) (h : ∀ a, read (write a) = f a) (a : Option α) :
    read (.option write a) = a.bind f := by
  cases a with
  | none => exact hnull
  | some a => exact h a

theorem read_option_self {α : Type} {read : Value → Option α} {write : α → Value}
    (hnull : read .null = none) (h : ∀ a, read (write a) = some a) (a : Option α) :
    read (.option write a) = a := by
  rw [read_option hnull h, Option.bind_fun_some]

theorem signed?_int64 (n : Int64) : signed? (.int64 n) = some n := by
  rw [Value.int64, signed?, signedNumber?, Number.int64?_ofInt64]
  rfl

theorem natural?_uint64 (n : UInt64) : natural? (.uint64 n) = some n := rfl

theorem strictSigned?_int64 (n : Int64) : strictSigned? (.int64 n) = some n :=
  Number.int64?_ofInt64 n

theorem names_list (names : List String) : Field.names (.list (names.map .string)) = names := by
  rw [Field.names, List.filterMap_map]
  exact List.filterMap_some

theorem channels?_toJson (c : Channels) : channels? c.toJson = some c := by
  cases c with
  | count n =>
    rw [Channels.toJson, Value.int64, channels?, Number.int64?_ofInt64]
    rfl
  | list channels =>
    have hread : (channels.map Value.int64).mapM strictSigned? = some channels := by
      induction channels with
      | nil => rfl
      | cons n channels ih =>
        rw [List.map_cons, List.mapM_cons, strictSigned?_int64, ih]
        rfl
    rw [Channels.toJson, channels?, hread]
    rfl

theorem designation?_name (d : Designation) : designation? (.string d.name) = some d := by
  cases d
  all_goals rfl

theorem instant?_toJson (t : Instant) :
    instant? t.toJson = if t.HasFourDigitYear then some t else none := by
  rw [Instant.toJson, instant?, String.toList_ofList, Timestamp.read?_print]

theorem instant?_option (t : Option Instant) :
    instant? (.option Instant.toJson t) = Instant.readable t := by
  rw [read_option rfl instant?_toJson]
  cases t with
  | none => rfl
  | some t => simp [Instant.readable, Option.filter_some]

theorem event?_toJson (e : TrackerEvent) : event? e.toJson = some e.readable := by
  simp [TrackerEvent.toJson, event?, Members.find?, eventOfParts, instant?_option, string?,
    TrackerEvent.readable]

theorem events_list (events : List TrackerEvent) :
    Field.events (.list (events.map TrackerEvent.toJson)) = events.map TrackerEvent.readable := by
  rw [Field.events, List.filterMap_map, ← List.filterMap_eq_map]
  exact congrArg (List.filterMap · events) (funext event?_toJson)

end Field

end TrackerBoard
