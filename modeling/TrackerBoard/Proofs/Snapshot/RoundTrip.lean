import TrackerBoard.Proofs.Snapshot.Field

/-! # Snapshots read back

A snapshot that was sent is read as it was, but for timestamps whose year has a sign: these come
back as none (`decode_body`).  Writing never uses a double and nests three deep, so what is sent
is always JSON that the reader takes.
-/

namespace TrackerBoard

open Json

/-- An event is written plainly, as an object. -/
theorem TrackerEvent.isPlain_toJson (depth : Nat) (e : TrackerEvent) :
    e.toJson.IsPlain (depth + 1) := by
  refine .object ?_
  simp only [List.forall_mem_cons, List.not_mem_nil, false_implies, implies_true, and_true]
  exact ⟨Value.isPlain_option (fun _ => .string _) e.timestamp, .string _, .string _⟩

theorem Channels.isPlain_toJson (depth : Nat) (c : Channels) : c.toJson.IsPlain (depth + 1) := by
  cases c with
  | count n => exact Value.isPlain_int64 _ n
  | list channels =>
    refine .list fun item hitem => ?_
    obtain ⟨n, -, rfl⟩ := List.mem_map.mp hitem
    exact Value.isPlain_int64 _ n

namespace Snapshot

/-- The timestamps of a snapshot. -/
def timestamps (s : Snapshot) : List Instant :=
  s.clock.toList ++ s.trackContact.toList ++ s.events.filterMap (·.timestamp)

/-- Whether all timestamps of a snapshot are written without a sign. -/
def HasFourDigitYears (s : Snapshot) : Prop := ∀ t ∈ s.timestamps, t.HasFourDigitYear

instance (s : Snapshot) : Decidable s.HasFourDigitYears :=
  inferInstanceAs (Decidable (∀ t ∈ s.timestamps, t.HasFourDigitYear))

/-- A snapshot as it is read back: without the timestamps whose year has a sign. -/
def readable (s : Snapshot) : Snapshot :=
  { s with
    clock := Instant.readable s.clock
    trackContact := Instant.readable s.trackContact
    events := s.events.map TrackerEvent.readable }

/-- A snapshot is written without doubles, an object with lists of objects in it. -/
theorem isPlain_toJson (s : Snapshot) : s.toJson.IsPlain 3 := by
  have hinstant (t : Option Instant) : (Value.option Instant.toJson t).IsPlain 2 :=
    Value.isPlain_option (fun _ => .string _) t
  have hstring (a : Option String) : (Value.option .string a).IsPlain 2 :=
    Value.isPlain_option .string a
  have hnames : (Value.list (s.trackerState.map .string)).IsPlain 2 := by
    refine .list fun item hitem => ?_
    obtain ⟨name, -, rfl⟩ := List.mem_map.mp hitem
    exact .string name
  have hevents : (Value.list (s.events.map TrackerEvent.toJson)).IsPlain 2 := by
    refine .list fun item hitem => ?_
    obtain ⟨e, -, rfl⟩ := List.mem_map.mp hitem
    exact e.isPlain_toJson 0
  refine .object ?_
  simp only [toMembers, List.forall_mem_cons, List.not_mem_nil, false_implies, implies_true,
    and_true]
  exact ⟨hinstant _, hnames, Value.isPlain_int64 2 _, .bool _, .bool _,
    Value.isPlain_option (Channels.isPlain_toJson 1) _, Value.isPlain_option (fun _ => .string _) _,
    .bool _, hstring _, hstring _, .natural _, hinstant _,
    Value.isPlain_option (Value.isPlain_int64 2) _, hevents⟩

/-- Every field is read from the member written for it. -/
theorem ofMembers_toMembers (s : Snapshot) : ofMembers s.toMembers = s.readable := by
  have hchannels := Field.read_option_self rfl Field.channels?_toJson s.channels
  have hdesignation := Field.read_option_self rfl Field.designation?_name s.channelDesignation
  have htarget := Field.read_option_self rfl (fun _ => rfl : ∀ a, Field.string? (.string a) = _)
    s.trackingTarget
  have htrack := Field.read_option_self rfl (fun _ => rfl : ∀ a, Field.string? (.string a) = _)
    s.track
  have hsignal := Field.read_option_self rfl Field.signed?_int64 s.banditSignal
  -- the member of a name is the one written for it, since no name is written twice
  simp only [ofMembers, toMembers, Members.find?, List.reverse_cons, List.reverse_nil,
    List.nil_append, List.cons_append, List.find?_cons]
  simp [readable, Field.instant?_option, Field.names_list, Field.signed?_int64, Field.bool?,
    Field.natural?_uint64, Field.events_list, hchannels, hdesignation, htarget, htrack, hsignal]

/-- **What is sent for a snapshot is read as the snapshot**, without the timestamps whose year has
a sign. -/
theorem decode_body (s : Snapshot) : decode s.body = .ok s.readable := by
  have hparse := parse_render s.isPlain_toJson (by decide)
  rw [decode, body, wire, hparse, toJson]
  exact congrArg Except.ok s.ofMembers_toMembers

/-- A snapshot whose timestamps are all written without a sign is read back whole. -/
theorem readable_eq_self {s : Snapshot} (h : s.HasFourDigitYears) : s.readable = s := by
  have hall {t : Option Instant} (ht : ∀ i ∈ t, i ∈ s.timestamps) : Instant.readable t = t := by
    cases t with
    | none => rfl
    | some i => exact if_pos (decide_eq_true (h i (ht i rfl)))
  have hclock : Instant.readable s.clock = s.clock :=
    hall fun i hi => by simp [timestamps, Option.mem_def.mp hi]
  have hcontact : Instant.readable s.trackContact = s.trackContact :=
    hall fun i hi => by simp [timestamps, Option.mem_def.mp hi]
  have hevents : s.events.map TrackerEvent.readable = s.events := by
    refine (List.map_congr_left fun e he => ?_).trans (List.map_id _)
    have htime : Instant.readable e.timestamp = e.timestamp :=
      hall fun i hi => by
        simp only [timestamps, List.mem_append, List.mem_filterMap]
        exact .inr ⟨e, he, hi⟩
    rw [TrackerEvent.readable, htime, id]
  rw [readable, hclock, hcontact, hevents]

/-- **Sending and reading a snapshot.**  What is read is what was sent but for timestamps whose year
has a sign, and the whole of it when no year has one. -/
theorem decode_body_roundTrip (s : Snapshot) :
    decode s.body = .ok s.readable ∧ (s.HasFourDigitYears → decode s.body = .ok s) := by
  refine ⟨s.decode_body, fun h => ?_⟩
  rw [s.decode_body, readable_eq_self h]

/-- The leap second at the end of 2016, half of it over. -/
def leapSecond : Instant := ⟨1483228799, 1500000000, by decide, by decide, by decide, by decide⟩

/-- A snapshot made in a leap second is read back with it. -/
theorem decode_body_leapSecond :
    HasFourDigitYears { clock := some leapSecond } ∧
      decode (body { clock := some leapSecond }) = .ok { clock := some leapSecond } :=
  ⟨by decide, (decode_body_roundTrip _).2 (by decide)⟩

end Snapshot

end TrackerBoard
