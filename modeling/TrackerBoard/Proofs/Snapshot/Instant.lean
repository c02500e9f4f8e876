import TrackerBoard.Proofs.Snapshot.Field
import TrackerBoard.Proofs.Time.Denotation

/-! # Instants in snapshots

An instant comes as a timestamp or as a whole number of milliseconds, and both forms meet in one
value.  A timestamp is read as the instant that it denotes, whatever separator and distance from
universal time it is written with; one with an impossible date or time is not read, and neither is
any other text.  If the instant falls on a whole millisecond, and into no leap second, its number of
milliseconds is read as the same instant (`readsInstant`).
-/

namespace TrackerBoard.Field

open Json Timestamp

theorem instant?_int64 (n : Int64) : instant? (.int64 n) = Instant.ofMillis? n.toInt := by
  rw [Value.int64, instant?, Number.int64?_ofInt64]
  rfl

/-- What the field of an instant takes from a string. -/
structure ReadsInstant (s : String) : Prop where
  /-- A timestamp is read as the instant that it denotes. -/
  denoted : ∀ f, IsTimestamp s.toList f → f.IsPossible →
    ∃ t, instant? (.string s) = some t ∧ f.Denotes t
  impossible : ∀ f, IsTimestamp s.toList f → ¬ f.IsPossible → instant? (.string s) = none
  other : (∀ f, ¬ IsTimestamp s.toList f) → instant? (.string s) = none
  /-- Another timestamp of the same instant is read as the same. -/
  sameInstant : ∀ s' f f' t, IsTimestamp s.toList f → IsTimestamp s'.toList f' →
    f.Denotes t → f'.Denotes t → instant? (.string s') = instant? (.string s)
  /-- So is the number of its milliseconds, if the instant has nothing finer and is in no leap
  second. -/
  millis : ∀ t, instant? (.string s) = some t → t.nanos < 1000000000 → 1000000 ∣ t.nanos →
    ∃ n : Int64, n.toInt = t.second * 1000 + t.nanos / 1000000 ∧ instant? (.int64 n) = some t

theorem instant?_string_eq_some_iff {s : String} {t : Instant} :
    instant? (.string s) = some t ↔ ∃ f, IsTimestamp s.toList f ∧ f.Denotes t :=
  read?_eq_some_iff

/-- An instant on a whole millisecond is read from its number of milliseconds. -/
theorem exists_instant?_int64 {t : Instant} (hnanos : t.nanos < 1000000000)
    (hwhole : 1000000 ∣ t.nanos) : ∃ n : Int64, n.toInt = t.second * 1000 + t.nanos / 1000000 ∧
      instant? (.int64 n) = some t := by
  have hfirst := t.first_le
  have hlast := t.le_last
  have hword : (Int64.ofInt (t.second * 1000 + t.nanos / 1000000)).toInt =
      t.second * 1000 + t.nanos / 1000000 :=
    Int64.toInt_ofInt_of_le (by omega) (by omega)
  refine ⟨_, hword, ?_⟩
  rw [instant?_int64, hword, Instant.ofMillis?_eq_some_iff]
  exact ⟨rfl, hnanos, Nat.mod_eq_zero_of_dvd hwhole⟩

/-- **A timestamp is read as the instant that it denotes**, and as nothing else. -/
theorem readsInstant (s : String) : ReadsInstant s where
  denoted f htext hpossible := by
    obtain ⟨t, hdenotes⟩ := hpossible.exists_denotes htext.isSmall
    exact ⟨t, instant?_string_eq_some_iff.mpr ⟨f, htext, hdenotes⟩, hdenotes⟩
  impossible f htext hpossible := by
    by_contra hread
    obtain ⟨t, hread⟩ := Option.ne_none_iff_exists'.mp hread
    obtain ⟨f', htext', hdenotes⟩ := instant?_string_eq_some_iff.mp hread
    rw [htext.unique htext'] at hpossible
    exact hpossible hdenotes.isPossible
  other hshape := by
    by_contra hread
    obtain ⟨t, hread⟩ := Option.ne_none_iff_exists'.mp hread
    obtain ⟨f, htext, -⟩ := instant?_string_eq_some_iff.mp hread
    exact hshape f htext
  sameInstant s' f f' t htext htext' hdenotes hdenotes' := by
    rw [instant?_string_eq_some_iff.mpr ⟨f, htext, hdenotes⟩,
      instant?_string_eq_some_iff.mpr ⟨f', htext', hdenotes'⟩]
  millis t _ hnanos hwhole := exists_instant?_int64 hnanos hwhole

/-- The leap second at the end of 2016, written in a zone where the next year has begun. -/
theorem readsInstant_leapSecond :
    ∃ t, instant? (.string "2017-01-01t05:29:60.25+05:30") = some t ∧ t.second = 1483228799 ∧
      t.nanos = 1250000000 := by
  have htext : IsTimestamp "2017-01-01t05:29:60.25+05:30".toList
      ⟨⟨2017, 1, 1⟩, 5, 29, 60, 250000000, 19800⟩ := fields?_eq_some_iff.mp (by rfl)
  obtain ⟨t, hread, hdenotes⟩ :=
    (readsInstant _).denoted _ htext (Fields.isPossible_iff.mpr (by decide))
  obtain ⟨-, hsecond, hnanos⟩ := Fields.denotes_iff.mp hdenotes
  exact ⟨t, hread, hsecond.trans (by decide), hnanos⟩

end TrackerBoard.Field
