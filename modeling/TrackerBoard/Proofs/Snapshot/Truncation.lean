import TrackerBoard.Proofs.Snapshot.Lenient

/-! # Truncated bodies

Every field of a snapshot has a default, so a body of which the end is missing would show as a
snapshot of defaults if it were read at all.  It is not: the reader is inside of the object until
its last brace, and outside of all containers it takes nothing but blanks
(`IsText.isBlanks_of_append`).  So no proper part of a body that ends in a brace is read, wherever
it was cut (`decode_truncated`).
-/

namespace TrackerBoard

open Json

namespace Json

namespace Reader
variable {value : Value} {b : UInt8} {bytes : List UInt8} {r : Reader}

/-- Behind the value of a text, only a blank is taken. -/
theorem step_done_eq_ok (h : Step ⟨[], .done value⟩ b r) :
    isBlank b = true ∧ r = ⟨[], .done value⟩ := by
  cases follows_of_afterValue h with
  | blank hb => exact ⟨hb, rfl⟩

theorem isBlanks_of_run_done (h : ByteRun Step ⟨[], .done value⟩ bytes r) : IsBlanks bytes := by
  induction bytes with
  | nil => exact isBlanks_nil
  | cons b bytes ih =>
    cases h with
    | cons head tail =>
      obtain ⟨hb, rfl⟩ := step_done_eq_ok head
      intro c hc
      rcases List.mem_cons.mp hc with rfl | hc
      · exact isBlank_iff.mp hb
      · exact ih tail c hc

end Reader

/-- **Behind a text there are only blanks**, if a text it shall stay and the value is no number. -/
theorem IsText.isBlanks_of_append {body more : List UInt8} {value value' : Value}
    (h : IsText body value) (hvalue : ∀ x, value ≠ .number x)
    (h' : IsText (body ++ more) value') : IsBlanks more := by
  obtain ⟨r, hrun, hfinish⟩ := exists_run_of_parse (parse_of_isText h)
  obtain ⟨r', hrun', -⟩ := exists_run_of_parse (parse_of_isText h')
  -- the reader of the longer text passes through the state at the end of the shorter one
  have hwhole := Reader.run_eq_ok hrun' 0
  rw [Reader.run_append, Reader.run_eq_ok hrun] at hwhole
  rcases Reader.finish_eq_ok hfinish with rfl | ⟨_, x, _, _, rfl⟩
  · exact Reader.isBlanks_of_run_done (Reader.run_of_eq_ok hwhole)
  · exact absurd rfl (hvalue x)

end Json

namespace Snapshot

/-- **A truncated body is never read as a snapshot.** -/
theorem decode_truncated {body front : List UInt8} {s : Snapshot} (h : decode body = .ok s)
    (hlast : body.getLast? = some 0x7d) (hfront : front <+: body) (hne : front ≠ body) :
    ∃ message, decode front = .error (.decode message) := by
  rw [exists_decode_error_iff]
  rintro ⟨members, htext⟩
  obtain ⟨more, rfl⟩ := hfront
  obtain ⟨members', htext', -⟩ := decode_eq_ok_iff.mp h
  have hblanks : IsBlanks more := htext.isBlanks_of_append (by simp) htext'
  have hmore : more ≠ [] := by
    rintro rfl
    exact hne (List.append_nil front).symm
  have hbrace : (0x7d : UInt8) ∈ more := by
    rw [List.getLast?_append_of_ne_nil _ hmore] at hlast
    exact List.mem_of_getLast? hlast
  exact absurd (hblanks 0x7d hbrace) (by decide)

/-- Without its last brace a body is not read, though a brace ends what is left of it. -/
theorem decode_truncated_lastBrace :
    decode (Utf8.encode "\x7b\"mood\":\x7b\x7d\x7d".toList) = .ok {} ∧
      ∃ message, decode (Utf8.encode "\x7b\"mood\":\x7b\x7d".toList) =
        .error (.decode message) := by
  have hplain : (Value.object [("mood", .object [])]).IsPlain 2 :=
    .object (by simpa using .object (by simp))
  have hbody : Utf8.encode (Value.object [("mood", .object [])]).render.toList =
      Utf8.encode "\x7b\"mood\":\x7b\x7d\x7d".toList := by decide
  have htext := isText_render hplain (by decide)
  rw [hbody] at htext
  have hdecode : decode (Utf8.encode "\x7b\"mood\":\x7b\x7d\x7d".toList) = .ok {} :=
    decode_eq_ok_iff.mpr ⟨_, htext, rfl⟩
  exact ⟨hdecode, decode_truncated hdecode (by decide) (by decide) (by decide)⟩

end Snapshot

end TrackerBoard
