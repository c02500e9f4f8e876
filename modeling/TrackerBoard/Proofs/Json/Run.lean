import TrackerBoard.Json.Reader

/-! # Runs of the reader

The reader and its two parts, the reader of strings and that of numerals, take one byte at a time.
A run of such a machine is a chain of its steps (`ByteRun`).  Runs are joined end to end
(`ByteRun.append`), and a run of a part is a run of the whole when every step of the part is one
of the whole (`ByteRun.map`).  The reader's own loop is the run that it should be
(`Reader.run_eq_ok`), so that a text is read by giving its run and the state at its end
(`parse_eq_ok`).
-/

namespace TrackerBoard.Json

/-- From the first state the bytes lead to the second, one step a byte. -/
inductive ByteRun {σ : Type} (Step : σ → UInt8 → σ → Prop) : σ → List UInt8 → σ → Prop
  | nil (s : σ) : ByteRun Step s [] s
  | cons {s t u : σ} {b : UInt8} {bytes : List UInt8} (head : Step s b t)
      (tail : ByteRun Step t bytes u) : ByteRun Step s (b :: bytes) u

namespace ByteRun
variable {σ τ : Type} {Step : σ → UInt8 → σ → Prop} {Step' : τ → UInt8 → τ → Prop}
variable {s t u : σ}

theorem single {b : UInt8} (h : Step s b t) : ByteRun Step s [b] t := .cons h (.nil t)

/-- Runs compose. -/
theorem append {front back : List UInt8} (h : ByteRun Step s front t)
    (h' : ByteRun Step t back u) : ByteRun Step s (front ++ back) u := by
  induction h with
  | nil _ => exact h'
  | cons head _ ih => exact .cons head (ih h')

/-- A run of one machine is a run of another that makes the same steps. -/
theorem map (f : σ → τ) (hf : ∀ s b t, Step s b t → Step' (f s) b (f t)) {bytes : List UInt8}
    (h : ByteRun Step s bytes t) : ByteRun Step' (f s) bytes (f t) := by
  induction h with
  | nil _ => exact .nil _
  | cons head _ ih => exact .cons (hf _ _ _ head) ih

/-- What a step preserves of a state and of the bytes that led to it, a run preserves. -/
theorem preserves {P : σ → List UInt8 → Prop}
    (hstep : ∀ s b t front, P s front → Step s b t → P t (front ++ [b])) {bytes : List UInt8}
    (h : ByteRun Step s bytes t) {front : List UInt8} (hs : P s front) : P t (front ++ bytes) := by
  induction h generalizing front with
  | nil _ =>
    rw [List.append_nil]
    exact hs
  | cons head _ ih =>
    rw [List.append_cons]
    exact ih (hstep _ _ _ _ hs head)

end ByteRun

/-- A step inside a string. -/
def Quoted.Step (q : Quoted) (b : UInt8) (q' : Quoted) : Prop := q.step b = .ok (some q')

/-- A step inside a numeral. -/
def Numeral.Step (n : Numeral) (b : UInt8) (n' : Numeral) : Prop := n.step b = .ok (some n')

namespace Reader
variable {stack : List Container}

/-- A step of the reader. -/
def Step (r : Reader) (b : UInt8) (r' : Reader) : Prop := r.step b = .ok r'

/-- The reader's loop takes exactly the bytes of its run. -/
theorem run_eq_ok {r r' : Reader} {bytes : List UInt8} (h : ByteRun Step r bytes r')
    (taken : Nat) : r.run taken bytes = .ok r' := by
  induction h generalizing taken with
  | nil _ => rfl
  | cons head _ ih => rw [run, head]; exact ih (taken + 1)

/-- The reader's loop takes nothing but the bytes of a run. -/
theorem run_of_eq_ok {r r' : Reader} {bytes : List UInt8} {taken : Nat}
    (h : r.run taken bytes = .ok r') : ByteRun Step r bytes r' := by
  induction bytes generalizing r taken with
  | nil =>
    obtain rfl := Except.ok.inj h
    exact .nil r
  | cons b bytes ih =>
    rw [run] at h
    split at h
    · next r₁ hstep => exact .cons hstep (ih h)
    · exact absurd h (by simp)

/-- A run inside a string is a run of the reader inside that string. -/
theorem run_string {q q' : Quoted} {bytes : List UInt8} (h : ByteRun Quoted.Step q bytes q') :
    ByteRun Step ⟨stack, .string q⟩ bytes ⟨stack, .string q'⟩ := by
  refine h.map (fun q => Reader.mk stack (.string q)) ?_
  intro q b q' hstep
  rw [Quoted.Step] at hstep
  simp only [Step, step, stepQuoted, hstep]

/-- A run inside the name of a member is a run of the reader inside that name. -/
theorem run_name {members : Members} {q q' : Quoted} {bytes : List UInt8}
    (h : ByteRun Quoted.Step q bytes q') :
    ByteRun Step ⟨stack, .name members q⟩ bytes ⟨stack, .name members q'⟩ := by
  refine h.map (fun q => Reader.mk stack (.name members q)) ?_
  intro q b q' hstep
  rw [Quoted.Step] at hstep
  simp only [Step, step, stepQuoted, hstep]

/-- A run inside a numeral is a run of the reader inside that numeral. -/
theorem run_number {n n' : Numeral} {bytes : List UInt8} (h : ByteRun Numeral.Step n bytes n') :
    ByteRun Step ⟨stack, .number n⟩ bytes ⟨stack, .number n'⟩ := by
  refine h.map (fun n => Reader.mk stack (.number n)) ?_
  intro n b n' hstep
  rw [Numeral.Step] at hstep
  simp only [Step, step, stepNumber, hstep]

end Reader

/-- **A text is read by its run**: it holds the value with which the reader may stop at its end. -/
theorem parse_eq_ok {body : List UInt8} {r : Reader} {value : Value}
    (h : ByteRun Reader.Step .start body r) (hfinish : r.finish = .ok value) :
    parse body = .ok value := by
  rw [parse, Reader.run_eq_ok h]
  simp only [hfinish]

/-- A text that was read has a run. -/
theorem exists_run_of_parse {body : List UInt8} {value : Value} (h : parse body = .ok value) :
    ∃ r, ByteRun Reader.Step .start body r ∧ r.finish = .ok value := by
  rw [parse] at h
  split at h
  · exact absurd h (by simp)
  · next r hrun =>
    split at h
    · next hfinish =>
      obtain rfl := Except.ok.inj h
      exact ⟨r, Reader.run_of_eq_ok hrun, hfinish⟩
    · exact absurd h (by simp)

end TrackerBoard.Json
