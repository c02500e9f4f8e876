import TrackerBoard.Chance.Generator

/-! # Plans in lockstep

Two plans are in lockstep when they ask the same questions, as long as these get the same answers,
and then fail alike or come to results that belong together.  Plans that are put together of such
parts are in lockstep (`Lockstep.bind`), so a computation that differs from another one in what it
asks nothing about can be followed beside it.  A generator that answers the one answers the other,
and is left in the same state (`Lockstep.run`).
-/

namespace TrackerBoard.Plan

variable {ε α α' β β' : Type}

/-- The plans ask the same questions, and their results are related. -/
inductive Lockstep (R : α → β → Prop) : Plan ε α → Plan ε β → Prop
  | done {a : α} {b : β} (h : R a b) : Lockstep R (.done a) (.done b)
  | fail (e : ε) : Lockstep R (.fail e) (.fail e)
  | ask {question : Question} {next : question.Answer → Plan ε α}
      {next' : question.Answer → Plan ε β}
      (h : ∀ answer, Lockstep R (next answer) (next' answer)) :
      Lockstep R (.ask question next) (.ask question next')

variable {R : α → β → Prop} {S : α' → β' → Prop} {p : Plan ε α} {q : Plan ε β}

/-- A plan is in lockstep with itself. -/
theorem Lockstep.self (p : Plan ε α) : Lockstep (· = ·) p p := by
  induction p with
  | done a => exact .done rfl
  | fail e => exact .fail e
  | ask question next ih => exact .ask ih

theorem Lockstep.pure {a : α} {b : β} (h : R a b) :
    Lockstep R (Pure.pure a : Plan ε α) (Pure.pure b) := .done h

/-- Plans in lockstep stay so when each goes on from its result. -/
theorem Lockstep.bind {f : α → Plan ε α'} {f' : β → Plan ε β'} (h : Lockstep R p q)
    (hnext : ∀ a b, R a b → Lockstep S (f a) (f' b)) : Lockstep S (p >>= f) (q >>= f') := by
  induction h with
  | done hab => exact hnext _ _ hab
  | fail e => exact .fail e
  | ask _ ih => exact .ask ih

/-- A plan may be followed by two others that are in lockstep for each of its results. -/
theorem Lockstep.bind_self {f : α → Plan ε α'} {f' : α → Plan ε β'} (p : Plan ε α)
    (hnext : ∀ a, Lockstep S (f a) (f' a)) : Lockstep S (p >>= f) (p >>= f') := by
  apply (Lockstep.self p).bind
  rintro a _ rfl
  exact hnext a

/-- Plans that branch on the same condition are in lockstep if their branches are. -/
theorem Lockstep.branch {c : Prop} [Decidable c] {p' : Plan ε α} {q' : Plan ε β}
    (hpos : c → Lockstep R p q) (hneg : ¬ c → Lockstep R p' q') :
    Lockstep R (if c then p else p') (if c then q else q') := by
  by_cases h : c
  · rw [if_pos h, if_pos h]
    exact hpos h
  · rw [if_neg h, if_neg h]
    exact hneg h

/-- The place in a list is drawn by the length of the list alone. -/
theorem choose_of_length {as : List α} {n : Nat} (h : as.length = n) :
    (choose as : Plan ε (Option α)) =
      if hpos : 0 < n then
        ask (.below .word32 n hpos) fun (i : Fin n) => done (some (as.get (i.cast h.symm)))
      else done none := by
  subst h
  rfl

/-- Choosing from lists of one length asks the same, and comes to nothing for both or for
neither. -/
theorem lockstep_choose {as : List α} {bs : List β} (h : as.length = bs.length) :
    Lockstep (fun a? b? => a?.isSome = b?.isSome)
      (choose as : Plan ε (Option α)) (choose bs) := by
  rw [choose_of_length h, choose_of_length (rfl : bs.length = bs.length)]
  by_cases hpos : 0 < bs.length
  · rw [dif_pos hpos, dif_pos hpos]
    exact .ask fun _ => .done rfl
  · rw [dif_neg hpos, dif_neg hpos]
    exact .done rfl

/-- **A generator takes plans in lockstep the same way**: both fail alike, or both come to related
results and leave the same generator. -/
theorem Lockstep.run (h : Lockstep R p q) (g : Generator) :
    (∃ e, p.run g = .error e ∧ q.run g = .error e) ∨
      ∃ a b g', p.run g = .ok (a, g') ∧ q.run g = .ok (b, g') ∧ R a b := by
  induction h generalizing g with
  | done hab => exact .inr ⟨_, _, g, rfl, rfl, hab⟩
  | fail e => exact .inl ⟨e, rfl, rfl⟩
  | @ask question next next' _ ih => exact ih (g.answer question).1 (g.answer question).2

end TrackerBoard.Plan
