/-!
# Plans

A plan is a computation that depends on chance.  It asks questions one after the other, and every
answer decides how it goes on, until it is done or has failed.  A question comes with the type of
its answers, so an answer is always one that was asked for.  Who answers is left open: a generator
can, and a statement about every possible answer is a statement about what the plan itself `Yields`.
-/

namespace TrackerBoard

/-- The sizes of random words. -/
inductive Width where
  | word32
  | word64
deriving DecidableEq, Repr

/-- The number of words of a width. -/
def Width.size : Width → Nat
  | word32 => UInt32.size
  | word64 => UInt64.size

/-- What a plan asks. -/
inductive Question where
  /-- yes, with the given probability, or no -/
  | chance (probability : Float)
  /-- a number below a bound, drawn from words of a width -/
  | below (width : Width) (bound : Nat) (positive : 0 < bound)
  /-- a word -/
  | word

/-- The answers to a question. -/
def Question.Answer : Question → Type
  | chance _ => Bool
  | below _ bound _ => Fin bound
  | word => UInt32

/-- A computation with questions, which may fail. -/
inductive Plan (ε α : Type) where
  | done (a : α)
  | fail (e : ε)
  | ask (question : Question) (next : question.Answer → Plan ε α)

namespace Plan

variable {ε α β : Type}

/-- One plan after another. -/
def bind : Plan ε α → (α → Plan ε β) → Plan ε β
  | done a, f => f a
  | fail e, _ => fail e
  | ask question next, f => ask question fun answer => (next answer).bind f

instance : Monad (Plan ε) where
  pure := done
  bind := bind

/-- What a plan can come to, some answer being given to each of its questions. -/
inductive Yields : Plan ε α → Except ε α → Prop
  | done (a : α) : Yields (done a) (.ok a)
  | fail (e : ε) : Yields (fail e) (.error e)
  | ask {question : Question} {next : question.Answer → Plan ε α} {outcome : Except ε α}
      (answer : question.Answer) (h : Yields (next answer) outcome) :
      Yields (ask question next) outcome

/-- The number at a place of a list, the place being drawn; none if the list is empty. -/
def choose (as : List α) : Plan ε (Option α) :=
  if h : 0 < as.length then
    ask (.below .word32 as.length h) fun (i : Fin as.length) => done (some as[i])
  else done none

/-- A word. -/
def word : Plan ε UInt32 := ask .word done

end Plan

/-- Ways in which a draw cannot be made. -/
inductive DrawFault where
  | notAProbability
  | emptyRange
deriving DecidableEq, Repr

/-- Whether a double lies between 0 and 1. -/
def isProbability (p : Float) : Bool := 0 ≤ p && p ≤ 1

namespace Plan

variable {ε : Type}

/-- Yes with a probability; what is certain is not drawn. -/
def chance (fault : DrawFault → ε) (p : Float) : Plan ε Bool :=
  if isProbability p then
    if p == 1 then done true else ask (.chance p) done
  else fail (fault .notAProbability)

/-- A number between two others, both included. -/
def between (fault : DrawFault → ε) (low high : Int) : Plan ε Int :=
  if h : low ≤ high then
    ask (.below .word64 (high - low + 1).toNat (by omega)) fun (i : Fin _) => done (low + i.val)
  else fail (fault .emptyRange)

end Plan

end TrackerBoard
