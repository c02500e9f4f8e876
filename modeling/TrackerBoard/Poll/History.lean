/-!
# Signal history

The last samples of the bandit's signal, oldest first, up to a capacity of at least one.  Every
sample counts as one revision, so that whoever draws the history can tell whether it has changed.
-/

namespace TrackerBoard

/-- Adds `a` at the end; a list of the full length `capacity` drops its first element. -/
def pushBounded {α : Type} (capacity : Nat) (as : List α) (a : α) : List α :=
  (if as.length = capacity then as.tail else as) ++ [a]

/-- A bounded history of signal samples in dBm. -/
structure History where
  /-- Oldest first. -/
  samples : List Int64
  capacity : Nat
  /-- How many samples were ever added. -/
  revision : Nat
deriving DecidableEq

namespace History

/-- The number of samples that a history holds unless told otherwise. -/
def defaultCapacity : Nat := 300

/-- The sample that stands for a missing signal. -/
def missingSignal : Int64 := -100

/-- The empty history of a capacity, which is at least one. -/
def withCapacity (capacity : Nat) : History := ⟨[], max capacity 1, 0⟩

/-- The empty history of the usual capacity. -/
def empty : History := withCapacity defaultCapacity

/-- Adds a sample; a full history drops its oldest one. -/
def push (h : History) (dbm : Int64) : History where
  samples := pushBounded h.capacity h.samples dbm
  capacity := h.capacity
  revision := h.revision + 1

/-- Adds the signal of a snapshot, or what stands for a missing one. -/
def pushSignal (h : History) (dbm : Option Int64) : History :=
  h.push (dbm.getD missingSignal)

/-- The number of samples held. -/
def size (h : History) : Nat := h.samples.length

def isEmpty (h : History) : Bool := h.samples.isEmpty

/-- The newest sample. -/
def latest? (h : History) : Option Int64 := h.samples.getLast?

end History

end TrackerBoard
