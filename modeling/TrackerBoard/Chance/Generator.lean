import TrackerBoard.Chance.Plan

/-!
# The seeded generator

Words are drawn from the ChaCha stream cipher with twelve rounds: block after block of sixteen
words, the block number in two of them.  The key is spread from a seed of 64 bits by the
permuted congruential generator PCG32.

`Plan.run` lets a generator answer a plan.  A probability is answered by comparing a long word
with its share of all words.  A number below a bound is the high half of a word times the bound;
the word is drawn anew while the low half lies beyond the last full share, so that all numbers are
equally likely.  What comes of it is something the plan yields (`yields_run`).
-/

namespace TrackerBoard

/-- A generator: a key, the number of blocks made from it, and the last of these blocks. -/
structure Generator where
  key : Vector UInt32 8
  blocks : UInt64
  block : Vector UInt32 16
  /-- How many words of the block were drawn. -/
  used : Nat

namespace Generator

/-- Rotates a word to the left. -/
def rotateLeft (x : UInt32) (n : UInt32) : UInt32 := (x <<< n) ||| (x >>> (32 - n))

/-- Rotates a word to the right by less than its width. -/
def rotateRight (x : UInt32) (n : UInt32) : UInt32 :=
  if n = 0 then x else (x >>> n) ||| (x <<< (32 - n))

/-- Mixes four words of a block. -/
def quarterRound (s : Vector UInt32 16) (a b c d : Fin 16) : Vector UInt32 16 :=
  let s := s.set a (s[a] + s[b])
  let s := s.set d (rotateLeft (s[d] ^^^ s[a]) 16)
  let s := s.set c (s[c] + s[d])
  let s := s.set b (rotateLeft (s[b] ^^^ s[c]) 12)
  let s := s.set a (s[a] + s[b])
  let s := s.set d (rotateLeft (s[d] ^^^ s[a]) 8)
  let s := s.set c (s[c] + s[d])
  s.set b (rotateLeft (s[b] ^^^ s[c]) 7)

/-- Two rounds: along the columns, then along the diagonals. -/
def doubleRound (s : Vector UInt32 16) : Vector UInt32 16 :=
  let s := quarterRound s 0 4 8 12
  let s := quarterRound s 1 5 9 13
  let s := quarterRound s 2 6 10 14
  let s := quarterRound s 3 7 11 15
  let s := quarterRound s 0 5 10 15
  let s := quarterRound s 1 6 11 12
  let s := quarterRound s 2 7 8 13
  quarterRound s 3 4 9 14

/-- The constants at the start of a block. -/
def constants : Vector UInt32 4 := #v[0x61707865, 0x3320646e, 0x79622d32, 0x6b206574]

/-- The two words of a block number, and the two of the stream number, which is zero. -/
def position (number : UInt64) : Vector UInt32 4 :=
  #v[number.toUInt32, (number >>> 32).toUInt32, 0, 0]

/-- The state that a block is made of: constants, the key, and the block's number. -/
def initialState (key : Vector UInt32 8) (number : UInt64) : Vector UInt32 16 :=
  constants ++ key ++ position number

/-- A block of words. -/
def makeBlock (key : Vector UInt32 8) (number : UInt64) : Vector UInt32 16 :=
  let start := initialState key number
  let mixed := (List.range 6).foldl (fun s _ => doubleRound s) start
  start.zipWith (· + ·) mixed

/-- The next state of the generator that spreads a seed. -/
def spread (state : UInt64) : UInt64 := state * 6364136223846793005 + 11634580027462260723

/-- The word of a state of that generator. -/
def spreadWord (state : UInt64) : UInt32 :=
  rotateRight (((state >>> 18) ^^^ state) >>> 27).toUInt32 (state >>> 59).toUInt32

/-- The first words of the generator that spreads a seed. -/
def spreadWords (state : UInt64) : Nat → List UInt32
  | 0 => []
  | count + 1 => spreadWord (spread state) :: spreadWords (spread state) count

theorem length_spreadWords (state : UInt64) (count : Nat) :
    (spreadWords state count).length = count := by
  induction count generalizing state with
  | zero => rfl
  | succ count ih => simp [spreadWords, ih]

/-- The generator of a seed. -/
def ofSeed (seed : UInt64) : Generator where
  key := ⟨(spreadWords seed 8).toArray, by simp [length_spreadWords]⟩
  blocks := 0
  block := Vector.replicate 16 0
  used := 16

/-- The next word. -/
def nextWord (g : Generator) : UInt32 × Generator :=
  if h : g.used < 16 then (g.block[g.used], { g with used := g.used + 1 })
  else
    let block := makeBlock g.key g.blocks
    (block[0], { g with blocks := g.blocks + 1, block := block, used := 1 })

/-- The next long word: two words, the low half first. -/
def nextLong (g : Generator) : UInt64 × Generator :=
  let (low, g) := g.nextWord
  let (high, g) := g.nextWord
  (low.toUInt64 ||| (high.toUInt64 <<< 32), g)

/-- A number below the size of a width. -/
def nextBits (g : Generator) : (width : Width) → Fin width.size × Generator
  | .word32 => let (w, g) := g.nextWord; (⟨w.toNat, w.toNat_lt_size⟩, g)
  | .word64 => let (w, g) := g.nextLong; (⟨w.toNat, w.toNat_lt_size⟩, g)

/-- The largest low half that is accepted: the bound, shifted up as far as it goes, less one. -/
def zone (width : Width) (bound : Nat) : Nat :=
  (bound <<< (Nat.log2 width.size - (Nat.log2 bound + 1))) - 1

/-- The high half of a word times a bound is below the bound. -/
theorem high_lt {size bound : Nat} (word : Fin size) (positive : 0 < bound) :
    word.val * bound / size < bound := by
  have : 0 < size := Nat.lt_of_le_of_lt (Nat.zero_le _) word.isLt
  rw [Nat.div_lt_iff_lt_mul this, Nat.mul_comm bound size]
  exact Nat.mul_lt_mul_of_pos_right word.isLt positive

/-- A number below a bound.  After `patience` refused words the next is taken as it is. -/
def nextBelow (width : Width) (bound : Nat) (positive : 0 < bound) :
    Nat → Generator → Fin bound × Generator
  | 0, g =>
    let (word, g) := g.nextBits width
    (⟨word.val * bound / width.size, high_lt word positive⟩, g)
  | patience + 1, g =>
    let (word, g) := g.nextBits width
    if word.val * bound % width.size ≤ zone width bound then
      (⟨word.val * bound / width.size, high_lt word positive⟩, g)
    else nextBelow width bound positive patience g

/-- How many words are refused before one is taken as it is. -/
def patience : Nat := 4096

/-- The share of all long words that stands for a probability below one. -/
def share (probability : Float) : UInt64 := (probability * 18446744073709551616.0).toUInt64

/-- Answers a question. -/
def answer : (question : Question) → Generator → question.Answer × Generator
  | .chance p, g => let (word, g) := g.nextLong; (decide (word < share p), g)
  | .below width bound positive, g => nextBelow width bound positive patience g
  | .word, g => g.nextWord

end Generator

/-- Carries out a plan, a generator answering its questions. -/
def Plan.run {ε α : Type} : Plan ε α → Generator → Except ε (α × Generator)
  | done a, g => .ok (a, g)
  | fail e, _ => .error e
  | ask question next, g =>
    let (answer, g) := g.answer question
    (next answer).run g

/-- A generator gives one of the possible answers to every question. -/
theorem Plan.yields_run {ε α : Type} (p : Plan ε α) (g : Generator) :
    p.Yields ((p.run g).map (·.1)) := by
  induction p generalizing g with
  | done a => exact .done a
  | fail e => exact .fail e
  | ask question next ih => exact .ask (g.answer question).1 (ih _ (g.answer question).2)

/-- A plan that cannot fail comes to something, whatever generator answers. -/
theorem Plan.exists_run_eq_ok {ε α : Type} {p : Plan ε α} (h : ∀ e, ¬ p.Yields (.error e))
    (g : Generator) : ∃ a g', p.run g = .ok (a, g') := by
  have hyields := p.yields_run g
  cases hrun : p.run g with
  | error e =>
    rw [hrun] at hyields
    exact absurd hyields (h e)
  | ok result => exact ⟨result.1, result.2, rfl⟩

end TrackerBoard
