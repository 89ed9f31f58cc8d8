/-!
# Checked words

Extents, counts and offsets are natural numbers that have to stay below `2 ^ 64`.  Every sum,
difference, product and quotient on them is a *checked* operation: it gives the exact natural
number, or it traps.

* `Trap` — why a computation stopped without an answer, and the text that reports it;
* `Checked α` — a value of `α`, or a trap;
* `Word.add`, `Word.sub`, `Word.mul`, `Word.div` — checked arithmetic;
* `Word.product?` — the product of a list of extents, where leaving the range is an ordinary
  answer (`none`) and not a trap.
-/

namespace ConvLab

/-- Why a computation stopped without an answer. -/
inductive Trap where
  /-- A sum left the word range. -/
  | addOverflow
  /-- A difference was negative. -/
  | subtractOverflow
  /-- A product left the word range. -/
  | multiplyOverflow
  /-- A divisor was zero. -/
  | divideByZero
  /-- A buffer of `2 ^ 61` or more elements was asked for. -/
  | capacityOverflow
  /-- A buffer was to be cut into pieces of no elements. -/
  | emptyChunk
  /-- The direct kernel got a kernel extent of zero or one larger than its input. -/
  | kernelOutsideInput
  /-- Two numbers that have to be equal were not. -/
  | unequal (left right : Nat)
  /-- An element beyond the end of its buffer was read. -/
  | outOfBounds (index size : Nat)
  /-- A run was to enter a state that does not come after its present one. -/
  | stateOrder
  deriving DecidableEq, Repr, Inhabited

def Trap.message : Trap → String
  | .addOverflow => "attempt to add with overflow"
  | .subtractOverflow => "attempt to subtract with overflow"
  | .multiplyOverflow => "attempt to multiply with overflow"
  | .divideByZero => "attempt to divide by zero"
  | .capacityOverflow => "capacity overflow"
  | .emptyChunk => "chunk size must be non-zero"
  | .kernelOutsideInput =>
      "assertion failed: kernel_dim >= 1 && kernel_dim <= in_h && kernel_dim <= in_w"
  | .unequal left right => s!"assertion `left == right` failed\n  left: {left}\n right: {right}"
  | .outOfBounds index size => s!"index out of bounds: the len is {size} but the index is {index}"
  | .stateOrder => "assertion failed: next > self.state()"

/-- A value, or the trap that stopped its computation. -/
abbrev Checked := Except Trap

def requireEqual (left right : Nat) : Checked Unit :=
  if left = right then .ok () else .error (.unequal left right)

namespace Word

/-- The first natural number that is no word, `2 ^ 64`. -/
def limit : Nat := 0x10000000000000000

/-- The sum, which has to be a word. -/
def add (a b : Nat) : Checked Nat :=
  if a + b < limit then .ok (a + b) else .error .addOverflow

/-- The difference, which must not be negative. -/
def sub (a b : Nat) : Checked Nat :=
  if b ≤ a then .ok (a - b) else .error .subtractOverflow

/-- The product, which has to be a word. -/
def mul (a b : Nat) : Checked Nat :=
  if a * b < limit then .ok (a * b) else .error .multiplyOverflow

/-- The quotient, rounded down; the divisor must not be zero. -/
def div (a b : Nat) : Checked Nat :=
  if b = 0 then .error .divideByZero else .ok (a / b)

def mul? (a b : Nat) : Option Nat :=
  if a * b < limit then some (a * b) else none

def add? (a b : Nat) : Option Nat :=
  if a + b < limit then some (a + b) else none

/-- The product of the extents, taken from the left, if every partial product is a word. -/
def product? (extents : List Nat) : Option Nat :=
  extents.foldlM mul? 1

/-- An extent with the same padding on both sides, if it is a word. -/
def padded? (extent padding : Nat) : Option Nat := do
  add? (← mul? padding 2) extent

theorem mul_eq_ok_iff {a b c : Nat} : mul a b = .ok c ↔ a * b < limit ∧ c = a * b := by
  unfold mul
  split
  · simp_all [eq_comm]
  · constructor
    · nofun
    · rintro ⟨h, _⟩
      contradiction

theorem add_of_lt {a b : Nat} (h : a + b < limit) : add a b = .ok (a + b) := if_pos h

theorem sub_of_le {a b : Nat} (h : b ≤ a) : sub a b = .ok (a - b) := if_pos h

theorem mul_of_lt {a b : Nat} (h : a * b < limit) : mul a b = .ok (a * b) := if_pos h

theorem div_of_ne {a b : Nat} (h : b ≠ 0) : div a b = .ok (a / b) := if_neg h

end Word

end ConvLab
