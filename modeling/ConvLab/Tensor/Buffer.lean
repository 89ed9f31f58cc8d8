import ConvLab.Word

/-!
# Buffers

A buffer knows its size at once and computes its elements when they are first read, so a problem
far too large to be run can still be described, measured and rejected.

* `Buffer α` — a size and an array of that size, filled on demand;
* `Buffer.allocate` — a buffer given by a rule, or a trap if it is too large for any memory;
* `Buffer.ofArray`, `Buffer.toArray` — the elements.

The rest are operations on the elements of one array: checked reads, writes and slices, the whole
pieces of a given length, the replacement of a stretch, and rows that are written in place.
-/

namespace ConvLab

/-- A number of elements, computed on demand. -/
structure Buffer (α : Type) where
  size : Nat
  contents : Thunk (Array α)
  size_contents : contents.get.size = size

namespace Buffer

variable {α : Type}

def toArray (b : Buffer α) : Array α := b.contents.get

@[simp] theorem size_toArray (b : Buffer α) : b.toArray.size = b.size := b.size_contents

def ofArray (xs : Array α) : Buffer α := ⟨xs.size, Thunk.pure xs, rfl⟩

@[simp] theorem toArray_ofArray (xs : Array α) : (ofArray xs).toArray = xs := rfl

@[simp] theorem size_ofArray (xs : Array α) : (ofArray xs).size = xs.size := rfl

/-- The buffer whose element at `i` is `f i`. -/
def tabulate (n : Nat) (f : Nat → α) : Buffer α where
  size := n
  contents := Thunk.mk fun _ => Array.ofFn fun i : Fin n => f i
  size_contents := Array.size_ofFn

@[simp] theorem toArray_tabulate (n : Nat) (f : Nat → α) :
    (tabulate n f).toArray = Array.ofFn fun i : Fin n => f i := rfl

@[simp] theorem size_tabulate (n : Nat) (f : Nat → α) : (tabulate n f).size = n := rfl

/-- The first number of elements that no buffer can hold, `2 ^ 61`. -/
def capacity : Nat := 0x2000000000000000

/-- The buffer whose element at `i` is `f i`, if there is room for it. -/
def allocate (n : Nat) (f : Nat → α) : Checked (Buffer α) :=
  if n < capacity then .ok (tabulate n f) else .error .capacityOverflow

end Buffer

namespace Cells

variable {α : Type}

def read (xs : Array α) (index : Nat) : Checked α :=
  match xs[index]? with
  | some x => .ok x
  | none => .error (.outOfBounds index xs.size)

/-- The array with the element at an index replaced; the index has to exist. -/
def write (xs : Array α) (index : Nat) (x : α) : Checked (Array α) :=
  if index < xs.size then .ok (xs.setIfInBounds index x) else .error (.outOfBounds index xs.size)

def slice (xs : Array α) (start count : Nat) : Checked (List α) := do
  let stop ← Word.add start count
  if stop ≤ xs.size then
    return (xs.extract start stop).toList
  else
    throw (.outOfBounds stop xs.size)

/-- The elements from `start` on, `count` of them or fewer at the end. -/
def window (xs : Array α) (start count : Nat) : List α := (xs.extract start (start + count)).toList

/-- The whole pieces of `count` elements each, from the left. -/
def chunks (xs : Array α) (count : Nat) : Checked (List (List α)) :=
  if count = 0 then .error .emptyChunk
  else .ok ((List.range (xs.size / count)).map fun i => window xs (i * count) count)

/-- The array with the stretch from `start` on replaced by `ys`. -/
def splice (xs : Array α) (start : Nat) (ys : List α) : Array α :=
  xs.extract 0 start ++ ys.toArray ++ xs.extract (start + ys.length) xs.size

/-- The row with `ys` written over it from the left; it has to have room for all of them. -/
def overwrite (row ys : List α) : Checked (List α) :=
  if ys.length ≤ row.length then .ok (ys ++ row.drop ys.length)
  else .error (.outOfBounds row.length row.length)

/-- The row with each element combined with its partner; an element without a partner stays. -/
def update {β : Type} (f : α → β → α) (row : List α) (partners : List β) : List α :=
  List.zipWith f row partners ++ row.drop partners.length

end Cells

end ConvLab
