import ConvLab.Shape.Basic

/-!
# Shape entries

A shape as it is registered in a suite: seven signed numbers.  They are signed so that a negative
one can be registered, and is reported when the entry is turned into a shape.

* `Entry.ofShape` — the entry of a shape; a parameter too large for a signed word is cut off;
* `Entry.toShape` — the shape of an entry, or the first parameter that stands in its way;
* `Entry.label` — the short text, in the format of `Shape.label`.
-/

namespace ConvLab

/-- A shape as registered. -/
structure Entry where
  batch : Int64
  inDim : Int64
  inChannels : Int64
  outChannels : Int64
  kernelSize : Int64
  padding : Int64
  stride : Int64
  deriving DecidableEq, Repr

namespace Entry

def maxSigned : Nat := 0x7fffffffffffffff

/-- The signed word nearest to a natural number. -/
def saturate (n : Nat) : Int64 := Int64.ofNat (min n maxSigned)

def ofShape (s : Shape) : Entry where
  batch := saturate s.batch
  inDim := saturate s.inDim
  inChannels := saturate s.inChannels
  outChannels := saturate s.outChannels
  kernelSize := saturate s.kernelSize
  padding := saturate s.padding
  stride := saturate s.stride

/-- A parameter that must not be negative. -/
def extent (parameter : String) (value : Int64) : Except ShapeError Nat :=
  if value < 0 then .error (.nonPositive parameter) else .ok value.toInt.toNat

/-- The shape of an entry.  Zero extents are left to `Shape.validate`. -/
def toShape (e : Entry) : Except ShapeError Shape := do
  if e.padding < 0 then
    throw (.outOfRange "padding" e.padding.toInt)
  return {
    batch := ← extent "batch size" e.batch
    inDim := ← extent "input dimension" e.inDim
    inChannels := ← extent "input channel count" e.inChannels
    outChannels := ← extent "output channel count" e.outChannels
    kernelSize := ← extent "kernel size" e.kernelSize
    padding := e.padding.toInt.toNat
    stride := ← extent "stride" e.stride }

/-- A short text, such as `n1_i8_c1_o1_k3_p-1_s1`. -/
def label (e : Entry) : String :=
  s!"n{e.batch.toInt}_i{e.inDim.toInt}_c{e.inChannels.toInt}_o{e.outChannels.toInt}" ++
    s!"_k{e.kernelSize.toInt}_p{e.padding.toInt}_s{e.stride.toInt}"

end Entry

end ConvLab
