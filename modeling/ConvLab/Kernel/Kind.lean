/-!
# Kernel kinds

The kernels under comparison, by name.
-/

namespace ConvLab

/-- The kernels under comparison. -/
inductive Kind where
  /-- The operator primitive, described and bound once. -/
  | reference
  /-- The direct kernel. -/
  | candidate
  deriving DecidableEq, Repr

namespace Kind

def all : List Kind := [.reference, .candidate]

def name : Kind → String
  | .reference => "reference"
  | .candidate => "candidate"

def ofName? (name : String) : Option Kind := all.find? (·.name = name)

end Kind

end ConvLab
