import ConvLab.Proofs.Problem

/-!
# Building a problem

A problem that is built from its shape comes to one of three ends, and the numbers of the shape
decide which: a shape without buffers is reported, buffers with room are filled, and buffers that
are words but too large for any memory are a trap.

* `Shape.exists_sizes_eq_error_iff` — the shapes without buffers are errors and never traps;
* `Shape.Roomy` — every buffer is below the capacity;
* `Problem.made_of_shape` — a problem has the sizes of its shape, however it was made;
* `Problem.build_eq_ok_iff`, `Problem.build_eq_error_iff`, `Problem.build_eq_trap_iff` — the three
  ends;
* `Problem.build_ends` — all of them together.
-/

namespace ConvLab

namespace Shape

/-! ### Shapes without buffers -/

theorem outDim_ne_trap (s : Shape) (trap : Trap) : s.outDim ≠ .error (.trap trap) := by
  intro htrap
  cases hvalidate : s.validate with
  | ok u =>
      rw [(validate_eq_ok_iff.mp hvalidate).outDim_eq] at htrap
      cases htrap
  | error e =>
      rw [outDim, hvalidate, Attempt.ofExcept_error, error_bind] at htrap
      cases htrap

theorem sizes_ne_trap (s : Shape) (trap : Trap) : s.sizes ≠ .error (.trap trap) := by
  intro htrap
  simp only [sizes, bind_eq_error_iff, Attempt.ofExcept_ne_trap, false_or] at htrap
  rcases htrap with hout | ⟨_, _, _, _, _, _, _, _, hsizes⟩
  · exact s.outDim_ne_trap trap hout
  · cases hsizes

/-- A shape without buffers is an error of its own, and there is no other error. -/
theorem exists_sizes_eq_error_iff {s : Shape} :
    (∃ e, s.sizes = .error (.error e)) ↔ ¬ s.Buildable := by
  constructor
  · rintro ⟨e, he⟩ hshape
    rw [sizes_eq_ok_iff.mpr ⟨hshape, rfl⟩] at he
    cases he
  · intro hshape
    cases hsizes : s.sizes with
    | ok sizes => exact absurd (sizes_eq_ok_iff.mp hsizes).1 hshape
    | error failure =>
        cases failure with
        | trap trap => exact absurd hsizes (s.sizes_ne_trap trap)
        | error e => exact ⟨e, rfl⟩

/-! ### Room for the buffers -/

/-- Every buffer of a shape is small enough for a memory.  The bias has no more elements than the
weights. -/
structure Roomy (s : Shape) : Prop where
  src_room : s.exactSizes.src < Buffer.capacity
  weights_room : s.exactSizes.weights < Buffer.capacity
  dst_room : s.exactSizes.dst < Buffer.capacity

theorem Valid.bias_le_weights {s : Shape} (h : s.Valid) :
    s.exactSizes.bias ≤ s.exactSizes.weights := by
  have htaps : 0 < s.inChannels * (s.kernelSize * s.kernelSize) :=
    Nat.mul_pos h.inChannels_pos (Nat.mul_pos h.kernelSize_pos h.kernelSize_pos)
  simp only [exactSizes, Nat.mul_assoc]
  exact Nat.le_mul_of_pos_right _ htaps

end Shape

/-! ### Problems -/

theorem Buffer.allocate_eq_error_iff {α : Type} {n : Nat} {f : Nat → α} {trap : Trap} :
    allocate n f = .error trap ↔ capacity ≤ n ∧ trap = .capacityOverflow := by
  rw [allocate]
  split
  · rename_i hn
    simp [Nat.not_le.mpr hn]
  · rename_i hn
    simp [Nat.le_of_not_lt hn, eq_comm]

namespace Problem

variable {s : Shape} {options : Options}

/-- The problem of a shape with its buffers filled. -/
def filled (s : Shape) (options : Options) : Problem Float32 where
  shape := s
  outDim := s.extent
  scale := options.scale
  memory := {
    src := .tabulate s.exactSizes.src (options.fill.value 0.0)
    weights := .tabulate s.exactSizes.weights (options.fill.value 1.0)
    bias := .tabulate s.exactSizes.bias (options.fill.value 2.0)
    dst := .tabulate s.exactSizes.dst fun _ => Element.zero }

theorem build_eq_ok_iff {p : Problem Float32} :
    build s options = .ok p ↔ s.Buildable ∧ s.Roomy ∧ p = filled s options := by
  simp only [build, bind_eq_ok_iff, Attempt.onShape, Attempt.mapError_eq_ok_iff,
    Shape.sizes_eq_ok_iff, Attempt.liftM_eq, Attempt.ofChecked_eq_ok_iff,
    Buffer.allocate_eq_ok_iff]
  constructor
  · rintro ⟨sizes, ⟨hshape, rfl⟩, src, ⟨hsrc, rfl⟩, weights, ⟨hweights, rfl⟩, bias, ⟨-, rfl⟩, dst,
      ⟨hdst, rfl⟩, hp⟩
    cases hp
    exact ⟨hshape, ⟨hsrc, hweights, hdst⟩, rfl⟩
  · rintro ⟨hshape, hroom, rfl⟩
    have hbias := Nat.lt_of_le_of_lt hshape.bias_le_weights hroom.weights_room
    exact ⟨s.exactSizes, ⟨hshape, rfl⟩, _, ⟨hroom.src_room, rfl⟩, _, ⟨hroom.weights_room, rfl⟩, _,
      ⟨hbias, rfl⟩, _, ⟨hroom.dst_room, rfl⟩, rfl⟩

/-- A problem has the output extent and the buffer lengths of its shape, however it was made. -/
theorem made_of_shape {p : Problem Float32}
    (hp : (∃ options, build s options = .ok p) ∨
      ∃ scale src weights bias, ofBuffers s scale src weights bias = .ok p) :
    p.Built ∧ p.shape = s := by
  rcases hp with ⟨options, hp⟩ | ⟨scale, src, weights, bias, hp⟩
  · refine ⟨built_of_build hp, ?_⟩
    rw [(build_eq_ok_iff.mp hp).2.2]
    rfl
  · refine ⟨built_of_ofBuffers hp, ?_⟩
    rw [(ofBuffers_eq_ok_iff.mp hp).2.2.2.2.2]

/-- The only errors are those of the shape. -/
theorem build_eq_error_iff {e : KernelError} :
    build s options = .error (.error e) ↔
      ∃ cause, s.sizes = .error (.error cause) ∧ e = .invalidShape cause := by
  simp only [build, bind_eq_error_iff, Attempt.onShape, Attempt.mapError_eq_error_iff,
    Attempt.liftM_eq, Attempt.ofChecked_ne_error, false_or]
  constructor
  · rintro (hshape | ⟨_, _, _, _, _, _, _, _, _, _, hbuilt⟩)
    · exact hshape
    · cases hbuilt
  · exact .inl

theorem exists_build_eq_invalidShape_iff :
    (∃ cause, build s options = .error (.error (.invalidShape cause))) ↔ ¬ s.Buildable := by
  rw [← Shape.exists_sizes_eq_error_iff]
  simp [build_eq_error_iff]

theorem trap_of_build {trap : Trap} (htrap : build s options = .error (.trap trap)) :
    trap = .capacityOverflow := by
  simp only [build, bind_eq_error_iff, Attempt.onShape, Attempt.mapError_eq_trap_iff,
    Attempt.liftM_eq, Attempt.ofChecked_eq_trap_iff, Buffer.allocate_eq_error_iff] at htrap
  rcases htrap with hsizes | ⟨_, -, ⟨-, hsrc⟩ | ⟨_, -, ⟨-, hweights⟩ | ⟨_, -, ⟨-, hbias⟩ |
    ⟨_, -, ⟨-, hdst⟩ | ⟨_, -, hbuilt⟩⟩⟩⟩⟩
  · exact absurd hsizes (s.sizes_ne_trap trap)
  · exact hsrc
  · exact hweights
  · exact hbias
  · exact hdst
  · cases hbuilt

/-- The only trap is a buffer that is a word but has no room. -/
theorem build_eq_trap_iff {trap : Trap} :
    build s options = .error (.trap trap) ↔
      s.Buildable ∧ ¬ s.Roomy ∧ trap = .capacityOverflow := by
  constructor
  · intro htrap
    have hshape : s.Buildable := by
      apply Classical.byContradiction
      intro hshape
      obtain ⟨cause, hcause⟩ := exists_build_eq_invalidShape_iff.mpr hshape
      rw [hcause] at htrap
      cases htrap
    refine ⟨hshape, ?_, trap_of_build htrap⟩
    intro hroom
    rw [build_eq_ok_iff.mpr ⟨hshape, hroom, rfl⟩] at htrap
    cases htrap
  · rintro ⟨hshape, hroom, rfl⟩
    cases hbuild : build s options with
    | ok p => exact absurd (build_eq_ok_iff.mp hbuild).2.1 hroom
    | error failure =>
        cases failure with
        | trap trap => rw [trap_of_build hbuild]
        | error e =>
            obtain ⟨cause, hsizes, -⟩ := build_eq_error_iff.mp hbuild
            exact absurd hshape (Shape.exists_sizes_eq_error_iff.mp ⟨cause, hsizes⟩)

/-- The three ends of building a problem.  A shape whose buffers are words and have room gives the
filled problem; one whose buffers are no words is reported as invalid; one whose buffers are words
without room is a trap, and not the report that its caller could pass over. -/
theorem build_ends (s : Shape) (options : Options) :
    (∀ p, build s options = .ok p ↔ s.Buildable ∧ s.Roomy ∧ p = filled s options) ∧
      ((∃ cause, build s options = .error (.error (.invalidShape cause))) ↔ ¬ s.Buildable) ∧
      ∀ trap, build s options = .error (.trap trap) ↔
        s.Buildable ∧ ¬ s.Roomy ∧ trap = .capacityOverflow :=
  ⟨fun _ => build_eq_ok_iff, exists_build_eq_invalidShape_iff, fun _ => build_eq_trap_iff⟩

end Problem

/-- A single pixel in a border so wide that its output has more than `2 ^ 62` elements. -/
def Shape.bordered : Shape where
  batch := 1
  inDim := 1
  inChannels := 1
  outChannels := 1
  kernelSize := 1
  padding := 0x40000000
  stride := 1

/-- The buffers of the bordered pixel are words, yet building it neither gives a problem nor reports
the shape. -/
theorem Problem.build_bordered :
    Shape.bordered.Buildable ∧ build Shape.bordered {} = .error (.trap .capacityOverflow) := by
  have hvalid : Shape.bordered.Valid := by
    constructor <;> decide
  have hshape : Shape.bordered.Buildable := ⟨hvalid, by decide, by decide, by decide⟩
  have hroom : ¬ Shape.bordered.Roomy := by
    intro hroom
    exact absurd hroom.dst_room (by decide)
  exact ⟨hshape, build_eq_trap_iff.mpr ⟨hshape, hroom, rfl⟩⟩

end ConvLab
