import ConvLab.Kernel.Basic
import ConvLab.Proofs.Building
import ConvLab.Proofs.Direct
import ConvLab.Proofs.Execution

/-!
# Runs of a kernel

A kernel that could be created never fails: its problem has the sizes that it relies on, and a run
keeps them.  What a run leaves in the destination depends on the problem alone.

* `Reference.output`, `Candidate.output` — the destination of a problem under a kernel;
* `Reference.run_eq`, `Candidate.run_eq` — one run of either kernel;
* `Reference.run_of_create` — the first run of a reference;
* `Kernel.Prepared` — a kernel as it was created or as runs have left it;
* `Kernel.Prepared.run_eq` — a run gives the output and leaves the kernel prepared;
* `Kernel.run_after` — any number of runs.
-/

namespace ConvLab

variable {α : Type}

def Problem.withDst (p : Problem α) (dst : Buffer α) : Problem α :=
  { p with memory := { p.memory with dst } }

theorem Problem.Built.withDst {p : Problem α} (hp : p.Built) {dst : Buffer α}
    (hdst : dst.size = p.memory.dst.size) : (p.withDst dst).Built :=
  { hp with dst_size := hdst.trans hp.dst_size }

def Reference.output [Processor] [Element α] (p : Problem α) : List α :=
  (descriptor p).output .detect p.memory.src.toArray p.memory.weights.toArray p.memory.bias.toArray

def Candidate.output [Element α] (p : Problem α) : List α :=
  (geometry p).output p.scale p.memory.src.toArray p.memory.weights.toArray p.memory.bias.toArray

def Kind.output [Processor] [Element α] : Kind → Problem α → List α
  | .reference => Reference.output
  | .candidate => Candidate.output

/-! ### The reference -/

namespace Reference

variable [Processor] [Element α] {p : Problem α}

theorem create_eq_ok_iff {k : Reference α} :
    create p = .ok k ↔ ∃ primitive, Primitive.create (descriptor p) = .ok primitive ∧
      primitive.bind p.memory = .ok () ∧ k = { problem := p, primitive } := by
  simp only [create, bind_eq_ok_iff, Attempt.mapError_eq_ok_iff]
  constructor
  · rintro ⟨primitive, hcreate, _, hbind, hk⟩
    cases hk
    exact ⟨primitive, hcreate, hbind, rfl⟩
  · rintro ⟨primitive, hcreate, hbind, rfl⟩
    exact ⟨primitive, hcreate, (), hbind, rfl⟩

/-- One run of the reference, whatever scratch and destination hold. -/
theorem run_eq {primitive : Primitive α} {dst : Buffer α} (h : (descriptor p).Valid)
    (hp : primitive.Carries (descriptor p) .detect) (hbind : primitive.bind p.memory = .ok ())
    (hdst : dst.size = p.memory.dst.size) :
    ∃ (primitive' : Primitive α) (dst' : Buffer α),
      run { problem := p.withDst dst, primitive } =
        ({ problem := p.withDst dst', primitive := primitive' }, .ok ()) ∧
      primitive'.Carries (descriptor p) .detect ∧ dst'.size = p.memory.dst.size ∧
      dst'.toArray = (output p).toArray := by
  obtain ⟨hsrc, hweights, hbias, hdst'⟩ := (hp.bind_iff h).mp hbind
  have hsize := hdst.trans hdst'
  have hbind' : primitive.bind (p.withDst dst).memory = .ok () :=
    (hp.bind_iff h).mpr ⟨hsrc, hweights, hbias, hsize⟩
  obtain ⟨scratch, dst', hscratch, hwritten, hrun⟩ := hp.execute_bound h hbind'
  refine ⟨{ primitive with scratch }, dst', ?_, hp.with_scratch hscratch, ?_, ?_⟩
  · rw [run, hrun]
    rfl
  · have hnew := hwritten.size_eq
    rw [Buffer.size_toArray, Buffer.size_toArray] at hnew
    exact hnew.trans hdst
  · exact hwritten.eq_output (dst.size_toArray.trans hsize)

/-- A reference that could be created runs and leaves its output. -/
theorem run_of_create {k : Reference α} (hk : create p = .ok k) :
    (descriptor p).Valid ∧ ∃ k', k.run = (k', .ok ()) ∧
      k'.problem.memory.dst.size = p.memory.dst.size ∧
      k'.problem.memory.dst.toArray = (output p).toArray := by
  obtain ⟨primitive, hcreate, hbind, rfl⟩ := create_eq_ok_iff.mp hk
  have hvalid := (Primitive.create_eq_ok_iff.mp hcreate).1
  obtain ⟨primitive', dst, hrun, -, hdst, houtput⟩ :=
    run_eq hvalid (.of_create hcreate) hbind rfl
  exact ⟨hvalid, _, hrun, hdst, houtput⟩

end Reference

/-! ### The candidate -/

namespace Candidate

variable {p : Problem α}

/-- The shape of a problem is square, so only its padding and its stride can be at fault. -/
theorem violation?_eq (p : Problem α) :
    violation? p =
      if p.shape.padding = 0 then
        if p.shape.stride = 1 then none else some "only unit stride is supported"
      else some "padding is not supported" := by
  by_cases hpadding : p.shape.padding = 0
  · by_cases hstride : p.shape.stride = 1
    · simp [violation?, contract, hpadding, hstride]
    · simp [violation?, contract, hpadding, hstride]
  · simp [violation?, contract, hpadding]

theorem violation?_eq_none_iff :
    violation? p = none ↔ p.shape.padding = 0 ∧ p.shape.stride = 1 := by
  rw [violation?_eq]
  by_cases hpadding : p.shape.padding = 0 <;> simp [hpadding]

/-- Without padding and with unit stride the kernel moves over the input itself. -/
theorem outDim_eq (hp : p.Built) (hpadding : p.shape.padding = 0) (hstride : p.shape.stride = 1) :
    p.outDim = p.shape.inDim - p.shape.kernelSize + 1 ∧
      p.shape.kernelSize ≤ p.shape.inDim := by
  have hfits := hp.shape.kernel_fits
  rw [hpadding] at hfits
  refine ⟨?_, by omega⟩
  rw [hp.outDim_eq, Shape.extent, hpadding, hstride, Nat.div_one]
  omega

/-- A problem that was built is accepted just if it has no padding and unit stride. -/
theorem create_eq_ok_iff (hp : p.Built) {k : Candidate α} :
    create p = .ok k ↔ p.shape.padding = 0 ∧ p.shape.stride = 1 ∧ k = { problem := p } := by
  cases hviolation : violation? p with
  | some reason =>
      have hne : ¬ (p.shape.padding = 0 ∧ p.shape.stride = 1) := by
        rw [← violation?_eq_none_iff, hviolation]
        nofun
      constructor
      · intro hk
        simp [create, hviolation] at hk
      · rintro ⟨hpadding, hstride, -⟩
        exact absurd ⟨hpadding, hstride⟩ hne
  | none =>
      obtain ⟨hpadding, hstride⟩ := violation?_eq_none_iff.mp hviolation
      obtain ⟨hout, hfits⟩ := outDim_eq hp hpadding hstride
      have hword := hp.shape.padded_word
      have hkernel := hp.shape.kernelSize_pos
      have hsub : Word.sub p.shape.inDim p.shape.kernelSize = _ := Word.sub_of_le hfits
      have hadd : Word.add (p.shape.inDim - p.shape.kernelSize) 1 = .ok p.outDim := by
        rw [hout]
        exact Word.add_of_lt (by omega)
      simp only [create, hviolation, hsub, hadd, requireEqual_self, Attempt.liftM_eq,
        Attempt.ofChecked_ok, ok_bind]
      constructor
      · intro hk
        cases hk
        exact ⟨hpadding, hstride, rfl⟩
      · rintro ⟨-, -, rfl⟩
        rfl

/-- The sizes of a problem, counted for the direct kernel. -/
theorem size_eq (hp : p.Built) :
    p.memory.src.size = (geometry p).batch * (geometry p).inImage ∧
      p.memory.weights.size = (geometry p).weightCount ∧
      p.memory.bias.size = (geometry p).outChannels ∧
      p.memory.dst.size = (geometry p).batch * (geometry p).outImage := by
  rw [hp.src_size, hp.weights_size, hp.bias_size, hp.dst_size]
  simp only [Shape.exactSizes, geometry, Direct.Geometry.inImage, Direct.Geometry.outImage,
    Direct.Geometry.weightCount, hp.outDim_eq, Nat.mul_comm, Nat.mul_left_comm, Nat.mul_assoc,
    and_self]

theorem geometry_valid (hp : p.Built) (hpadding : p.shape.padding = 0)
    (hstride : p.shape.stride = 1) : (geometry p).Valid := by
  obtain ⟨hout, hfits⟩ := outDim_eq hp hpadding hstride
  obtain ⟨hsrc, hweights, -, hdst⟩ := size_eq hp
  exact
    { batch_pos := hp.shape.batch_pos
      inChannels_pos := hp.shape.inChannels_pos
      outChannels_pos := hp.shape.outChannels_pos
      kernel_pos := hp.shape.kernelSize_pos
      kernelH_fits := hfits
      kernelW_fits := hfits
      outH_eq := hout
      outW_eq := hout
      input_word := by rw [← hsrc, hp.src_size]; exact hp.shape.src_word
      output_word := by rw [← hdst, hp.dst_size]; exact hp.shape.dst_word
      weights_word := by rw [← hweights, hp.weights_size]; exact hp.shape.weights_word }

theorem size_output [Element α] (hp : p.Built) :
    (Buffer.ofArray (output p).toArray).size = p.memory.dst.size := by
  rw [Buffer.size_ofArray, List.size_toArray, (size_eq hp).2.2.2]
  exact Direct.Geometry.length_output ..

/-- One run of the candidate, whatever the destination holds. -/
theorem run_eq [Element α] {dst : Buffer α} (hp : p.Built) (hpadding : p.shape.padding = 0)
    (hstride : p.shape.stride = 1) (hdst : dst.size = p.memory.dst.size) :
    run { problem := p.withDst dst } =
      ({ problem := p.withDst (.ofArray (output p).toArray) }, .ok ()) := by
  obtain ⟨hsrc, hweights, hbias, hdst'⟩ := size_eq hp
  have hconvolve : Direct.convolve (geometry (p.withDst dst)) (p.withDst dst).scale
      (p.withDst dst).memory.src.toArray (p.withDst dst).memory.weights.toArray
      (p.withDst dst).memory.bias.toArray (p.withDst dst).memory.dst.toArray =
      .ok (output p).toArray :=
    Direct.convolve_eq (geometry_valid hp hpadding hstride) p.scale
      (p.memory.src.size_toArray.trans hsrc) (p.memory.weights.size_toArray.trans hweights)
      (p.memory.bias.size_toArray.trans hbias) (dst.size_toArray.trans (hdst.trans hdst'))
  simp only [run, hconvolve]
  rfl

end Candidate

/-! ### Any number of runs -/

namespace Kernel

def after [Element α] (k : Kernel α) : Nat → Kernel α
  | 0 => k
  | n + 1 => (k.after n).run.1

variable [Element α]

/-- A kernel as it was created for a problem, or as runs have left it: the destination and the
scratch may hold anything, everything else is as it was. -/
inductive Prepared [Processor] (p : Problem α) : Kernel α → Prop where
  | reference {primitive : Primitive α} {dst : Buffer α} (h : (Reference.descriptor p).Valid)
      (hp : primitive.Carries (Reference.descriptor p) .detect)
      (hbind : primitive.bind p.memory = .ok ()) (hdst : dst.size = p.memory.dst.size) :
      Prepared p (.reference { problem := p.withDst dst, primitive })
  | candidate {dst : Buffer α} (hp : p.Built) (hpadding : p.shape.padding = 0)
      (hstride : p.shape.stride = 1) (hdst : dst.size = p.memory.dst.size) :
      Prepared p (.candidate { problem := p.withDst dst })

namespace Prepared

variable [Processor] {p : Problem α} {k : Kernel α}

/-- A kernel is prepared when it is created. -/
theorem of_create {kind : Kind} (hp : p.Built) (hk : kind.create p = .ok k) :
    Prepared p k ∧ k.kind = kind := by
  cases kind with
  | reference =>
      obtain ⟨r, hr, rfl⟩ := map_eq_ok_iff.mp hk
      obtain ⟨primitive, hcreate, hbind, rfl⟩ := Reference.create_eq_ok_iff.mp hr
      exact ⟨.reference (Primitive.create_eq_ok_iff.mp hcreate).1
        (Primitive.Carries.of_create hcreate) hbind rfl, rfl⟩
  | candidate =>
      obtain ⟨c, hc, rfl⟩ := map_eq_ok_iff.mp hk
      obtain ⟨hpadding, hstride, rfl⟩ := (Candidate.create_eq_ok_iff hp).mp hc
      exact ⟨.candidate hp hpadding hstride rfl, rfl⟩

omit [Element α] in
theorem problem_eq (hk : Prepared p k) :
    ∃ dst, dst.size = p.memory.dst.size ∧ k.problem = p.withDst dst := by
  cases hk with
  | reference _ _ _ hdst => exact ⟨_, hdst, rfl⟩
  | candidate _ _ _ hdst => exact ⟨_, hdst, rfl⟩

/-- A run of a prepared kernel succeeds, writes the output and leaves the kernel prepared. -/
theorem run_eq (hk : Prepared p k) :
    ∃ k', k.run = (k', .ok ()) ∧ Prepared p k' ∧ k'.kind = k.kind ∧
      k'.problem.memory.dst.toArray = (k.kind.output p).toArray := by
  cases hk with
  | reference h hp hbind hdst =>
      obtain ⟨primitive', dst', hrun, hp', hdst', houtput⟩ := Reference.run_eq h hp hbind hdst
      have hbind' : primitive'.bind p.memory = .ok () :=
        (hp'.bind_iff h).mpr ((hp.bind_iff h).mp hbind)
      refine ⟨.reference { problem := p.withDst dst', primitive := primitive' }, ?_,
        .reference h hp' hbind' hdst', rfl, houtput⟩
      rw [run, hrun]
  | candidate hp hpadding hstride hdst =>
      refine ⟨_, ?_, .candidate hp hpadding hstride (Candidate.size_output hp), rfl, rfl⟩
      rw [run, Candidate.run_eq hp hpadding hstride hdst]

theorem after (hk : Prepared p k) (n : Nat) :
    Prepared p (k.after n) ∧ (k.after n).kind = k.kind := by
  induction n with
  | zero => exact ⟨hk, rfl⟩
  | succ n ih =>
      obtain ⟨k', hrun, hprepared, hkind, -⟩ := ih.1.run_eq
      rw [Kernel.after, hrun]
      exact ⟨hprepared, hkind.trans ih.2⟩

/-- From the first run on the destination holds the output. -/
theorem dst_after (hk : Prepared p k) (n : Nat) :
    (k.after (n + 1)).problem.memory.dst.toArray = (k.kind.output p).toArray := by
  obtain ⟨hprepared, hkind⟩ := hk.after n
  obtain ⟨k', hrun, -, -, houtput⟩ := hprepared.run_eq
  rw [Kernel.after, hrun, houtput, hkind]

end Prepared

/-- A prepared configuration never faults.  However the problem was made, if the kernel could be
created then every run succeeds; sources, weights, bias and all lengths stay as they are, and each
run leaves the destination of the first one. -/
theorem run_after [Processor] {p : Problem Float32}
    (hp : (∃ s options, Problem.build s options = .ok p) ∨
      ∃ s scale src weights bias, Problem.ofBuffers s scale src weights bias = .ok p)
    {kind : Kind} {k : Kernel Float32} (hk : kind.create p = .ok k) (n : Nat) :
    (k.after n).run.2 = .ok () ∧
      (k.after n).problem.memory.src = p.memory.src ∧
      (k.after n).problem.memory.weights = p.memory.weights ∧
      (k.after n).problem.memory.bias = p.memory.bias ∧
      (k.after n).problem.memory.dst.size = p.memory.dst.size ∧
      (1 ≤ n → (k.after n).problem.memory.dst.toArray =
        (k.after 1).problem.memory.dst.toArray) := by
  obtain ⟨s, hmade⟩ := exists_or.mpr hp
  obtain ⟨hprepared, -⟩ := Prepared.of_create (Problem.made_of_shape hmade).1 hk
  obtain ⟨k', hrun, -⟩ := (hprepared.after n).1.run_eq
  obtain ⟨dst, hdst, hproblem⟩ := (hprepared.after n).1.problem_eq
  rw [hrun, hproblem]
  refine ⟨rfl, rfl, rfl, rfl, hdst, ?_⟩
  intro hn
  obtain ⟨m, rfl⟩ := Nat.exists_eq_add_of_le' hn
  rw [← hproblem, hprepared.dst_after m, hprepared.dst_after 0]

/-- A shape with padding and a stride of two. -/
def stepped : Shape where
  batch := 2
  inDim := 3
  inChannels := 1
  outChannels := 2
  kernelSize := 2
  padding := 1
  stride := 2

section

attribute [local instance] Processor.vector

theorem run_after_stepped :
    ∃ p k, Problem.build stepped { scale := 2, fill := .pattern } = .ok p ∧
      Kind.reference.create p = .ok k ∧ (k.after 3).run.2 = .ok () ∧
      (k.after 3).problem.memory.dst.toArray = (k.after 1).problem.memory.dst.toArray := by
  obtain ⟨p, hp⟩ : ∃ p, Problem.build stepped { scale := 2, fill := .pattern } = .ok p := ⟨_, rfl⟩
  have hk : ∃ k, Kind.reference.create p = .ok k := by
    cases hp
    exact ⟨_, rfl⟩
  obtain ⟨k, hk⟩ := hk
  have hruns := run_after (.inl ⟨stepped, _, hp⟩) hk 3
  exact ⟨p, k, hp, hk, hruns.1, hruns.2.2.2.2.2 (by decide)⟩

end

end Kernel

end ConvLab
