import ConvLab.Suite.Writer

/-!
# Reading suites

The readers of a suite and its parts.  A suite may leave out its number of warm-up runs, whether it
verifies, and its options or any of them.
-/

namespace ConvLab

variable [TextLayer]

def Fill.read : TextLayer.Reader Fill := TextLayer.choice Fill.name Fill.all

def Kind.read : TextLayer.Reader Kind := TextLayer.choice Kind.name Kind.all

/-- The parameters of an entry that have been read. -/
structure EntryDraft where
  batch : Option Int64 := none
  inDim : Option Int64 := none
  inChannels : Option Int64 := none
  outChannels : Option Int64 := none
  kernelSize : Option Int64 := none
  padding : Option Int64 := none
  stride : Option Int64 := none

def Entry.record : Record TextLayer.Reader EntryDraft Entry where
  name := "ShapeEntry"
  fields :=
    let field (name : String) := Field.mk name false TextLayer.signed64
    [field "batch" EntryDraft.batch fun d v => { d with batch := some v },
     field "in_dim" EntryDraft.inDim fun d v => { d with inDim := some v },
     field "in_channels" EntryDraft.inChannels fun d v => { d with inChannels := some v },
     field "out_channels" EntryDraft.outChannels fun d v => { d with outChannels := some v },
     field "kernel_size" EntryDraft.kernelSize fun d v => { d with kernelSize := some v },
     field "padding" EntryDraft.padding fun d v => { d with padding := some v },
     field "stride" EntryDraft.stride fun d v => { d with stride := some v }]
  empty := {}
  finish d := do return {
    batch := ← Record.require "batch" d.batch
    inDim := ← Record.require "in_dim" d.inDim
    inChannels := ← Record.require "in_channels" d.inChannels
    outChannels := ← Record.require "out_channels" d.outChannels
    kernelSize := ← Record.require "kernel_size" d.kernelSize
    padding := ← Record.require "padding" d.padding
    stride := ← Record.require "stride" d.stride }

def Entry.read : TextLayer.Reader Entry := TextLayer.record Entry.record

structure OptionsDraft where
  scale : Option Float32 := none
  fill : Option Fill := none

def Options.record : Record TextLayer.Reader OptionsDraft Options where
  name := "InstanceOptions"
  fields := [
    .mk "scale" true TextLayer.single OptionsDraft.scale fun d v => { d with scale := some v },
    .mk "init" true Fill.read OptionsDraft.fill fun d v => { d with fill := some v }]
  empty := {}
  finish d :=
    let standard : Options := {}
    .ok { scale := d.scale.getD standard.scale, fill := d.fill.getD standard.fill }

def Options.read : TextLayer.Reader Options := TextLayer.record Options.record

structure RegistrationDraft where
  kernel : Option Kind := none
  shapes : Option (List Entry) := none

def Registration.record : Record TextLayer.Reader RegistrationDraft Registration where
  name := "KernelShapes"
  fields := [
    .mk "kernel" false Kind.read RegistrationDraft.kernel fun d v => { d with kernel := some v },
    .mk "shapes" false (TextLayer.sequence Entry.read) RegistrationDraft.shapes
      fun d v => { d with shapes := some v }]
  empty := {}
  finish d := do return {
    kernel := ← Record.require "kernel" d.kernel
    shapes := ← Record.require "shapes" d.shapes }

def Registration.read : TextLayer.Reader Registration := TextLayer.record Registration.record

structure SuiteDraft where
  name : Option String := none
  description : Option String := none
  warmUps : Option UInt32 := none
  executions : Option UInt32 := none
  verify : Option Bool := none
  options : Option Options := none
  kernels : Option (List Registration) := none

def Suite.record : Record TextLayer.Reader SuiteDraft Suite where
  name := "SuiteConfig"
  fields := [
    .mk "name" false TextLayer.string SuiteDraft.name fun d v => { d with name := some v },
    .mk "description" false TextLayer.string SuiteDraft.description
      fun d v => { d with description := some v },
    .mk "warmup_iterations" true TextLayer.unsigned32 SuiteDraft.warmUps
      fun d v => { d with warmUps := some v },
    .mk "num_executions" false TextLayer.unsigned32 SuiteDraft.executions
      fun d v => { d with executions := some v },
    .mk "verify" true TextLayer.boolean SuiteDraft.verify fun d v => { d with verify := some v },
    .mk "instance" true Options.read SuiteDraft.options fun d v => { d with options := some v },
    .mk "kernels" false (TextLayer.sequence Registration.read) SuiteDraft.kernels
      fun d v => { d with kernels := some v }]
  empty := {}
  finish d := do return {
    name := ← Record.require "name" d.name
    description := ← Record.require "description" d.description
    warmUps := d.warmUps.getD Suite.defaultWarmUps
    executions := ← Record.require "num_executions" d.executions
    verify := d.verify.getD false
    options := d.options.getD {}
    kernels := ← Record.require "kernels" d.kernels }

def Suite.read : TextLayer.Reader Suite := TextLayer.record Suite.record

end ConvLab
