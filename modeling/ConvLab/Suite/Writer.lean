import ConvLab.Json.Layer
import ConvLab.Suite.Basic

/-!
# The written form of suites

A suite and its parts as JSON documents, their fields in a fixed order.
-/

namespace ConvLab

def Fill.name : Fill → String
  | .zeroed => "zeroed"
  | .pattern => "pattern"

def Fill.all : List Fill := [.zeroed, .pattern]

def Fill.toJson (f : Fill) : JsonValue := .string f.name

def Kind.toJson (k : Kind) : JsonValue := .string k.name

def Entry.toJson (e : Entry) : JsonValue := .object [
  ("batch", .integer e.batch.toInt),
  ("in_dim", .integer e.inDim.toInt),
  ("in_channels", .integer e.inChannels.toInt),
  ("out_channels", .integer e.outChannels.toInt),
  ("kernel_size", .integer e.kernelSize.toInt),
  ("padding", .integer e.padding.toInt),
  ("stride", .integer e.stride.toInt)]

def Options.toJson (o : Options) : JsonValue := .object [
  ("scale", .single o.scale),
  ("init", o.fill.toJson)]

def Registration.toJson (r : Registration) : JsonValue := .object [
  ("kernel", r.kernel.toJson),
  ("shapes", .array (r.shapes.map Entry.toJson))]

def Suite.toJson (s : Suite) : JsonValue := .object [
  ("name", .string s.name),
  ("description", .string s.description),
  ("warmup_iterations", .integer s.warmUps.toNat),
  ("num_executions", .integer s.executions.toNat),
  ("verify", .boolean s.verify),
  ("instance", s.options.toJson),
  ("kernels", .array (s.kernels.map Registration.toJson))]

end ConvLab
