import JsonPatch.Patch.Source
import JsonPatch.Predicate.Set
import JsonPatch.Settings

/-! # Patches

A patch is a list of descriptors with the registry that knows their operations.  It is built from
a source; the document must keep to the grammar, or to its shape if the settings ask for no more.
With predicates enabled, each predicate of a set is an operation too and goes before an operation
of the same name. -/

namespace JsonPatch

/-- A list of operations that can be applied to documents. -/
structure Patch where
  operations : List Descriptor
  settings : Settings
  /-- Whether predicates are operations too. -/
  withPredicates : Bool
  registry : Registry

namespace Patch

/-- How a patch is built. -/
structure Options where
  settings : Settings
  /-- Whether predicates are operations too; null leaves it to the settings. -/
  withPredicates : Value := .null
  registry : Registry := Registry.core
  predicates : PredicateSet := PredicateSet.builtin

/-- Whether predicates are enabled. -/
def Options.enablesPredicates (o : Options) : Bool :=
  match o.withPredicates with
  | .null => o.settings.enablePredicates.isTruthy
  | v => v.isTruthy

/-- The registry of a patch. -/
def Options.buildRegistry (o : Options) : Except Fault Registry :=
  if o.enablesPredicates then o.predicates.asOperations.map o.registry.merge
  else .ok o.registry

/-- The descriptors of a patch document. -/
def descriptors : Value → List Descriptor
  | .array items => items.filterMap fun v =>
    match v with
    | .object members => some members
    | _ => none
  | _ => []

/-- A patch document that keeps to the grammar. -/
def validate (whole : Bool) (ops : Value) : Except BuildError Value :=
  match Grammar.check whole ops with
  | [] => .ok ops
  | violations =>
    match Grammar.reports violations with
    | .ok reports => .error (.invalid reports)
    | .error f => .error (.fault f)

/-- The patch of descriptors that keep to the grammar. -/
def assemble (o : Options) (operations : List Descriptor) : Except Fault Patch :=
  o.buildRegistry.map fun registry =>
    { operations, settings := o.settings, withPredicates := o.enablesPredicates, registry }

/-- Build a patch. -/
def build (o : Options) (source : Source) : Except BuildError Patch :=
  match source.read with
  | .error e => .error e
  | .ok ops =>
    match validate o.settings.validateSchema.isTruthy ops with
    | .error e => .error e
    | .ok ops => (assemble o (descriptors ops)).mapError .fault

/-- Add an operation to the patch, whatever is registered under its name. -/
def register (p : Patch) (name : Value) (handler : Option Handler) : Except Fault Patch :=
  (p.registry.register name handler).map fun registry => { p with registry }

end Patch
end JsonPatch
