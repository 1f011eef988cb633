import LoggedInputs.Diagnostic
/-!
# Batch generation

`processClass` decides one class: a closed class or one whose fields (all of them, loggable or
not) share a log key gets a single error and no unit; otherwise each unloggable field gets a
warning and the rest are emitted. `generate` concatenates the outcomes of a batch in input
order, and `Report.persist` hands each unit to a writer, turning failed writes into errors.
-/

namespace LoggedInputs

/-- What one class produced. -/
structure ClassOutcome where
  unit : Option GeneratedUnit
  diagnostics : List Diagnostic
  deriving DecidableEq

/-- Refuses a closed class, then a class whose fields share a log key. -/
def checkClass (c : ClassDescriptor) : Except ClassError Unit :=
  if !c.isExtensible then .error (.notExtensible c.qualifiedName)
  else checkUniqueKeys c c.fields

/-- The loggable fields of a class with their tags, in declaration order. -/
def classifiedFields (c : ClassDescriptor) : List (FieldDescriptor × CodecTag) :=
  c.fields.filterMap fun f =>
    match classify f.type with
    | .ok t => some (f, t)
    | .error _ => none

/-- One warning per unloggable field, in declaration order. -/
def fieldWarnings (c : ClassDescriptor) : List Diagnostic :=
  c.fields.filterMap fun f =>
    match classify f.type with
    | .ok _ => none
    | .error e => some (Diagnostic.unsupportedField c f e)

/-- The outcome of one class. -/
def processClass (c : ClassDescriptor) : ClassOutcome :=
  match checkClass c with
  | .error e => { unit := none, diagnostics := [Diagnostic.ofClassError e] }
  | .ok () =>
    match emit c (classifiedFields c) with
    | .ok u => { unit := some u, diagnostics := fieldWarnings c }
    | .error e => { unit := none, diagnostics := fieldWarnings c ++ [Diagnostic.ofClassError e] }

/-- Units and diagnostics of a batch, both in input order. -/
structure Report where
  units : List GeneratedUnit := []
  diagnostics : List Diagnostic := []
  deriving DecidableEq

namespace Report

/-- Whether some diagnostic is an error. -/
def hasErrors (r : Report) : Bool := r.diagnostics.any Diagnostic.isError

/-- The report of one outcome. -/
def ofOutcome (o : ClassOutcome) : Report :=
  { units := o.unit.toList, diagnostics := o.diagnostics }

/-- Two reports one after the other. -/
def append (r s : Report) : Report :=
  { units := r.units ++ s.units, diagnostics := r.diagnostics ++ s.diagnostics }

end Report

/-- The report of a batch of classes. -/
def generate : List ClassDescriptor → Report
  | [] => {}
  | c :: cs => (Report.ofOutcome (processClass c)).append (generate cs)

/-- The report of the selected entries of a batch. -/
def generateSelected (es : List DescriptorEntry) : Report :=
  generate ((es.filter DescriptorEntry.selected).map DescriptorEntry.descriptor)

namespace Report

/-- Hands every unit to `write` in order, appending one error per failed write; also counts the
successful writes. -/
def persist {m : Type → Type} [Monad m] (write : GeneratedUnit → m (Except PersistError Unit))
    (r : Report) : m (Report × Nat) := do
  let mut added : List Diagnostic := []
  let mut written := 0
  for u in r.units do
    match ← write u with
    | .ok () => written := written + 1
    | .error e => added := added ++ [Diagnostic.persistenceFailure u.baseQualifiedName e]
  return ({ r with diagnostics := r.diagnostics ++ added }, written)

end Report

/-- The scope that the events of processing a class happen in. -/
def ClassDescriptor.scope (c : ClassDescriptor) : LogScope :=
  { name := "auto_log", fields := [("class", c.qualifiedName)] }

/-- The progress events of processing one class. -/
def processEvents (c : ClassDescriptor) : List LogEvent :=
  let scope := c.scope
  match checkClass c with
  | .error e =>
    [{ level := .debug, scope := some scope, message := "class rejected",
       fields := [("error", e.message)] }]
  | .ok () =>
    let skipped := c.fields.filterMap fun f =>
      match classify f.type with
      | .ok _ => none
      | .error e => some
        { level := .trace, scope := some scope, message := "field skipped",
          fields := [("field", f.name), ("error", e.message)] : LogEvent }
    let fields := classifiedFields c
    match emit c fields with
    | .ok u =>
      skipped ++ emitEvents scope fields ++
        [{ level := .debug, scope := some scope, message := "generated auto-logged class",
           fields := [("unit", u.name), ("fields", Text.decimal fields.length),
             ("skipped", Text.decimal skipped.length)] }]
    | .error _ => skipped

end LoggedInputs
