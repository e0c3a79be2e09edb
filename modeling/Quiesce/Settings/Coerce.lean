import Quiesce.Decimal.Shortest
import Quiesce.Text.Numeral
import Quiesce.Text.Quoted
import Quiesce.Settings.Basic
import Quiesce.Settings.Fault
import Quiesce.Settings.Sourced

/-!
Taking values from any source for what a setting needs. Numbers, switches and texts stand in for
one another where that makes sense; what does not is refused with its key and its source.
-/
namespace Quiesce.Settings

open Decimal (Binary64)

namespace Sourced

def found : Sourced → String
  | scalar _ .nothing => "unit value"
  | scalar _ (.bool b) => s!"boolean `{b}`"
  | scalar _ (.int n) => s!"64-bit integer `{n}`"
  | scalar _ (.real x) => s!"floating point `{x.plain}`"
  | scalar _ (.text s) => s!"string {Text.quoted s}"
  | list _ _ => "sequence"
  | table _ _ => "map"

def source? : Sourced → Option String
  | scalar s _ | list s _ | table s _ => s

def refuse (key expected : String) (v : Sourced) : Fault :=
  .wrongKind v.found expected (some key) v.source?

/-- A count: switches are one and zero, binary numbers are rounded and kept in range, and texts
are switches or numerals. -/
def coerceNat (key : String) : Sourced → Except Fault Nat
  | scalar s (.int n) =>
    if 0 ≤ n then .ok n.toNat
    else .error (refuse key "an unsigned 64 bit or less integer" (scalar s (.int n)))
  | scalar s (.text t) =>
    match Text.lower t with
    | "true" | "on" | "yes" => .ok 1
    | "false" | "off" | "no" => .ok 0
    | _ =>
      match Numeral.readUInt64 t.toList with
      | .ok n => .ok n.toNat
      | .error _ => .error (refuse key "an integer" (scalar s (.text t)))
  | scalar _ (.bool b) => .ok (if b then 1 else 0)
  | scalar _ (.real x) => .ok (x.toNatSaturating 18446744073709551615)
  | v => .error (refuse key "an integer" v)

def coerceUInt64 (key : String) (v : Sourced) : Except Fault UInt64 :=
  (v.coerceNat key).map UInt64.ofNat

def coerceUInt16 (key : String) (v : Sourced) : Except Fault UInt16 := do
  let n ← v.coerceNat key
  if n ≤ 65535 then .ok (UInt16.ofNat n)
  else
    .error (.wrongKind s!"64-bit unsigned integer `{n}`" "an unsigned 16 bit integer" (some key)
      none)

/-- A switch: numbers are on unless they are zero, and texts are switches or one and zero. -/
def coerceBool (key : String) : Sourced → Except Fault Bool
  | scalar _ (.bool b) => .ok b
  | scalar _ (.int n) => .ok (n ≠ 0)
  | scalar _ (.real x) => .ok (!x.isZero)
  | scalar s (.text t) =>
    match Text.lower t with
    | "1" | "true" | "on" | "yes" => .ok true
    | "0" | "false" | "off" | "no" => .ok false
    | lowered => .error (refuse key "a boolean" (scalar s (.text lowered)))
  | v => .error (refuse key "a boolean" v)

def coerceText (key : String) : Sourced → Except Fault String
  | scalar _ (.text t) => .ok t
  | scalar _ (.bool b) => .ok (toString b)
  | scalar _ (.int n) => .ok (toString n)
  | scalar _ (.real x) => .ok x.plain
  | v => .error (refuse key "a string" v)

def foundSection : Scalar → String
  | .nothing => "unit value"
  | .bool b => s!"boolean `{b}`"
  | .int n => s!"integer `{n}`"
  | .real x => s!"floating point `{x.pointed}`"
  | .text s => s!"string {Text.quoted s}"

/-- The value of a field with the key that messages give it: in a table the entry of its name, in
a list the item at its position. -/
def field? (section_ name : String) (index : Nat) : Sourced → Option (String × Sourced)
  | table _ entries => (valueOf? name entries).map fun v => (s!"{section_}.{name}", v)
  | list _ items => items[index]?.map fun v => (s!"{section_}[{index}]", v)
  | scalar _ _ => none

def takeField {α : Type} (coerce : String → Sourced → Except Fault α) (default : α)
    (field : Option (String × Sourced)) : Except Fault α :=
  match field with
  | some (key, v) => coerce key v
  | none => .ok default

def requireSection (title : String) : Sourced → Except Fault Unit
  | scalar _ s => .error (.wrongSection (foundSection s) s!"struct {title}")
  | _ => .ok ()

def toLifecycle (v : Sourced) : Except Fault LifecycleSettings := do
  requireSection "LifecycleConfig" v
  let d : LifecycleSettings := {}
  return { graceMs := ← takeField coerceUInt64 d.graceMs
             (field? "lifecycle" "grace_period_ms" 0 v) }

def toWorkload (v : Sourced) : Except Fault WorkloadSettings := do
  requireSection "WorkloadConfig" v
  let d : WorkloadSettings := {}
  return { workers := ← takeField coerceUInt64 d.workers (field? "workload" "workers" 0 v)
           unitMs := ← takeField coerceUInt64 d.unitMs (field? "workload" "unit_duration_ms" 1 v)
           jobLimitMs := ← takeField coerceUInt64 d.jobLimitMs
             (field? "workload" "max_job_duration_ms" 2 v) }

def toControl (v : Sourced) : Except Fault ControlSettings := do
  requireSection "ControlConfig" v
  let d : ControlSettings := {}
  return { enabled := ← takeField coerceBool d.enabled (field? "control" "enabled" 0 v)
           ip := ← takeField coerceText d.ip (field? "control" "ip" 1 v)
           port := ← takeField coerceUInt16 d.port (field? "control" "port" 2 v) }

def toSettings (v : Sourced) : Except Fault Settings := do
  let part (name : String) : Sourced := (valueOf? name v.asTable.2).getD empty
  return { lifecycle := ← toLifecycle (part "lifecycle")
           workload := ← toWorkload (part "workload")
           control := ← toControl (part "control") }

end Sourced

end Quiesce.Settings
