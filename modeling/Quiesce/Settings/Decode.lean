import Quiesce.Json.Decode
import Quiesce.Settings.Basic

/-!
Settings as structured values. A section is an object, of which unknown members are passed over
and missing ones have their defaults, or a list of its values in order, of which the last ones
may be missing. The three sections themselves have to be there.
-/
namespace Quiesce

open Json (Manner Mismatch)

abbrev Json.Setter (α : Type) := α → Json → Except Mismatch α

def Json.decodeMembers {α : Type} (field? : String → Option (Setter α)) :
    α → List (String × Json) → Except Mismatch α
  | section_, [] => .ok section_
  | section_, (name, value) :: rest =>
    match field? name with
    | none => decodeMembers field? section_ rest
    | some set => do decodeMembers field? (← set section_ value) rest

def Json.decodeItems {α : Type} : List (Setter α) → α → List Json → Except Mismatch α
  | set :: sets, section_, item :: items => do decodeItems sets (← set section_ item) items
  | _, section_, _ => .ok section_

def Json.decodeSection {α : Type} (m : Manner) (title : String) (fields : List (String × Setter α))
    (default : α) : Json → Except Mismatch α
  | obj members =>
    decodeMembers (fun name => (fields.find? (·.1 == name)).map (·.2)) default members
  | arr items => do
    let section_ ← decodeItems (fields.map (·.2)) default items
    if !m.surplusAllowed && items.length > fields.length then
      .error (.length items.length "fewer elements in array")
    else .ok section_
  | v => .error (.kind (found m v) s!"struct {title}")

def LifecycleSettings.decode (m : Manner) : Json → Except Mismatch LifecycleSettings :=
  Json.decodeSection m "LifecycleConfig"
    [("grace_period_ms", fun s v => do return { s with graceMs := ← Json.decodeUInt64 m "u64" v })]
    {}

def WorkloadSettings.decode (m : Manner) : Json → Except Mismatch WorkloadSettings :=
  Json.decodeSection m "WorkloadConfig"
    [("workers", fun s v => do return { s with workers := ← Json.decodeUInt64 m "usize" v }),
     ("unit_duration_ms", fun s v => do return { s with unitMs := ← Json.decodeUInt64 m "u64" v }),
     ("max_job_duration_ms", fun s v => do
        return { s with jobLimitMs := ← Json.decodeUInt64 m "u64" v })]
    {}

def ControlSettings.decode (m : Manner) : Json → Except Mismatch ControlSettings :=
  Json.decodeSection m "ControlConfig"
    [("enabled", fun s v => do return { s with enabled := ← Json.decodeBool m v }),
     ("ip", fun s v => do return { s with ip := ← Json.decodeStr m v }),
     ("port", fun s v => do return { s with port := ← Json.decodeUInt16 m v })]
    {}

namespace Settings

structure Partial where
  lifecycle : Option LifecycleSettings := none
  workload : Option WorkloadSettings := none
  control : Option ControlSettings := none

def Partial.complete (p : Partial) : Except Mismatch Settings :=
  match p.lifecycle, p.workload, p.control with
  | some l, some w, some c => .ok ⟨l, w, c⟩
  | none, _, _ => .error (.missing "lifecycle")
  | some _, none, _ => .error (.missing "workload")
  | some _, some _, none => .error (.missing "control")

def sectionSetters (m : Manner) : List (String × Json.Setter Partial) :=
  [("lifecycle", fun p v => do
      return { p with lifecycle := some (← LifecycleSettings.decode m v) }),
   ("workload", fun p v => do return { p with workload := some (← WorkloadSettings.decode m v) }),
   ("control", fun p v => do return { p with control := some (← ControlSettings.decode m v) })]

def decode (m : Manner) : Json → Except Mismatch Settings
  | .arr items => do
    let sections ← Json.decodeItems ((sectionSetters m).map (·.2)) {} items
    match sections.complete with
    | .error _ => .error (.length items.length "struct DvmConfig with 3 elements")
    | .ok s =>
      if !m.surplusAllowed && items.length > 3 then
        .error (.length items.length "fewer elements in array")
      else .ok s
  | v => do
    let sections ← Json.decodeSection m "DvmConfig" (sectionSetters m) {} v
    sections.complete

end Settings

/-! Settings as JSON, in the order of their fields. -/

def LifecycleSettings.toJson (s : LifecycleSettings) : Json :=
  .obj [("grace_period_ms", .nat s.graceMs.toNat)]

def WorkloadSettings.toJson (s : WorkloadSettings) : Json :=
  .obj [("workers", .nat s.workers.toNat), ("unit_duration_ms", .nat s.unitMs.toNat),
    ("max_job_duration_ms", .nat s.jobLimitMs.toNat)]

def ControlSettings.toJson (s : ControlSettings) : Json :=
  .obj [("enabled", .bool s.enabled), ("ip", .str s.ip), ("port", .nat s.port.toNat)]

def Settings.toJson (s : Settings) : Json :=
  .obj [("lifecycle", s.lifecycle.toJson), ("workload", s.workload.toJson),
    ("control", s.control.toJson)]

end Quiesce
