import Quiesce.Json.Basic
import Quiesce.Text.Quoted
import Quiesce.Lifecycle.Stage
import Quiesce.Lifecycle.Signal

/-!
Taking JSON values for what they are wanted as, and saying what was found where something else
was wanted.
-/
namespace Quiesce.Json

open Decimal (Binary64)

inductive Mismatch where
  | kind (found expected : String)
  | value (found expected : String)
  | length (found : Nat) (expected : String)
  | missing (field : String)
  | unknownVariant (name : String) (known : List String)
  deriving DecidableEq

def Mismatch.message : Mismatch → String
  | kind found expected => s!"invalid type: {found}, expected {expected}"
  | value found expected => s!"invalid value: {found}, expected {expected}"
  | length found expected => s!"invalid length {found}, expected {expected}"
  | missing field => s!"missing field `{field}`"
  | unknownVariant name known =>
    let list := ", ".intercalate (known.map fun k => s!"`{k}`")
    s!"unknown variant `{name}`, expected one of {list}"

/-- What differs between the formats that values come from: how a message shows a binary number,
and whether a list may hold more than is wanted of it. -/
structure Manner where
  realText : Binary64 → String
  surplusAllowed : Bool

def Manner.json : Manner := ⟨Binary64.compact, false⟩

def Manner.toml : Manner := ⟨Binary64.pointed, true⟩

/-- A value in the words of a message. -/
def found (m : Manner) : Json → String
  | null => "null"
  | bool b => s!"boolean `{b}`"
  | int n => s!"integer `{n}`"
  | real x => s!"floating point `{m.realText x}`"
  | str s => s!"string {Text.quoted s}"
  | arr _ => "sequence"
  | obj _ => "map"

def decodeNat (m : Manner) (limit : Nat) (expected : String) : Json → Except Mismatch Nat
  | int n =>
    if 0 ≤ n ∧ n ≤ limit then .ok n.toNat else .error (.value (found m (int n)) expected)
  | v => .error (.kind (found m v) expected)

def decodeUInt64 (m : Manner) (expected : String) (v : Json) : Except Mismatch UInt64 :=
  (decodeNat m 18446744073709551615 expected v).map UInt64.ofNat

def decodeUInt16 (m : Manner) (v : Json) : Except Mismatch UInt16 :=
  (decodeNat m 65535 "u16" v).map UInt16.ofNat

def decodeBool (m : Manner) : Json → Except Mismatch Bool
  | bool b => .ok b
  | v => .error (.kind (found m v) "a boolean")

def decodeStr (m : Manner) : Json → Except Mismatch String
  | str s => .ok s
  | v => .error (.kind (found m v) "a string")

/-- One of a set of names: a string, or an object whose one member has that name and no value. -/
def decodeVariant {α : Type} (ofName? : String → Option α) (known : List String) :
    Json → Except Mismatch α
  | str name => named name
  | obj [(name, value)] => do
    let variant ← named name
    match value with
    | null => .ok variant
    | v => .error (.kind (found .json v) "unit")
  | obj _ => .error (.value "map" "map with a single key")
  | v => .error (.kind (found .json v) "string or map")
where
  named (name : String) : Except Mismatch α :=
    match ofName? name with
    | some variant => .ok variant
    | none => .error (.unknownVariant name known)

def decodeStage : Json → Except Mismatch Stage :=
  decodeVariant Stage.ofName? (Stage.all.map Stage.name)

def decodeSignal : Json → Except Mismatch Signal :=
  decodeVariant Signal.ofName? (Signal.all.map Signal.name)

end Quiesce.Json
