import Quiesce.Text.Split
import Quiesce.Text.Numeral
import Quiesce.Text.Digits

/-!
The query of a request: pairs of a name and a value, both with escapes. Only names and numerals in
ASCII matter here, so every byte beyond ASCII is read as one and the same foreign character.
-/
namespace Quiesce.Control

def byteChar (n : Nat) : Char := if n < 128 then Char.ofNat n else '\ufffd'

/-- Text without its escapes: a plus sign is a space, and a percent sign with two hexadecimal
digits is a byte. -/
def unescape : List Char → List Char
  | '%' :: a :: b :: cs =>
    match Text.hexDigit? a, Text.hexDigit? b with
    | some m, some n => byteChar (m * 16 + n) :: unescape cs
    | _, _ => '%' :: unescape (a :: b :: cs)
  | '+' :: cs => ' ' :: unescape cs
  | c :: cs => c :: unescape cs
  | [] => []

/-- The pairs of a query. A pair without an equals sign has an empty value, and empty pairs are
passed over. -/
def pairs (query : List Char) : List (List Char × List Char) :=
  ((Text.splitWhen (· = '&') query).filter (!·.isEmpty)).map fun pair =>
    let (name, value) := (Text.cutAt '=' pair).getD (pair, [])
    (unescape name, unescape value)

inductive QueryFault where
  | numeral (cause : Numeral.Fault)
  | twice
  deriving DecidableEq

def QueryFault.message : QueryFault → String
  | numeral cause => s!"Failed to deserialize query string: {cause.message}"
  | twice => "Failed to deserialize query string: duplicate field `duration_ms`"

def durationFrom (found : Option UInt64) :
    List (List Char × List Char) → Except QueryFault (Option UInt64)
  | [] => .ok found
  | (name, value) :: rest =>
    if name = "duration_ms".toList then
      if found.isSome then .error .twice
      else
        match Numeral.readUInt64 value with
        | .ok n => durationFrom (some n) rest
        | .error cause => .error (.numeral cause)
    else durationFrom found rest

def duration? (query : List Char) : Except QueryFault (Option UInt64) :=
  durationFrom none (pairs query)

end Quiesce.Control
