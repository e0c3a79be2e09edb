import Quiesce.Decimal.Reader
import Quiesce.Text.Split
import Quiesce.Settings.KeyPath

/-!
Settings from variables. A variable whose name starts with `DVM_`, in any case, sets the key that
the rest of its name spells in lower case, with points for double underscores. Its value is taken
for a switch, a whole number or a binary number if it reads as one, and else for a text.
-/
namespace Quiesce.Settings.Environment

def sourceName : String := "the environment"

def pointed : List Char → List Char
  | '_' :: '_' :: cs => '.' :: pointed cs
  | c :: cs => c :: pointed cs
  | [] => []

def key? (name : String) : Option String :=
  (Text.stripStart? "dvm_".toList (Text.lower name).toList).map fun rest =>
    String.ofList (pointed rest)

def guess (text : String) : Scalar :=
  match Text.lower text with
  | "true" => .bool true
  | "false" => .bool false
  | _ =>
    match Numeral.readInt64 text.toList with
    | .ok n => .int n
    | .error _ =>
      match Decimal.read? text.toList with
      | some x => .real x
      | none => .text text

def entries (vars : List (String × String)) : List (String × Sourced) :=
  vars.filterMap fun (name, text) =>
    (key? name).map fun key => (key, .scalar (some sourceName) (guess text))

end Quiesce.Settings.Environment
