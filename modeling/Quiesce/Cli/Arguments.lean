import Quiesce.Text.Split

/-!
Reading a command line of options alone. An option has a long name after two dashes and may have a
short one after a single dash; one that takes a value finds it after an equals sign or in the next
argument, which must not look like an option. Short options may be put together behind one dash,
and two dashes alone end the options. Arguments are taken from left to right, and the first fault
or the first request for help or for the version ends the reading.
-/
namespace Quiesce.Cli

structure Choice where
  long : String
  short : Option Char := none
  accepts : Option (String → Bool) := none

structure Grammar where
  choices : List Choice
  /-- Whether an option may be given again; the last time counts. -/
  repeatable : Bool
  hasVersion : Bool

inductive Stop where
  | usage
  | help
  | version
  deriving DecidableEq

abbrev Given := List (String × Option String)

namespace Given

def has (g : Given) (name : String) : Bool := g.any (·.1 == name)

def value? (g : Given) (name : String) : Option String :=
  (g.reverse.find? (·.1 == name)).bind (·.2)

end Given

namespace Grammar

def add (g : Grammar) (given : Given) (c : Choice) (value : Option String) :
    Except Stop Given :=
  if !g.repeatable && given.has c.long then .error .usage
  else
    match c.accepts, value with
    | some accepts, some v => if accepts v then .ok (given ++ [(c.long, value)]) else .error .usage
    | none, none => .ok (given ++ [(c.long, none)])
    | _, _ => .error .usage

def nextValue : List String → Except Stop (String × List String)
  | [] => .error .usage
  | v :: rest => if v.startsWith "-" && v ≠ "-" then .error .usage else .ok (v, rest)

def takeLong (g : Grammar) (given : Given) (name : String) (value : Option String)
    (rest : List String) : Except Stop (Given × List String) :=
  match g.choices.find? (·.long == name) with
  | some c =>
    if c.accepts.isSome && value.isNone then do
      let (v, rest) ← nextValue rest
      return (← g.add given c (some v), rest)
    else do return (← g.add given c value, rest)
  | none =>
    if value.isSome then .error .usage
    else if name = "help" then .error .help
    else if name = "version" && g.hasVersion then .error .version
    else .error .usage

def takeShort (g : Grammar) (rest : List String) :
    Given → List Char → Except Stop (Given × List String)
  | given, [] => .ok (given, rest)
  | given, c :: cs =>
    match g.choices.find? (·.short == some c) with
    | some choice =>
      if choice.accepts.isNone then do takeShort g rest (← g.add given choice none) cs
      else if cs.isEmpty then do
        let (v, rest) ← nextValue rest
        return (← g.add given choice (some v), rest)
      else do
        let v := if cs.head? = some '=' then cs.tail else cs
        return (← g.add given choice (some (String.ofList v)), rest)
    | none =>
      if c = 'h' then .error .help
      else if c = 'V' && g.hasVersion then .error .version
      else .error .usage

/-- Takes the arguments that are left. Each step uses up one at least. -/
def readFrom (g : Grammar) : Nat → Given → List String → Except Stop Given
  | _, given, [] => .ok given
  | 0, _, _ => .error .usage
  | fuel + 1, given, arg :: rest =>
    match arg.toList with
    | ['-', '-'] => if rest.isEmpty then .ok given else .error .usage
    | '-' :: '-' :: cs => do
      let (name, value) := match Text.cutAt '=' cs with
        | some (name, value) => (String.ofList name, some (String.ofList value))
        | none => (String.ofList cs, none)
      let (given, rest) ← g.takeLong given name value rest
      readFrom g fuel given rest
    | '-' :: c :: cs => do
      let (given, rest) ← g.takeShort rest given (c :: cs)
      readFrom g fuel given rest
    | _ => .error .usage

def read (g : Grammar) (args : List String) : Except Stop Given :=
  g.readFrom args.length [] args

end Grammar

structure Printed where
  code : UInt8
  stdout : List String := []
  stderr : List String := []

end Quiesce.Cli
