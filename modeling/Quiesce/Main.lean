import Quiesce.Cli.Check

/-!
The program. Its first argument may be `shutdown-check`, and then it runs the check; otherwise it
is the daemon. A daemon that runs takes what happens to it from its standard input, line by line.
-/
namespace Quiesce

open Settings (Sources)

def addFile (sources : Sources) (path : String) : IO Sources := do
  try
    let bytes ← IO.FS.readBinFile path
    return sources.setFile path (some bytes)
  catch _ => return sources

def addEnvironment (sources : Sources) : IO Sources := do
  try
    let bytes ← IO.FS.readBinFile "/proc/self/environ"
    let entries := Text.splitWhen (· = 0) bytes.toList
    return entries.foldl (fun sources entry =>
      match (String.fromUTF8? ⟨entry.toArray⟩).bind fun text => Text.cutAt '=' text.toList with
      | some (name, value) => sources.setVariable (String.ofList name) (String.ofList value)
      | none => sources) sources
  catch _ => return sources

def readSources (args : List String) : IO Sources := do
  let path := Cli.Dvm.configPath args
  let sources ← addFile {} path
  let sources ← addFile sources (path ++ ".toml")
  addEnvironment (← addFile sources (path ++ ".json"))

def ownNumber : IO UInt32 := do
  try
    let text ← IO.FS.readFile "/proc/self/stat"
    let digits := text.toList.takeWhile Char.isDigit
    return (Numeral.readUInt64 digits).toOption.elim 1 (·.toUInt32)
  catch _ => return 1

def thisHost : IO Host := return { pid := ← ownNumber, freePort := 40000 }

def printAll (p : Cli.Printed) : IO UInt32 := do
  for line in p.stdout do IO.println line
  for line in p.stderr do IO.eprintln line
  return p.code.toUInt32

def printNews (d : Daemon) (count : Nat) : IO Unit := do
  for (_, line) in d.lines.drop count do IO.println line.render
  (← IO.getStdout).flush

/-- Lets a daemon run until it stops or its input ends. -/
partial def serve (input : IO.FS.Stream) (d : Daemon) : IO UInt32 := do
  match d.exit? with
  | some (_, code) => return code.toUInt32
  | none =>
    let line ← input.getLine
    if line.isEmpty then
      printNews (d.play []) d.lines.length
      printAll (Cli.Dvm.farewell d)
    else
      let after := Cli.Dvm.hear d line.trimAscii.toString
      printNews after d.lines.length
      serve input after

end Quiesce

open Quiesce

def main (args : List String) : IO UInt32 := do
  match args with
  | "shutdown-check" :: args =>
    let sources ← addEnvironment {}
    printAll (Cli.Check.run (.new (← thisHost) sources none) args)
  | _ =>
    match Cli.Dvm.launch (← thisHost) (← readSources args) args with
    | .error printed => printAll printed
    | .ok d => do
      printNews d 0
      serve (← IO.getStdin) d
