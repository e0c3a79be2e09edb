import Quiesce.Toml.Number
import Quiesce.Toml.Moment
import Quiesce.Toml.Document

/-!
Reading TOML text: values, keys, and the lines of a document. Values are nested less than eighty
deep, and a key has less than eighty parts.
-/
namespace Quiesce.Toml

def skipBlanks (cs : List Char) : List Char := cs.dropWhile isBlank

def skipTrivia (inComment : Bool) : List Char → Option (List Char)
  | [] => some []
  | c :: cs =>
    if c = '\n' then skipTrivia false cs
    else if c = '\r' then if cs.head? = some '\n' then skipTrivia false cs else none
    else if inComment then if isPlain c then skipTrivia true cs else none
    else if isBlank c then skipTrivia false cs
    else if c = '#' then skipTrivia true cs
    else some (c :: cs)

def isBareKeyChar (c : Char) : Bool :=
  c.isAlphanum || c = '_' || c = '-'

def readKeyPart (cs : List Char) : Option (String × List Char) :=
  match cs with
  | '"' :: rest => (readBasic .text rest).map fun (name, rest) => (String.ofList name, rest)
  | '\'' :: rest => (readLiteral rest).map fun (name, rest) => (String.ofList name, rest)
  | _ =>
    let word := cs.takeWhile isBareKeyChar
    if word.isEmpty then none else some (String.ofList word, cs.dropWhile isBareKeyChar)

/-- Reads a key of at most `limit` parts with points between them. White space around the parts
does not matter. -/
def readKey : Nat → List Char → Option (List String × List Char)
  | 0, _ => none
  | limit + 1, cs => do
    let (name, rest) ← readKeyPart (skipBlanks cs)
    match skipBlanks rest with
    | '.' :: rest =>
      let (names, rest) ← readKey limit rest
      some (name :: names, rest)
    | rest => some ([name], rest)

def maxKeyParts : Nat := 79

mutual

def readValue (depth : Nat) : Nat → List Char → Option (Toml × List Char)
  | 0, _ => none
  | fuel + 1, cs =>
    match cs with
    | [] => none
    | c :: rest =>
      if c = '"' || c = '\'' then
        (readString cs).map fun (text, rest) => (str (String.ofList text), rest)
      else if c = '[' then
        if depth ≤ 1 then none
        else do
          let (items, rest) ← readItems (depth - 1) fuel (← skipTrivia false rest)
          some (arr items, rest)
      else if c = '\x7b' then
        if depth ≤ 1 then none
        else match skipBlanks rest with
          | '\x7d' :: rest => some (table [], rest)
          | rest => do
            let (entries, rest) ← readPairs (depth - 1) fuel [] rest
            some (table (entriesToToml entries), rest)
      else if c = 't' then
        match rest with
        | 'r' :: 'u' :: 'e' :: rest => some (bool true, rest)
        | _ => none
      else if c = 'f' then
        match rest with
        | 'a' :: 'l' :: 's' :: 'e' :: rest => some (bool false, rest)
        | _ => none
      else if startsMoment cs then readMoment .literal cs
      else readNumber cs

def readItems (depth : Nat) : Nat → List Char → Option (List Toml × List Char)
  | 0, _ => none
  | _, ']' :: rest => some ([], rest)
  | fuel + 1, cs => do
    let (item, rest) ← readValue depth fuel cs
    match ← skipTrivia false rest with
    | ',' :: rest =>
      let (items, rest) ← readItems depth fuel (← skipTrivia false rest)
      some (item :: items, rest)
    | ']' :: rest => some ([item], rest)
    | _ => none

def readPairs (depth : Nat) : Nat → Entries → List Char → Option (Entries × List Char)
  | 0, _, _ => none
  | fuel + 1, entries, cs => do
    let (names, rest) ← readKey maxKeyParts cs
    match rest with
    | '=' :: rest =>
      let (value, rest) ← readValue depth fuel (skipBlanks rest)
      let entries ← addValue names.dropLast (names.getLast?.getD "") value .header entries
      match skipBlanks rest with
      | ',' :: rest => readPairs depth fuel entries rest
      | '\x7d' :: rest => some (entries, rest)
      | _ => none
    | _ => none

end

def endLine (cs : List Char) : Option (List Char) :=
  match skipBlanks cs with
  | '#' :: rest => comment rest
  | rest => if rest.isEmpty || startsLine rest then some (dropLineEnd rest) else none
where
  comment (cs : List Char) : Option (List Char) :=
    let rest := cs.dropWhile isPlain
    if rest.isEmpty || startsLine rest then some (dropLineEnd rest) else none

structure Draft where
  entries : Entries := []
  header : List String := []

def Draft.add (d : Draft) (names : List String) (value : Toml) : Option Draft := do
  let entries ← descend false (addValue names.dropLast (names.getLast?.getD "") value)
    d.header .header d.entries
  some { d with entries := entries }

def readHeader (double : Bool) (d : Draft) (cs : List Char) : Option (Draft × List Char) := do
  let (names, rest) ← readKey maxKeyParts cs
  let path := names.dropLast
  let name := names.getLast?.getD ""
  match double, rest with
  | false, ']' :: rest => some (⟨← openTable path name d.entries, names⟩, rest)
  | true, ']' :: ']' :: rest => some (⟨← openNext path name d.entries, names⟩, rest)
  | _, _ => none

/-- Reads a line that is not empty, without its end. -/
def readLine (fuel : Nat) (d : Draft) (cs : List Char) : Option (Draft × List Char) :=
  match cs with
  | '[' :: '[' :: rest => readHeader true d rest
  | '[' :: rest => readHeader false d rest
  | _ => do
    let (names, rest) ← readKey maxKeyParts cs
    match rest with
    | '=' :: rest =>
      let (value, rest) ← readValue 80 fuel (skipBlanks rest)
      some (← d.add names value, rest)
    | _ => none

def readLines : Nat → Draft → List Char → Option Draft
  | 0, _, _ => none
  | fuel + 1, d, cs => do
    match ← skipTrivia false cs with
    | [] => some d
    | cs =>
      let (d, rest) ← readLine (2 * cs.length + 2) d cs
      readLines fuel d (← endLine rest)

def dropMark : List Char → List Char
  | c :: cs => if c = '\ufeff' then cs else c :: cs
  | [] => []

def read? (text : String) : Option (List (String × Toml)) := do
  let cs := dropMark text.toList
  let draft ← readLines (cs.length + 1) {} cs
  some (entriesToToml draft.entries)

end Quiesce.Toml
