import Quiesce.Proofs.Text.Numerals
import Quiesce.Cli.Dvm

/-!
Options that are written out in full, one after the other, are read as they stand: each adds itself
to what was given before. Where an option may be repeated, the last value is the one that counts.
-/
namespace Quiesce.Cli

theorem Given.value?_append_same (given : Given) (name : String) (v : Option String) :
    value? (given ++ [(name, v)]) name = v := by
  simp [value?]

namespace Grammar

variable {g : Grammar} {fuel : Nat} {given : Given} {c : Choice} {name v : String}
  {rest : List String}

theorem readFrom_long (named : name.toList ≠ []) (plain : '=' ∉ name.toList) :
    g.readFrom (fuel + 1) given (("--" ++ name) :: rest) =
      (g.takeLong given name none rest).bind fun (given, rest) => g.readFrom fuel given rest := by
  have dashes : ("--" ++ name).toList = '-' :: '-' :: name.toList := by
    rw [String.toList_append]
    rfl
  have whole := Text.cutAt_of_not_mem plain
  have back : String.ofList name.toList = name := String.ofList_toList
  obtain ⟨first, more, letters⟩ := List.exists_cons_of_ne_nil named
  rw [letters] at whole back
  simp only [readFrom, dashes, letters, whole, back]
  rfl

/-- An option without a value. -/
theorem readFrom_flag (named : name.toList ≠ []) (plain : '=' ∉ name.toList)
    (repeatable : g.repeatable = true) (found : g.choices.find? (·.long == name) = some c)
    (flag : c.accepts = none) :
    g.readFrom (fuel + 1) given (("--" ++ name) :: rest) =
      g.readFrom fuel (given ++ [(name, none)]) rest := by
  have long : c.long = name := by simpa using List.find?_some found
  have added : g.add given c none = .ok (given ++ [(name, none)]) := by
    simp [add, repeatable, flag, long]
  have taken : g.takeLong given name none rest = .ok (given ++ [(name, none)], rest) := by
    simp only [takeLong, found, flag, added, Option.isSome_none, Bool.false_and]
    rfl
  rw [readFrom_long named plain, taken]
  rfl

/-- An option with its value in the next argument. -/
theorem readFrom_value (named : name.toList ≠ []) (plain : '=' ∉ name.toList)
    (repeatable : g.repeatable = true) (found : g.choices.find? (·.long == name) = some c)
    {accepts : String → Bool} (takes : c.accepts = some accepts) (accepted : accepts v = true)
    (value : v.startsWith "-" = false) :
    g.readFrom (fuel + 1) given (("--" ++ name) :: v :: rest) =
      g.readFrom fuel (given ++ [(name, some v)]) rest := by
  have long : c.long = name := by simpa using List.find?_some found
  have added : g.add given c (some v) = .ok (given ++ [(name, some v)]) := by
    simp [add, repeatable, takes, accepted, long]
  have next : nextValue (v :: rest) = .ok (v, rest) := by simp [nextValue, value]
  have taken : g.takeLong given name none (v :: rest) = .ok (given ++ [(name, some v)], rest) := by
    simp only [takeLong, found, takes, next, Option.isSome_some, Option.isNone_none, Bool.and_true]
    exact congrArg (Except.map (·, rest)) added
  rw [readFrom_long named plain, taken]
  rfl

end Grammar

end Quiesce.Cli
