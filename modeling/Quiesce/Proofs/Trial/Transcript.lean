import Quiesce.Proofs.StatusLine.RoundTrip
import Quiesce.Proofs.Text.Bytes
import Quiesce.Trial.Programs

/-!
What a supervisor learns from a daemon is what the daemon wrote, line by line. No status line has
the end of a line in it, so that the bytes come apart where they were put together, and each line
comes back from its text.
-/
namespace Quiesce

open Text (isBlank)

namespace StatusLine

/-- The only white space in a line are the spaces between its words. -/
theorem eq_space_of_mem_render {s : StatusLine} (h : s.Readable) {c : Char}
    (hc : c ∈ s.render.toList) (blank : isBlank c = true) : c = ' ' := by
  rw [toList_render] at hc
  rcases List.mem_append.mp hc with mark | inside
  · have space : "dvm: ".toList.all (fun c => !isBlank c || c == ' ') = true := by decide
    simpa [blank] using List.all_eq_true.mp space c mark
  · rcases Text.of_mem_spaced inside with rfl | ⟨w, hw, hc⟩
    · rfl
    · rw [(isWord_of_mem_wordsOf h w hw).2 c hc] at blank
      cases blank

end StatusLine

namespace Trial

/-- A text that is a line of its own: neither of the characters that end one is in it. -/
def IsLine (text : String) : Prop := '\n' ∉ text.toList ∧ '\r' ∉ text.toList

theorem isLine_render {s : StatusLine} (h : s.Readable) : IsLine s.render := by
  refine ⟨fun inside => ?_, fun inside => ?_⟩
  · exact absurd (StatusLine.eq_space_of_mem_render h inside rfl) (by decide)
  · exact absurd (StatusLine.eq_space_of_mem_render h inside rfl) (by decide)

theorem lineBytes_eq (text : String) : lineBytes text = text.toUTF8.toList ++ [10] := by
  rw [lineBytes, Text.toList_toUTF8, Text.toList_toUTF8, String.toList_append, List.flatMap_append]
  rfl

namespace Observation

theorem splitWhen_lines {texts : List String} (h : ∀ text ∈ texts, IsLine text) :
    Text.splitWhen (· = 10) (texts.flatMap lineBytes) =
      texts.map (·.toUTF8.toList) ++ [[]] := by
  induction texts with
  | nil => rfl
  | cons text texts ih =>
      have plain : ∀ b ∈ text.toUTF8.toList, decide (b = 10) = false := by
        intro b hb
        refine decide_eq_false ?_
        rintro rfl
        exact (h text List.mem_cons_self).1 (Text.mem_of_mem_toUTF8 (by decide) hb)
      have rest := ih fun other ho => h other (List.mem_cons_of_mem text ho)
      rw [List.flatMap_cons, lineBytes_eq, List.append_assoc, List.singleton_append,
        Text.splitWhen_append plain (by decide), rest, List.map_cons, List.cons_append]

theorem splitLines_lines (ended : Bool) {texts : List String} (h : ∀ text ∈ texts, IsLine text) :
    splitLines ended (texts.flatMap lineBytes) = texts.map (·.toUTF8.toList) := by
  have whole : ∀ text ∈ texts, Text.dropLastIf 13 text.toUTF8.toList = text.toUTF8.toList := by
    intro text ht
    refine if_neg fun last => (h text ht).2 ?_
    exact Text.mem_of_mem_toUTF8 (by decide) (List.mem_of_getLast? (beq_iff_eq.mp last))
  simp only [splitLines, splitWhen_lines h, List.dropLast_concat, List.getLast?_concat,
    List.isEmpty_nil, Bool.not_true, Bool.and_false, Bool.false_eq_true, ite_false, List.map_map]
  exact List.map_congr_left whole

theorem readLines_render {lines : List StatusLine} (h : ∀ s ∈ lines, s.Readable)
    (o : Observation) :
    o.readLines (lines.map (·.render.toUTF8.toList)) = lines.foldl record o := by
  induction lines generalizing o with
  | nil => rfl
  | cons s lines ih =>
      have text : lineText? s.render.toUTF8.toList = some s.render := Text.fromUTF8?_toUTF8 _
      have read := StatusLine.read_render (h s List.mem_cons_self)
      have rest := ih (fun t ht => h t (List.mem_cons_of_mem s ht)) (o.record s)
      simp only [List.map_cons, readLines, text, read, rest, List.foldl_cons]

/-- Each line that a daemon wrote is read as it was meant, whether its output has ended or not. -/
theorem ofOutput_render (ended : Bool) {lines : List StatusLine} (h : ∀ s ∈ lines, s.Readable) :
    ofOutput ended (lines.flatMap fun s => lineBytes s.render) = lines.foldl record {} := by
  have texts : ∀ text ∈ lines.map StatusLine.render, IsLine text := by
    intro text ht
    obtain ⟨s, hs, rfl⟩ := List.mem_map.mp ht
    exact isLine_render (h s hs)
  have split := splitLines_lines ended texts
  rw [List.flatMap_map] at split
  rw [ofOutput, split, List.map_map]
  exact readLines_render h {}

end Observation

end Trial

end Quiesce
