import Mathlib.Data.List.TakeWhile
import Quiesce.Proofs.Text.Words
import Quiesce.Trial.Observation

/-!
What a supervisor makes of output that a daemon's libraries and children write between its status
lines. Lines of theirs that are text make no difference, wherever they stand; but a line that is no
text ends the reading, and hides all status lines behind it.
-/
namespace Quiesce.Trial.Observation

/-- What a line says, if it is a status line. -/
def statusOf? (line : List UInt8) : Option StatusLine :=
  (lineText? line).bind fun text => (StatusLine.read text).toOption

def isText (line : List UInt8) : Bool := (lineText? line).isSome

/-- A line of somebody else, which is text all the same. -/
def isForeign (line : List UInt8) : Bool := isText line && (statusOf? line).isNone

def statuses (lines : List (List UInt8)) : List StatusLine := lines.filterMap statusOf?

/-! ### What is kept of status lines -/

def readyFacts? : StatusLine → Option (UInt32 × Option String)
  | .ready pid control => some (pid, control)
  | _ => none

def stopFacts? : StatusLine → Option (String × Int32)
  | .stopped reason code => some (reason, code)
  | _ => none

theorem record_eq (o : Observation) (line : StatusLine) :
    o.record line = {
      ready := (readyFacts? line).or o.ready
      lastStage := some line.impliedStage
      stopped := (stopFacts? line).or o.stopped } := by
  cases line <;> rfl

/-- Of each kind of status line the last one counts, and the last of all for the stage. -/
theorem foldl_record (told : List StatusLine) (o : Observation) :
    told.foldl record o = {
      ready := (told.filterMap readyFacts?).getLast?.or o.ready
      lastStage := (told.getLast?.map StatusLine.impliedStage).or o.lastStage
      stopped := (told.filterMap stopFacts?).getLast?.or o.stopped } := by
  have last {α : Type} (facts : Option α) (old : Option α) (later : List α) :
      later.getLast?.or (facts.or old) = (facts.toList ++ later).getLast?.or old := by
    cases facts <;> cases latest : later.getLast? <;> simp [List.getLast?_cons, latest]
  induction told generalizing o with
  | nil => rfl
  | cons line told ih =>
      have ready := last (readyFacts? line) o.ready (told.filterMap readyFacts?)
      have stopped := last (stopFacts? line) o.stopped (told.filterMap stopFacts?)
      have stage : (told.getLast?.map StatusLine.impliedStage).or (some line.impliedStage) =
          ((line :: told).getLast?.map StatusLine.impliedStage).or o.lastStage := by
        cases latest : told.getLast? <;> simp [List.getLast?_cons, latest]
      rw [List.foldl_cons, ih, record_eq, ready, stopped, stage, List.filterMap_cons,
        List.filterMap_cons]
      cases line <;> rfl

/-! ### Reading -/

/-- The lines that are read are those before the first one that is no text. -/
theorem readLines_eq (o : Observation) (lines : List (List UInt8)) :
    o.readLines lines = (statuses (lines.takeWhile isText)).foldl record o := by
  induction lines generalizing o with
  | nil => rfl
  | cons line lines ih =>
      cases text : lineText? line with
      | none => simp [readLines, statuses, isText, text]
      | some content =>
          cases read : StatusLine.read content with
          | ok status =>
              have said : statusOf? line = some status := by
                simp [statusOf?, text, read, Except.toOption]
              simp [readLines, statuses, isText, text, read, said, ih]
          | error fault =>
              have silent : statusOf? line = none := by
                simp [statusOf?, text, read, Except.toOption]
              simp [readLines, statuses, isText, text, read, silent, ih]

/-- Foreign lines can be left out before reading. -/
theorem statuses_takeWhile (lines : List (List UInt8)) :
    statuses (lines.takeWhile isText) =
      statuses ((lines.filter (!isForeign ·)).takeWhile isText) := by
  induction lines with
  | nil => rfl
  | cons line lines ih =>
      cases text : isText line with
      | false => simp [isForeign, text]
      | true =>
          cases said : statusOf? line with
          | none => simpa [statuses, isForeign, text, said] using ih
          | some status => simpa [statuses, isForeign, text, said] using ih

/-- Behind a line that is no text nothing is read. -/
theorem takeWhile_append_cons {line : List UInt8} (unreadable : isText line = false)
    (before after : List (List UInt8)) :
    (before ++ line :: after).takeWhile isText = before.takeWhile isText := by
  rw [List.takeWhile_append, List.takeWhile_cons_of_neg (by simp [unreadable]), List.append_nil]
  split
  · rename_i all
    exact ((List.takeWhile_prefix isText).eq_of_length all).symm
  · rfl

/-! ### The lines of an output -/

/-- Whether an output, or a part of it, ends where a line does. -/
def EndsLine (bytes : List UInt8) : Prop := bytes = [] ∨ ∃ before, bytes = before ++ [10]

/-- The lines before the end of one, and those after it. -/
theorem splitLines_append_cons (ended : Bool) (before after : List UInt8) :
    splitLines ended (before ++ 10 :: after) =
      (Text.splitWhen (· = 10) before).map (Text.dropLastIf 13) ++ splitLines ended after := by
  have parted : Text.splitWhen (· = (10 : UInt8)) (before ++ 10 :: after) =
      Text.splitWhen (· = 10) before ++ Text.splitWhen (· = 10) after :=
    Text.splitWhen_append_cons rfl before after
  simp only [splitLines, parted]
  rcases List.eq_nil_or_concat (Text.splitWhen (· = (10 : UInt8)) after) with
    none | ⟨init, last, pieces⟩
  · exact absurd none (Text.splitWhen_ne_nil after)
  · rw [pieces, List.concat_eq_append, ← List.append_assoc, List.dropLast_concat,
      List.getLast?_concat, List.dropLast_concat, List.getLast?_concat, List.map_append]
    cases ended <;> cases last <;> simp

theorem splitLines_append {before : List UInt8} (whole : EndsLine before) (ended : Bool)
    (after : List UInt8) :
    splitLines ended (before ++ after) = splitLines ended before ++ splitLines ended after := by
  have nothing : splitLines ended [] = [] := by cases ended <;> rfl
  obtain rfl | ⟨before, rfl⟩ := whole
  · rw [nothing, List.nil_append, List.nil_append]
  · rw [List.append_assoc, List.singleton_append, splitLines_append_cons, splitLines_append_cons,
      nothing, List.append_nil]

/-- A line with its end; a carriage return before that belongs to the end. -/
theorem splitLines_line {line : List UInt8} (whole : 10 ∉ line) (ended : Bool) :
    splitLines ended (line ++ [10]) = [Text.dropLastIf 13 line] := by
  have single : Text.splitWhen (· = (10 : UInt8)) line = [line] := by
    refine Text.splitWhen_of_none fun b inside => decide_eq_false ?_
    rintro rfl
    exact whole inside
  have nothing : splitLines ended [] = [] := by cases ended <;> rfl
  rw [splitLines_append_cons, single, nothing]
  rfl

/-- A line put in between others. -/
theorem splitLines_insert {before line : List UInt8} (start : EndsLine before) (whole : 10 ∉ line)
    (ended : Bool) (after : List UInt8) :
    splitLines ended (before ++ line ++ 10 :: after) =
      splitLines ended before ++ Text.dropLastIf 13 line :: splitLines ended after := by
  have ends : EndsLine (before ++ line ++ [10]) := .inr ⟨_, rfl⟩
  rw [← List.singleton_append, ← List.append_assoc, splitLines_append ends, List.append_assoc,
    splitLines_append start, splitLines_line whole, List.append_assoc, List.singleton_append]

/-- What is learned from an output that has ended is what its status lines say, up to the first line
that is no text. Foreign lines that are text may be put in or left out anywhere; a line that is no
text hides whatever comes after it. -/
theorem ofOutput_foreign (bytes : List UInt8) :
    let lines := splitLines true bytes
    let told := statuses (lines.takeWhile isText)
    ofOutput true bytes = told.foldl record {} ∧
    ofOutput true bytes = {
      ready := (told.filterMap readyFacts?).getLast?
      lastStage := told.getLast?.map StatusLine.impliedStage
      stopped := (told.filterMap stopFacts?).getLast? } ∧
    statuses lines = told ++ statuses (lines.dropWhile isText) ∧
    ((∀ line ∈ lines, isText line = true) →
      ofOutput true bytes = (statuses lines).foldl record {}) ∧
    (∀ other, (splitLines true other).filter (!isForeign ·) = lines.filter (!isForeign ·) →
      ofOutput true other = ofOutput true bytes) ∧
    ∀ before line after, bytes = before ++ after → EndsLine before → 10 ∉ line →
      (isForeign (Text.dropLastIf 13 line) = true →
        ofOutput true (before ++ line ++ 10 :: after) = ofOutput true bytes) ∧
      (isText (Text.dropLastIf 13 line) = false →
        ofOutput true (before ++ line ++ 10 :: after) = ofOutput true before) := by
  intro lines told
  have learned (output : List UInt8) : ofOutput true output =
      (statuses ((splitLines true output).takeWhile isText)).foldl record {} := readLines_eq _ _
  have unforeign {one other : List (List UInt8)}
      (same : one.filter (!isForeign ·) = other.filter (!isForeign ·)) :
      statuses (one.takeWhile isText) = statuses (other.takeWhile isText) := by
    rw [statuses_takeWhile, same, ← statuses_takeWhile]
  refine ⟨learned bytes, ?_, ?_, ?_, ?_, ?_⟩
  · rw [learned, foldl_record]
    simp only [Option.or_none]
    rfl
  · have parted := List.takeWhile_append_dropWhile (p := isText) (l := lines)
    exact (congrArg statuses parted.symm).trans List.filterMap_append
  · intro text
    rw [learned, List.takeWhile_eq_self_iff.mpr text]
  · intro other same
    rw [learned, learned, unforeign same]
  · rintro before line after rfl start whole
    constructor
    · intro foreign
      have same : (splitLines true (before ++ line ++ 10 :: after)).filter (!isForeign ·) =
          (splitLines true (before ++ after)).filter (!isForeign ·) := by
        rw [splitLines_insert start whole, splitLines_append start]
        simp [foreign]
      rw [learned, learned, unforeign same]
    · intro unreadable
      rw [learned, learned, splitLines_insert start whole, takeWhile_append_cons unreadable]

/-- A line of a library between two status lines. -/
theorem ofOutput_foreign_of_noise :
    let before := "dvm: ready pid=5 control=none\n".toUTF8.toList
    let noise := "listening\r".toUTF8.toList
    let after := "dvm: state draining\n".toUTF8.toList
    isForeign (Text.dropLastIf 13 noise) = true ∧
      ofOutput true (before ++ noise ++ 10 :: after) =
        { ready := some (5, none), lastStage := some .draining } := by
  intro before noise after
  have foreign : isForeign (Text.dropLastIf 13 noise) = true := by decide +kernel
  have start : EndsLine before :=
    .inr ⟨"dvm: ready pid=5 control=none".toUTF8.toList, by decide +kernel⟩
  obtain ⟨_, _, _, _, _, put⟩ := ofOutput_foreign (before ++ after)
  refine ⟨foreign, ?_⟩
  rw [(put before noise after rfl start (by decide +kernel)).1 foreign]
  decide +kernel

/-- A ready line behind a byte that is no text: it is hidden. -/
theorem ofOutput_hides_status :
    let ready := "dvm: ready pid=5 control=none\n".toUTF8.toList
    statuses (splitLines true (0xFF :: 10 :: ready)) = [.ready 5 none] ∧
      ofOutput true (0xFF :: 10 :: ready) = {} ∧
      ofOutput true ready = { ready := some (5, none), lastStage := some .ready } := by
  decide +kernel

end Quiesce.Trial.Observation
