import Quiesce.Proofs.Lifecycle.CoreChange

/-!
Watchers of a daemon's stage. A watcher is told of a change by the number of publications, not by
the stage. The two come to the same because every publication leads to a later stage: as long as
nothing new was published the stage is the one that was seen last, and otherwise it is a later one.
-/
namespace Quiesce.StageCell

/-- What can be asked of a cell, by anybody who holds it. -/
inductive Operation : Type 1 where
  | advance (next : Stage)
  | transition (start next : Stage)
  | update {α : Type} (choose : Stage → Option Stage × α)
  | withStage {α : Type} (choose : Stage → α)

namespace Operation

def apply (cell : StageCell) : Operation → StageCell
  | advance next => (cell.advance next).2
  | transition start next => (cell.transition start next).2
  | update choose => (cell.update choose).2
  | withStage _ => cell

/-- Whether an operation moves nothing. The first two say so in their answer; of an update it is
the move decided on that tells. -/
def refused (cell : StageCell) : Operation → Bool
  | advance next => (cell.advance next).1.isNone
  | transition start next => !(cell.transition start next).1
  | update choose => !(choose cell.stage).1.any cell.stage.canAdvanceTo
  | withStage _ => true

theorem apply_of_refused {cell : StageCell} {op : Operation} (h : op.refused cell = true) :
    op.apply cell = cell := by
  cases op with
  | advance next =>
      simp only [refused, apply, StageCell.advance] at h ⊢
      split <;> simp_all
  | transition start next =>
      simp only [refused, apply, StageCell.transition] at h ⊢
      split <;> simp_all
  | update choose =>
      simp only [refused, apply, StageCell.update] at h ⊢
      split <;> simp_all
  | withStage choose => rfl

/-- An operation that is not refused publishes a later stage. -/
theorem apply_of_granted {cell : StageCell} {op : Operation} (h : op.refused cell = false) :
    ∃ next, cell.stage.rank < next.rank ∧ op.apply cell = cell.publish next := by
  cases op with
  | advance next =>
      simp only [refused, apply, StageCell.advance] at h ⊢
      split at h
      · rename_i ahead
        exact ⟨next, of_decide_eq_true ahead, by simp [ahead]⟩
      · simp at h
  | transition start next =>
      simp only [refused, apply, StageCell.transition] at h ⊢
      split at h
      · rename_i ahead
        exact ⟨next, ahead.1 ▸ of_decide_eq_true ahead.2, by simp [ahead]⟩
      · simp at h
  | update choose =>
      rcases chosen : choose cell.stage with ⟨move, answer⟩
      cases move with
      | none => simp [refused, chosen] at h
      | some next =>
          have ahead : cell.stage.canAdvanceTo next = true := by simpa [refused, chosen] using h
          refine ⟨next, of_decide_eq_true ahead, ?_⟩
          rw [apply, cell.update_move choose next answer chosen ahead]
  | withStage choose => simp [refused] at h

end Operation

/-- A watcher with the stages that it has been shown, the last one apart. What is published as it
subscribes is the first. -/
structure Onlooker where
  watcher : Watcher
  last : Stage
  earlier : List Stage := []

namespace Onlooker

/-- All stages shown so far, the last one first. -/
def seen (o : Onlooker) : List Stage := o.last :: o.earlier

def look (o : Onlooker) (cell : StageCell) : Onlooker where
  watcher := (o.watcher.look cell).2
  last := (o.watcher.look cell).1.2
  earlier := o.seen

/-- Either nothing was published since the last look, and the stage is still the one seen then, or
something was, and the stage is a later one. -/
structure Abreast (cell : StageCell) (o : Onlooker) : Prop where
  current : o.watcher.seen = cell.version ∧ o.last = cell.stage ∨
    o.watcher.seen < cell.version ∧ o.last.rank < cell.stage.rank
  ordered : o.seen.Pairwise fun later earlier => earlier.rank ≤ later.rank

variable {cell : StageCell} {o : Onlooker}

theorem Abreast.rank_le (h : o.Abreast cell) : o.last.rank ≤ cell.stage.rank := by
  rcases h.current with ⟨_, same⟩ | ⟨_, behind⟩
  · exact Nat.le_of_eq (congrArg Stage.rank same)
  · exact Nat.le_of_lt behind

theorem Abreast.rank_le_of_mem (h : o.Abreast cell) {s : Stage} (shown : s ∈ o.seen) :
    s.rank ≤ cell.stage.rank := by
  refine Nat.le_trans ?_ h.rank_le
  rcases List.mem_cons.mp shown with rfl | before
  · exact Nat.le_refl _
  · exact (List.pairwise_cons.mp h.ordered).1 s before

theorem Abreast.publish (h : o.Abreast cell) {next : Stage} (ahead : cell.stage.rank < next.rank) :
    o.Abreast (cell.publish next) := by
  refine ⟨.inr ⟨?_, Nat.lt_of_le_of_lt h.rank_le ahead⟩, h.ordered⟩
  change o.watcher.seen < cell.version + 1
  rcases h.current with ⟨same, _⟩ | ⟨behind, _⟩
  · rw [same]
    exact Nat.lt_succ_self _
  · exact Nat.lt_succ_of_lt behind

theorem Abreast.look (published : cell.published = cell.stage) (h : o.Abreast cell) :
    (o.look cell).Abreast cell := by
  refine ⟨.inl ⟨rfl, published⟩, List.pairwise_cons.mpr ⟨?_, h.ordered⟩⟩
  intro s shown
  change s.rank ≤ cell.published.rank
  rw [published]
  exact h.rank_le_of_mem shown

theorem Abreast.changed_iff (h : o.Abreast cell) :
    o.watcher.changed cell = true ↔ o.last ≠ cell.stage := by
  simp only [Watcher.changed, bne_iff_ne]
  rcases h.current with ⟨sameVersion, same⟩ | ⟨behind, earlier⟩
  · simp [sameVersion, same]
  · refine iff_of_true (Nat.ne_of_lt behind) ?_
    intro same
    rw [same] at earlier
    exact Nat.lt_irrefl _ earlier

end Onlooker

/-- A cell and everybody who watches it, in the order in which they subscribed. -/
structure Audience where
  cell : StageCell := {}
  onlookers : List Onlooker := []

/-- What may happen next: an operation on the cell, or a watcher comes or looks. -/
inductive Event : Type 1 where
  | operate (op : Operation)
  | subscribe
  | look (onlooker : Nat)

namespace Audience

def step (a : Audience) : Event → Audience
  | .operate op => { a with cell := op.apply a.cell }
  | .subscribe => { a with
      onlookers := a.onlookers ++ [{ watcher := a.cell.subscribe, last := a.cell.published }] }
  | .look i => { a with onlookers := a.onlookers.modify i (·.look a.cell) }

def run (a : Audience) (events : List Event) : Audience := events.foldl step a

structure Sound (a : Audience) : Prop where
  published : a.cell.published = a.cell.stage
  abreast : ∀ o ∈ a.onlookers, o.Abreast a.cell

theorem Sound.operate {a : Audience} (h : a.Sound) (op : Operation) :
    (a.step (.operate op)).Sound := by
  cases answer : op.refused a.cell with
  | true =>
      rw [step, Operation.apply_of_refused answer]
      exact h
  | false =>
      obtain ⟨next, ahead, moved⟩ := Operation.apply_of_granted answer
      rw [step, moved]
      exact ⟨rfl, fun o watches => (h.abreast o watches).publish ahead⟩

theorem Sound.subscribe {a : Audience} (h : a.Sound) : (a.step .subscribe).Sound := by
  refine ⟨h.published, ?_⟩
  intro o watches
  rcases List.mem_append.mp watches with before | new
  · exact h.abreast o before
  · cases List.mem_singleton.mp new
    exact ⟨.inl ⟨rfl, h.published⟩, List.pairwise_singleton _ _⟩

theorem Sound.look {a : Audience} (h : a.Sound) (i : Nat) : (a.step (.look i)).Sound := by
  refine ⟨h.published, ?_⟩
  intro o watches
  obtain ⟨j, inside, rfl⟩ := List.mem_iff_getElem.mp watches
  have before : j < a.onlookers.length := by simpa [step] using inside
  have there := h.abreast _ (List.getElem_mem before)
  simp only [step, List.getElem_modify]
  split
  · exact there.look h.published
  · exact there

theorem Sound.step {a : Audience} (h : a.Sound) : ∀ event : Event, (a.step event).Sound
  | .operate op => h.operate op
  | .subscribe => h.subscribe
  | .look i => h.look i

theorem Sound.run {a : Audience} (h : a.Sound) (events : List Event) : (a.run events).Sound := by
  induction events generalizing a with
  | nil => exact h
  | cons event events ih => exact ih (h.step event)

theorem sound_fresh : ({} : Audience).Sound := ⟨rfl, by simp⟩

end Audience

/-- After any operations on a new cell, among any number of watchers who subscribed and looked in
between: an operation that is refused leaves cell and watchers alone, and any other one leads to a
later stage and is news to every watcher. A watcher has news exactly if the stage is not the one it
was shown last; what it was shown is in order; and what a look shows it is the stage. -/
theorem watchers_keep_abreast (events : List Event) :
    let a := ({} : Audience).run events
    (∀ op : Operation,
      let after := op.apply a.cell
      (op.refused a.cell = true → after = a.cell ∧
        ∀ o ∈ a.onlookers, o.watcher.changed after = o.watcher.changed a.cell) ∧
      (op.refused a.cell = false → a.cell.stage.rank < after.stage.rank ∧
        ∀ o ∈ a.onlookers, o.watcher.changed after = true)) ∧
    ∀ o ∈ a.onlookers,
      (o.watcher.changed a.cell = true ↔ o.last ≠ a.cell.stage) ∧
      (o.seen.Pairwise fun later earlier => earlier.rank ≤ later.rank) ∧
      (∀ s ∈ o.seen, s.rank ≤ a.cell.stage.rank) ∧
      (o.look a.cell).seen = a.cell.stage :: o.seen ∧
      (o.look a.cell).watcher.changed a.cell = false := by
  intro a
  have sound : a.Sound := Audience.sound_fresh.run events
  refine ⟨fun op => ⟨?_, ?_⟩, ?_⟩
  · intro refused
    rw [Operation.apply_of_refused refused]
    exact ⟨rfl, fun _ _ => rfl⟩
  · intro granted
    obtain ⟨next, ahead, moved⟩ := Operation.apply_of_granted granted
    rw [moved]
    refine ⟨ahead, fun o watches => ?_⟩
    have there := sound.abreast o watches
    -- Whatever a watcher was shown is not beyond the stage that was left.
    rw [(there.publish ahead).changed_iff]
    intro same
    exact absurd there.rank_le (Nat.not_le_of_lt (same ▸ ahead))
  · intro o watches
    have there := sound.abreast o watches
    refine ⟨there.changed_iff, there.ordered, fun s => there.rank_le_of_mem, ?_, ?_⟩
    · exact congrArg (· :: o.seen) sound.published
    · simp [Onlooker.look, Watcher.look, Watcher.changed]

/-- The first of two watchers missed the last of three moves, and the second one, who came after the
first move, did not. An operation that would lead back was refused in between. -/
theorem watchers_keep_abreast_of_two : ∃ (events : List Event) (behind abreast : Onlooker),
    let a := ({} : Audience).run events
    a.onlookers = [behind, abreast] ∧ a.cell.stage = .draining ∧
    behind.seen = [.ready, .starting] ∧ behind.watcher.changed a.cell = true ∧
    (behind.look a.cell).seen = [.draining, .ready, .starting] ∧
    abreast.seen = [.draining, .ready] ∧ abreast.watcher.changed a.cell = false := by
  let events : List Event :=
    [.subscribe, .operate (.transition .starting .ready), .subscribe, .look 0,
      .operate (.advance .starting), .operate (.update fun stage => (some .draining, stage)),
      .look 1]
  let behind : Onlooker := { watcher := ⟨1⟩, last := .ready, earlier := [.starting] }
  let abreast : Onlooker := { watcher := ⟨2⟩, last := .draining, earlier := [.ready] }
  have watchers : (({} : Audience).run events).onlookers = [behind, abreast] := rfl
  have stage : (({} : Audience).run events).cell.stage = .draining := rfl
  obtain ⟨_, told⟩ := watchers_keep_abreast events
  obtain ⟨news, _, _, shown, _⟩ := told behind (by simp [watchers])
  obtain ⟨noNews, _⟩ := told abreast (by simp [watchers])
  refine ⟨events, behind, abreast, watchers, stage, rfl, ?_, ?_, rfl, ?_⟩
  · rw [news, stage]
    decide
  · rw [shown, stage]
    rfl
  · rw [← Bool.not_eq_true, noNews, stage]
    decide

end Quiesce.StageCell
