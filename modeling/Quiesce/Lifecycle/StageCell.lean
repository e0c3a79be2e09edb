import Quiesce.Lifecycle.Stage

/-!
The one place that holds a daemon's stage. Every accepted move is published under a new version
number; a watcher remembers the version it saw last, and so knows whether anything was published
since. Refused moves leave cell and watchers as they are.
-/
namespace Quiesce

/-- The current stage, with the stage last published and the number of publications. -/
structure StageCell where
  stage : Stage := .starting
  published : Stage := .starting
  version : Nat := 0
  deriving DecidableEq

namespace StageCell

def publish (cell : StageCell) (next : Stage) : StageCell :=
  { stage := next, published := next, version := cell.version + 1 }

/-- Moves to `next` if that lies ahead, and tells which stage was left. -/
def advance (cell : StageCell) (next : Stage) : Option Stage × StageCell :=
  if cell.stage.canAdvanceTo next then (some cell.stage, cell.publish next) else (none, cell)

def transition (cell : StageCell) (start next : Stage) : Bool × StageCell :=
  if cell.stage = start ∧ start.canAdvanceTo next then (true, cell.publish next) else (false, cell)

def withStage {α : Type} (cell : StageCell) (choose : Stage → α) : α := choose cell.stage

/-- Decides by the current stage and makes the move decided on, if that lies ahead. -/
def update {α : Type} (cell : StageCell) (choose : Stage → Option Stage × α) : α × StageCell :=
  match choose cell.stage with
  | (some next, answer) =>
    (answer, if cell.stage.canAdvanceTo next then cell.publish next else cell)
  | (none, answer) => (answer, cell)

structure Watcher where
  seen : Nat
  deriving DecidableEq

/-- A new watcher counts the current publication as seen. -/
def subscribe (cell : StageCell) : Watcher := ⟨cell.version⟩

def Watcher.changed (watcher : Watcher) (cell : StageCell) : Bool :=
  watcher.seen != cell.version

def Watcher.look (watcher : Watcher) (cell : StageCell) : (Bool × Stage) × Watcher :=
  ((watcher.changed cell, cell.published), ⟨cell.version⟩)

end StageCell

end Quiesce
