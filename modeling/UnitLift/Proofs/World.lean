import Mathlib.Tactic.SplitIfs
import UnitLift.World

namespace UnitLift

namespace Path

private theorem descend_nil (currentDirectory : String) (follow : Walk → List Char → Walk)
    (components : List (List Char)) (walk : Walk) :
    (descend currentDirectory [] follow walk components).met = walk.met ∧
      (descend currentDirectory [] follow walk components).complete = walk.complete := by
  induction components generalizing walk with
  | nil => exact ⟨rfl, rfl⟩
  | cons component rest ih =>
    rw [descend]
    split_ifs
    · exact ⟨rfl, rfl⟩
    · exact ih walk
    · exact ih { walk with path := ascend walk.path }
    · exact ih { walk with path := join walk.path (String.ofList component) }

/-- Without links a path leads to itself. -/
@[simp] theorem follow?_nil (currentDirectory path : String) :
    follow? currentDirectory [] path = some path := by
  have walked : (walkAlong currentDirectory [] path).met = [] ∧
      (walkAlong currentDirectory [] path).complete = true := by
    rw [walkAlong, followPath]
    split_ifs
    · exact descend_nil _ _ _ _
    · exact descend_nil _ _ _ _
  rw [follow?, walked.1, walked.2]
  rfl

end Path

namespace World

variable {world : World} {path : String}

theorem exists_write_error
    (barred : world.isWritable path = false) (text : String) :
    ∃ reason, world.write path text = .error reason := by
  rw [write]
  cases found : world.target? path with
  | none => exact ⟨_, rfl⟩
  | some target =>
    have listed : world.unwritable.contains target = true := by
      simpa [isWritable, found] using barred
    exact ⟨_, if_pos listed⟩

theorem exists_write_ok
    (writable : world.isWritable path = true) (text : String) :
    ∃ target, world.target? path = some target ∧ world.write path text = .ok { world with
      files := world.files.insert target (.ofText text)
      written := world.written ++ [(path, text)] } := by
  rw [isWritable, Option.any_eq_true] at writable
  obtain ⟨target, found, free⟩ := writable
  have unlisted : ¬ world.unwritable.contains target = true := by simpa using free
  refine ⟨target, found, ?_⟩
  rw [write, found]
  exact if_neg unlisted

end World

end UnitLift
