import ShaderCost.Files.Tree

/-!
Work on a file tree, one action after another: what each does to the tree, and what a sequence that
succeeds tells of its parts.
-/

namespace ShaderCost

theorem filing_bind {ε α β : Type} (action : Filing ε α) (next : α → Filing ε β)
    (tree : FileTree) : (action >>= next) tree = match action tree with
      | (.ok value, changed) => next value changed
      | (.error error, changed) => (.error error, changed) := by
  have unfolded : (action >>= next) tree =
      ExceptT.bindCont next (action tree).1 (action tree).2 := rfl
  rw [unfolded]
  cases action tree with
  | mk result changed => cases result <;> rfl

theorem filing_adapt {ε ε' α : Type} (explain : ε → ε') (action : Filing ε α) (tree : FileTree) :
    (ExceptT.adapt explain action : Filing ε' α) tree = match action tree with
      | (.ok value, changed) => (.ok value, changed)
      | (.error error, changed) => (.error (explain error), changed) := by
  have unfolded : (ExceptT.adapt explain action : Filing ε' α) tree =
      ((action tree).1.mapError explain, (action tree).2) := rfl
  rw [unfolded]
  cases action tree with
  | mk result changed => cases result <;> rfl

theorem filing_directories {ε : Type} (explain : FileError → ε) (path : Text) (tree : FileTree) :
    (Filing.makeDirectories explain path : Filing ε Unit) tree = match tree.makeDirectories path with
      | (.ok (), made) => (.ok (), made)
      | (.error error, made) => (.error (explain error), made) := by
  rw [Filing.makeDirectories]
  cases tree.makeDirectories path with
  | mk result made => cases result <;> rfl

theorem filing_write {ε : Type} (explain : FileError → ε) (path text : Text) (tree : FileTree) :
    (Filing.writeText explain path text : Filing ε Unit) tree = match tree.writeText path text with
      | .ok changed => (.ok (), changed)
      | .error error => (.error (explain error), tree) :=
  rfl

theorem filing_lift {ε α : Type} (action : StateM FileTree α) (tree : FileTree) :
    (liftM action : Filing ε α) tree = (.ok (action tree).1, (action tree).2) :=
  rfl

section Succeeding

variable {ε : Type} {tree after : FileTree}

theorem filing_passed {α : Type} {action : Filing ε α} (passed : (action tree).1.isOk = true) :
    ∃ value after, action tree = (.ok value, after) := by
  cases done : action tree with
  | mk result after =>
      rw [done] at passed
      cases result with
      | ok value => exact ⟨value, after, rfl⟩
      | error error => cases passed

theorem filing_bind_ok {α β : Type} {action : Filing ε α} {next : α → Filing ε β} {result : β}
    (done : (action >>= next) tree = (.ok result, after)) :
    ∃ value between, action tree = (.ok value, between) ∧
      next value between = (.ok result, after) := by
  rw [filing_bind] at done
  cases first : action tree with
  | mk outcome between =>
      rw [first] at done
      cases outcome with
      | error error => cases done
      | ok value => exact ⟨value, between, rfl, done⟩

theorem filing_adapt_ok {ε' α : Type} {explain : ε → ε'} {action : Filing ε α} {result : α}
    (done : (ExceptT.adapt explain action : Filing ε' α) tree = (.ok result, after)) :
    action tree = (.ok result, after) := by
  rw [filing_adapt] at done
  cases first : action tree with
  | mk outcome between =>
      rw [first] at done
      cases outcome with
      | error error => cases done
      | ok value =>
          cases done
          rfl

theorem filing_write_ok {explain : FileError → ε} {path text : Text}
    (done : (Filing.writeText explain path text : Filing ε Unit) tree = (.ok (), after)) :
    tree.writeText path text = .ok after := by
  rw [filing_write] at done
  cases written : tree.writeText path text with
  | error error =>
      rw [written] at done
      cases done
  | ok changed =>
      rw [written] at done
      exact congrArg Except.ok (Prod.mk.inj done).2

end Succeeding

end ShaderCost
