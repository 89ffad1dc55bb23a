import ShaderCost.Files.Tree
import ShaderCost.Proofs.Files.Path
import ShaderCost.Proofs.Keys

/-!
Walks in a tree of files while the tree grows. A file that is written or a directory that is
created stands where there was nothing, or a file; no walk that leads somewhere passes through
such a place, and so it leads to the same place afterwards.
-/

namespace ShaderCost

namespace Entries

theorem lookup_put_self (entries : Entries) (name : Text) (node : Node) :
    List.lookup name (entries.put name (some node)) = some node :=
  List.lookup_cons_self

theorem lookup_put_other (entries : Entries) {name other : Text} (apart : other ≠ name)
    (node : Node) : List.lookup other (entries.put name (some node)) = List.lookup other entries := by
  have skipped : (other == name) = false := by simpa using apart
  simp only [put, List.lookup_cons, skipped]
  exact lookup_filter_other apart entries

/-- What there is below a node. -/
def below (node : Option Node) (rest : Location) : Option Node :=
  match node with
  | some (.directory inner) => at? inner rest
  | some node => if rest.isEmpty then some node else none
  | none => none

theorem at_nil (entries : Entries) : entries.at? [] = some (.directory entries) := rfl

theorem at_cons (entries : Entries) (name : Text) (rest : Location) :
    entries.at? (name :: rest) = below (entries.lookup name) rest := by
  rw [at?]
  cases entries.lookup name with
  | none => rfl
  | some node => cases node <;> rfl

theorem below_nil (node : Option Node) : below node [] = node := by
  cases node with
  | none => rfl
  | some node => cases node <;> rfl

theorem at_single (entries : Entries) (name : Text) :
    entries.at? [name] = entries.lookup name := by
  rw [at_cons, below_nil]

theorem at_append (entries : Entries) (location rest : Location) :
    entries.at? (location ++ rest) = below (entries.at? location) rest := by
  induction location generalizing entries with
  | nil => rfl
  | cons name location induction =>
      rw [List.cons_append, at_cons, at_cons]
      cases entries.lookup name with
      | none => rfl
      | some node =>
          cases node with
          | directory inner => exact induction inner
          | file | link | null | stream | program => cases location <;> cases rest <;> rfl

theorem at_child {entries inner : Entries} {location : Location}
    (found : entries.at? location = some (.directory inner)) (name : Text) :
    entries.at? (location ++ [name]) = inner.lookup name := by
  rw [at_append, found, below, at_single]

/-- What leads to a directory goes on from a directory. -/
theorem at_cons_directory {entries inner : Entries} {name : Text} {rest : Location}
    (found : entries.at? (name :: rest) = some (.directory inner)) :
    ∃ above : Entries, entries.lookup name = some (.directory above) ∧
      above.at? rest = some (.directory inner) := by
  rw [at_cons] at found
  cases here : entries.lookup name with
  | none => simp [here, below] at found
  | some node =>
      rw [here] at found
      cases node with
      | directory above => exact ⟨above, rfl, found⟩
      | file | link | null | stream | program => cases rest <;> simp [below] at found

theorem put_at_cons {entries above : Entries} {name : Text}
    (found : entries.lookup name = some (.directory above)) {rest : Location} (more : rest ≠ [])
    (node : Option Node) :
    entries.putAt (name :: rest) node =
      entries.put name (some (.directory (above.putAt rest node))) := by
  cases rest with
  | nil => exact absurd rfl more
  | cons next rest => rw [putAt, found]; exact List.cons_ne_nil _ _

/-- A node that is put into a directory changes the entries of that directory. -/
theorem at_put_at {entries inner : Entries} {location : Location}
    (found : entries.at? location = some (.directory inner)) (name : Text) (node : Node) :
    (entries.putAt (location ++ [name]) (some node)).at? location =
      some (.directory (inner.put name (some node))) := by
  induction location generalizing entries with
  | nil =>
      rw [at_nil, Option.some.injEq, Node.directory.injEq] at found
      subst found
      rfl
  | cons next location induction =>
      obtain ⟨above, here, rest⟩ := at_cons_directory found
      rw [List.cons_append, put_at_cons here (by simp), at_cons, lookup_put_self]
      exact induction rest

theorem at_put_at_self {entries inner : Entries} {location : Location}
    (found : entries.at? location = some (.directory inner)) (name : Text) (node : Node) :
    (entries.putAt (location ++ [name]) (some node)).at? (location ++ [name]) = some node := by
  rw [at_child (at_put_at found name node), lookup_put_self]

theorem at_put_at_other {entries inner : Entries} {location : Location}
    (found : entries.at? location = some (.directory inner)) {name other : Text}
    (apart : other ≠ name) (node : Node) :
    (entries.putAt (location ++ [name]) (some node)).at? (location ++ [other]) =
      entries.at? (location ++ [other]) := by
  rw [at_child (at_put_at found name node), lookup_put_other inner apart, at_child found]

/-- Whether later entries keep the directories and the links of earlier ones, and add no link. -/
structure Grows (before after : Entries) : Prop where
  directory : ∀ location inner, before.at? location = some (.directory inner) →
    ∃ later, after.at? location = some (.directory later)
  link : ∀ location path, after.at? location = some (.link path) ↔
    before.at? location = some (.link path)

theorem grows_refl (entries : Entries) : Grows entries entries where
  directory := fun _ inner found => ⟨inner, found⟩
  link := fun _ _ => Iff.rfl

theorem Grows.trans {first second third : Entries} (early : Grows first second)
    (late : Grows second third) : Grows first third where
  directory := by
    intro location inner found
    obtain ⟨later, there⟩ := early.directory location inner found
    exact late.directory location later there
  link := fun location path => (late.link location path).trans (early.link location path)

/-- What may come to stand in a tree: a file, or an empty directory. -/
inductive Fresh : Node → Prop
  | file (content : Octets) (executable : Bool) : Fresh (.file content executable)
  | directory : Fresh (.directory [])

/-- What may stand where it comes to stand: nothing, or another file. -/
inductive Replaceable : Option Node → Prop
  | missing : Replaceable none
  | file (content : Octets) (executable : Bool) : Replaceable (some (.file content executable))

theorem below_replaceable {node : Option Node} (replaceable : Replaceable node) (rest : Location) :
    (∀ inner, below node rest ≠ some (.directory inner)) ∧
      ∀ path, below node rest ≠ some (.link path) := by
  cases replaceable <;> cases rest <;> simp [below]

theorem below_fresh {node : Node} (fresh : Fresh node) (rest : Location) (path : Text) :
    below (some node) rest ≠ some (.link path) := by
  cases fresh with
  | file content executable => cases rest <;> simp [below]
  | directory =>
      cases rest with
      | nil => simp [below, at_nil]
      | cons name rest => simp [below, at_cons]

theorem grows_put_at {entries inner : Entries} {location : Location}
    (found : entries.at? location = some (.directory inner)) {name : Text}
    (replaceable : Replaceable (inner.lookup name)) {node : Node} (fresh : Fresh node) :
    Grows entries (entries.putAt (location ++ [name]) (some node)) := by
  induction location generalizing entries with
  | nil =>
      rw [at_nil, Option.some.injEq, Node.directory.injEq] at found
      subst found
      have here := below_replaceable replaceable
      constructor
      · intro place inside reached
        cases place with
        | nil => exact ⟨_, at_nil _⟩
        | cons next rest =>
            rw [at_cons] at reached
            by_cases same : next = name
            · subst same
              exact absurd reached ((here rest).1 inside)
            · refine ⟨inside, ?_⟩
              rw [List.nil_append, putAt, at_cons, lookup_put_other entries same]
              exact reached
      · intro place path
        cases place with
        | nil => simp [at_nil]
        | cons next rest =>
            rw [List.nil_append, putAt, at_cons, at_cons]
            by_cases same : next = name
            · subst same
              rw [lookup_put_self]
              exact ⟨fun reached => absurd reached (below_fresh fresh rest path),
                fun reached => absurd reached ((here rest).2 path)⟩
            · rw [lookup_put_other entries same]
  | cons next location induction =>
      obtain ⟨above, here, rest⟩ := at_cons_directory found
      have inside := induction rest
      rw [List.cons_append, put_at_cons here (by simp)]
      constructor
      · intro place inner reached
        cases place with
        | nil => exact ⟨_, at_nil _⟩
        | cons other rest =>
            by_cases same : other = next
            · subst same
              rw [at_cons, here] at reached
              obtain ⟨later, there⟩ := inside.directory rest inner reached
              exact ⟨later, by rw [at_cons, lookup_put_self]; exact there⟩
            · refine ⟨inner, ?_⟩
              rw [at_cons, lookup_put_other entries same, ← at_cons]
              exact reached
      · intro place path
        cases place with
        | nil => simp [at_nil]
        | cons other rest =>
            rw [at_cons, at_cons]
            by_cases same : other = next
            · subst same
              rw [lookup_put_self, here]
              exact inside.link rest path
            · rw [lookup_put_other entries same]

end Entries

namespace FileTree

namespace Trail

/-- The walk down to a place, given by its names, the last one first. -/
def reach (root : Entries) : List Text → Trail
  | [] => []
  | name :: above => (name, root.at? (name :: above).reverse) :: reach root above

theorem node_reach (root : Entries) (place : List Text) :
    (reach root place).node? root = root.at? place.reverse := by
  cases place <;> rfl

theorem tail_reach (root : Entries) (place : List Text) :
    (reach root place).tail = reach root place.tail := by
  cases place <;> rfl

theorem location_reach (root : Entries) (place : List Text) :
    (reach root place).location = place.reverse := by
  have names : (reach root place).map Prod.fst = place := by
    induction place with
    | nil => rfl
    | cons name above induction => rw [reach, List.map_cons, induction]
  rw [location, names]

/-- Whether all that a walk passes on the way to a place are directories. -/
def Grounded (root : Entries) : List Text → Prop
  | [] => True
  | _ :: above => (∃ inner, root.at? above.reverse = some (.directory inner)) ∧ Grounded root above

theorem grounded_tail {root : Entries} {place : List Text} (grounded : Grounded root place) :
    Grounded root place.tail := by
  cases place with
  | nil => trivial
  | cons name above => exact grounded.2

/-- Where one step from a directory leads. -/
def onward (place : List Text) (name : Text) : List Text :=
  if name = "." then place else if name = ".." then place.tail else name :: place

theorem step_directory {root inner : Entries} {place : List Text}
    (found : root.at? place.reverse = some (.directory inner)) (name : Text) :
    step root (reach root place) name =
      if name ≠ "." ∧ name ≠ ".." ∧ longestName < (Text.toOctets name).size then
        .error .nameTooLong
      else .ok (reach root (onward place name)) := by
  rw [step, node_reach, found, onward]
  by_cases here : name = "."
  · simp [here]
  · by_cases above : name = ".."
    · simp [above, tail_reach]
    · have child : reach root (name :: place) = (name, inner.lookup name) :: reach root place := by
        rw [reach, List.reverse_cons, Entries.at_child found]
      simp only [if_neg here, if_neg above, child]
      split <;> simp_all

theorem step_ok {root : Entries} {trail found : Trail} {name : Text}
    (stepped : step root trail name = .ok found) :
    ∃ inner, trail.node? root = some (.directory inner) := by
  rw [step] at stepped
  split at stepped
  · simp at stepped
  · rename_i inner here
    exact ⟨inner, here⟩
  · simp at stepped

/-- What a step that succeeds tells, and that it leads to the same place in a grown tree. -/
theorem step_grows {before after : Entries} (grows : Entries.Grows before after)
    {place : List Text} (grounded : Grounded before place) {name : Text} {found : Trail}
    (stepped : step before (reach before place) name = .ok found) :
    ∃ next, found = reach before next ∧ Grounded before next ∧
      step after (reach after place) name = .ok (reach after next) := by
  obtain ⟨inner, here⟩ := step_ok stepped
  rw [node_reach] at here
  obtain ⟨later, there⟩ := grows.directory _ _ here
  rw [step_directory here] at stepped
  rw [step_directory there]
  split at stepped
  · simp at stepped
  · rename_i short
    rw [Except.ok.injEq] at stepped
    refine ⟨onward place name, stepped.symm, ?_, if_neg short⟩
    rw [onward]
    split
    · exact grounded
    · split
      · exact grounded_tail grounded
      · exact ⟨⟨inner, here⟩, grounded⟩

theorem link_iff {root : Entries} {trail : Trail} {path : Text} :
    trail.link? root = some path ↔ trail.node? root = some (.link path) := by
  rw [link?]
  split
  · rename_i other here
    rw [here, Option.some.injEq, Option.some.injEq, Node.link.injEq]
  · rename_i other
    exact ⟨fun none => by simp at none, fun here => absurd here (other path)⟩

theorem link_reach {before after : Entries} (grows : Entries.Grows before after)
    (place : List Text) :
    (reach after place).link? after = (reach before place).link? before := by
  apply Option.ext
  intro path
  rw [link_iff, link_iff, node_reach, node_reach, grows.link]

/-- Steps that each lead to the same place in a grown tree do so one after another. -/
theorem fold_grows {before after : Entries}
    {first second : Trail → Text → Except FileError Trail}
    (single : ∀ place name found, Grounded before place →
      first (reach before place) name = .ok found →
      ∃ next, found = reach before next ∧ Grounded before next ∧
        second (reach after place) name = .ok (reach after next))
    (names : List Text) {place : List Text} (grounded : Grounded before place) {found : Trail}
    (walked : names.foldlM first (reach before place) = .ok found) :
    ∃ next, found = reach before next ∧ Grounded before next ∧
      names.foldlM second (reach after place) = .ok (reach after next) := by
  induction names generalizing place with
  | nil =>
      rw [List.foldlM_nil] at walked
      exact ⟨place, (Except.ok.inj walked).symm, grounded, rfl⟩
  | cons name names induction =>
      rw [List.foldlM_cons] at walked
      cases stepped : first (reach before place) name with
      | error error =>
          rw [stepped] at walked
          simp [bind, Except.bind] at walked
      | ok middle =>
          rw [stepped] at walked
          obtain ⟨next, rfl, ground, there⟩ := single place name middle grounded stepped
          obtain ⟨final, ending, finalGround, rest⟩ := induction ground walked
          refine ⟨final, ending, finalGround, ?_⟩
          rw [List.foldlM_cons, there]
          exact rest

theorem enter_grows {before after : Entries} (grows : Entries.Grows before after) (limit : Nat)
    {place : List Text} (grounded : Grounded before place) {name : Text} {found : Trail}
    (entered : enter before limit (reach before place) name = .ok found) :
    ∃ next, found = reach before next ∧ Grounded before next ∧
      enter after limit (reach after place) name = .ok (reach after next) := by
  induction limit generalizing place name found with
  | zero => simp [enter] at entered
  | succ limit induction =>
      rw [enter] at entered ⊢
      cases stepped : step before (reach before place) name with
      | error error =>
          rw [stepped] at entered
          simp [bind, Except.bind] at entered
      | ok middle =>
          obtain ⟨next, rfl, ground, there⟩ := step_grows grows grounded stepped
          rw [stepped] at entered
          rw [there]
          simp only [bind, Except.bind] at entered ⊢
          rw [link_reach grows]
          cases link : (reach before next).link? before with
          | none =>
              rw [link] at entered
              exact ⟨next, (Except.ok.inj entered).symm, ground, rfl⟩
          | some path =>
              rw [link] at entered
              have single : ∀ place name found, Grounded before place →
                  enter before limit (reach before place) name = .ok found →
                  ∃ next, found = reach before next ∧ Grounded before next ∧
                    enter after limit (reach after place) name = .ok (reach after next) :=
                fun _ _ _ ground entered => induction ground entered
              have start : Grounded before [] := trivial
              by_cases absolute : Path.isAbsolute path = true
              · simp only [absolute, if_true] at entered ⊢
                exact fold_grows single (Path.names path) start entered
              · simp only [absolute] at entered ⊢
                exact fold_grows single (Path.names path) grounded entered

end Trail

/-- Whether a later tree has the directories and links of an earlier one, seen from the same
place. -/
structure Grows (before after : FileTree) : Prop where
  here : after.workingDirectory = before.workingDirectory
  root : Entries.Grows before.root after.root

theorem grows_refl (tree : FileTree) : Grows tree tree := ⟨rfl, Entries.grows_refl tree.root⟩

theorem Grows.trans {first second third : FileTree} (early : Grows first second)
    (late : Grows second third) : Grows first third :=
  ⟨late.here.trans early.here, early.root.trans late.root⟩

theorem walk_grows {before after : FileTree} (grows : Grows before after) (names : List Text)
    {place : List Text} (grounded : Trail.Grounded before.root place) {found : Trail}
    (walked : before.walk (.reach before.root place) names = .ok found) :
    ∃ next, found = .reach before.root next ∧ Trail.Grounded before.root next ∧
      after.walk (.reach after.root place) names = .ok (.reach after.root next) :=
  Trail.fold_grows (fun _ _ _ ground entered => Trail.enter_grows grows.root _ ground entered)
    names grounded walked

theorem start_grows {before after : FileTree} (grows : Grows before after) {path : Text}
    {start : Trail} (started : before.startOf path = .ok start) :
    ∃ place, start = .reach before.root place ∧ Trail.Grounded before.root place ∧
      after.startOf path = .ok (.reach after.root place) := by
  have ground : Trail.Grounded before.root [] := trivial
  rw [startOf] at started ⊢
  by_cases empty : path.isEmpty = true
  · simp [empty] at started
  by_cases zero : '\x00' ∈ path
  · simp [empty, zero] at started
  by_cases long : longestPath < (Text.toOctets path).size
  · simp [empty, zero, long] at started
  rw [if_neg empty, if_neg zero, if_neg long] at started ⊢
  by_cases absolute : Path.isAbsolute path = true
  · rw [if_pos absolute] at started ⊢
    exact ⟨[], (Except.ok.inj started).symm, ground, rfl⟩
  · rw [if_neg absolute] at started ⊢
    rw [grows.here]
    exact walk_grows grows _ ground started

/-- A path that leads somewhere leads to the same place in a grown tree. -/
theorem follow_grows {before after : FileTree} (grows : Grows before after) {path : Text}
    {found : Trail} (followed : before.follow path = .ok found) :
    ∃ place, found = .reach before.root place ∧ Trail.Grounded before.root place ∧
      after.follow path = .ok (.reach after.root place) := by
  rw [follow] at followed ⊢
  cases started : before.startOf path with
  | error error =>
      rw [started] at followed
      simp [bind, Except.bind] at followed
  | ok start =>
      rw [started] at followed
      obtain ⟨place, rfl, ground, there⟩ := start_grows grows started
      rw [there]
      exact walk_grows grows _ ground followed

/-- What a path leads to is what there is at the place that it leads to. -/
theorem find_followed {tree : FileTree} {path : Text} {place : List Text}
    (followed : tree.follow path = .ok (.reach tree.root place)) :
    tree.find path = match tree.root.at? place.reverse with
      | none => .error .missing
      | some (.directory entries) => .ok (.directory entries)
      | some node => if Text.endsWith "/" path then .error .notDirectory else .ok node := by
  rw [find, followed]
  simp only [bind, Except.bind, Trail.node_reach]
  rfl

theorem isDirectory_iff {tree : FileTree} {path : Text} :
    tree.isDirectory path = true ↔ ∃ place inner,
      tree.follow path = .ok (.reach tree.root place) ∧
        tree.root.at? place.reverse = some (.directory inner) := by
  rw [isDirectory]
  constructor
  · intro isDirectory
    cases followed : tree.follow path with
    | error error => simp [find, followed, bind, Except.bind] at isDirectory
    | ok trail =>
        obtain ⟨place, rfl, _, _⟩ := follow_grows (grows_refl tree) followed
        rw [find_followed followed] at isDirectory
        cases there : tree.root.at? place.reverse with
        | none => simp [there] at isDirectory
        | some node =>
            cases node with
            | directory inner => exact ⟨place, inner, rfl, there⟩
            | file | link | null | stream | program =>
                rw [there] at isDirectory
                generalize Text.endsWith "/" path = slash at isDirectory
                cases slash <;> simp at isDirectory
  · rintro ⟨place, inner, followed, there⟩
    rw [find_followed followed, there]

theorem isDirectory_grows {before after : FileTree} (grows : Grows before after) {path : Text}
    (found : before.isDirectory path = true) : after.isDirectory path = true := by
  rw [isDirectory_iff] at found ⊢
  obtain ⟨place, inner, followed, there⟩ := found
  obtain ⟨next, same, _, later⟩ := follow_grows grows followed
  obtain ⟨deeper, still⟩ := grows.root.directory _ _ there
  have places : place.reverse = next.reverse := by
    rw [← Trail.location_reach before.root place, same, Trail.location_reach]
  exact ⟨next, deeper, later, places ▸ still⟩

end FileTree

end ShaderCost
