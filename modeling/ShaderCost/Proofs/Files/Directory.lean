import ShaderCost.Proofs.Files.Walk

/-!
Making sure that a directory exists. Where it exists nothing changes; where it can be created it
is a directory afterwards; and where it cannot, trying again does not help.
-/

namespace ShaderCost.FileTree

theorem enter_step (tree : FileTree) (trail : Trail) (name : Text) :
    Trail.enter tree.root longestChain trail name = (Trail.step tree.root trail name).bind
      fun found => match found.link? tree.root with
        | none => .ok found
        | some path => (Path.names path).foldlM (Trail.enter tree.root 39)
            (if Path.isAbsolute path then [] else trail) :=
  rfl

theorem walk_append (tree : FileTree) (trail : Trail) (front rest : List Text) :
    tree.walk trail (front ++ rest) = (tree.walk trail front).bind fun middle =>
      tree.walk middle rest :=
  List.foldlM_append

theorem walk_single (tree : FileTree) (trail : Trail) (name : Text) :
    tree.walk trail [name] = Trail.enter tree.root longestChain trail name := by
  rw [walk, List.foldlM_cons]
  cases Trail.enter tree.root longestChain trail name <;> rfl

/-- A path and the entry that it names are the same up to a link at the end. -/
theorem follow_entry_cases (tree : FileTree) (path : Text) :
    tree.followEntry path = tree.follow path ∨ ∃ trail name,
      tree.followEntry path = Trail.step tree.root trail name ∧
        tree.follow path = Trail.enter tree.root longestChain trail name := by
  rw [followEntry, follow]
  cases started : tree.startOf path with
  | error error => exact .inl rfl
  | ok start =>
      simp only [bind, Except.bind]
      cases last : (Path.names path).getLast? with
      | none =>
          rw [List.getLast?_eq_none_iff] at last
          rw [last]
          exact .inl rfl
      | some name =>
          by_cases slash : Text.endsWith "/" path = true
          · exact .inl (if_pos slash)
          · have split : (Path.names path).dropLast ++ [name] = Path.names path := by
              obtain ⟨front, whole⟩ := List.getLast?_eq_some_iff.mp last
              rw [whole, List.dropLast_concat]
            simp only [if_neg slash]
            rw [← split, walk_append, List.dropLast_concat]
            cases walked : tree.walk start (Path.names path).dropLast with
            | error error => exact .inl rfl
            | ok trail => exact .inr ⟨trail, name, rfl, walk_single tree trail name⟩

theorem follow_of_entry {tree : FileTree} {path : Text} {found : Trail}
    (entry : tree.followEntry path = .ok found) (plain : found.link? tree.root = none) :
    tree.follow path = .ok found := by
  rcases follow_entry_cases tree path with same | ⟨trail, name, stepped, entered⟩
  · rw [← same, entry]
  · rw [entered, enter_step, ← stepped, entry]
    simp only [Except.bind, plain]

theorem entry_of_follow {tree : FileTree} {path : Text} {found : Trail}
    (followed : tree.follow path = .ok found) : ∃ middle, tree.followEntry path = .ok middle ∧
      (middle = found ∨ ∃ target, middle.link? tree.root = some target) := by
  rcases follow_entry_cases tree path with same | ⟨trail, name, stepped, entered⟩
  · exact ⟨found, by rw [same, followed], .inl rfl⟩
  · rw [entered, enter_step, ← stepped] at followed
    cases entry : tree.followEntry path with
    | error error => simp [entry, Except.bind] at followed
    | ok middle =>
        refine ⟨middle, rfl, ?_⟩
        rw [entry] at followed
        cases link : middle.link? tree.root with
        | none =>
            simp only [Except.bind, link, Except.ok.injEq] at followed
            exact .inl followed
        | some target => exact .inr ⟨target, rfl⟩

/-- A node that is put where a walk ends is what the walk then ends at. -/
theorem insert_grows {tree : FileTree} {name : Text} {above : List Text}
    (grounded : Trail.Grounded tree.root (name :: above))
    (replaceable : Entries.Replaceable (tree.root.at? (name :: above).reverse)) {node : Node}
    (fresh : Entries.Fresh node) :
    Grows tree (tree.insert (name :: above).reverse node) ∧
      (tree.insert (name :: above).reverse node).root.at? (name :: above).reverse = some node := by
  obtain ⟨⟨inner, found⟩, _⟩ := grounded
  rw [List.reverse_cons] at replaceable ⊢
  rw [Entries.at_child found] at replaceable
  exact ⟨⟨rfl, Entries.grows_put_at found replaceable fresh⟩,
    Entries.at_put_at_self found name node⟩

theorem reach_injective {root : Entries} {left right : List Text}
    (same : Trail.reach root left = Trail.reach root right) : left = right := by
  have places := congrArg Trail.location same
  rwa [Trail.location_reach, Trail.location_reach, List.reverse_inj] at places

/-- Where a directory is created there was nothing, and a directory is there afterwards. -/
theorem make_directory_ok {tree made : FileTree} {path : Text}
    (created : tree.makeDirectory path = .ok made) :
    (∃ found, tree.follow path = .ok found) ∧ Grows tree made ∧
      made.isDirectory path = true := by
  rw [makeDirectory] at created
  cases entry : tree.followEntry path with
  | error error => simp [entry, bind, Except.bind] at created
  | ok trail =>
      simp only [entry, bind, Except.bind] at created
      cases there : trail.node? tree.root with
      | some node => simp [there, throw, throwThe, MonadExceptOf.throw] at created
      | none =>
          simp only [there, pure, Except.pure, Except.ok.injEq] at created
          have followed := follow_of_entry entry (by simp [Trail.link?, there])
          obtain ⟨place, rfl, grounded, _⟩ := follow_grows (grows_refl tree) followed
          rw [Trail.node_reach] at there
          cases place with
          | nil => simp [Entries.at_nil] at there
          | cons name above =>
              rw [Trail.location_reach] at created
              have placed := insert_grows grounded (there ▸ .missing) .directory
              rw [created] at placed
              refine ⟨⟨_, followed⟩, placed.1, ?_⟩
              obtain ⟨next, same, _, later⟩ := follow_grows placed.1 followed
              rw [← reach_injective same] at later
              exact isDirectory_iff.mpr ⟨_, [], later, placed.2⟩

theorem make_directory_exists {tree : FileTree} {path : Text}
    (found : tree.isDirectory path = true) :
    tree.makeDirectory path = .error .alreadyExists := by
  obtain ⟨place, inner, followed, there⟩ := isDirectory_iff.mp found
  obtain ⟨middle, entry, cases⟩ := entry_of_follow followed
  have present : ∃ node, middle.node? tree.root = some node := by
    rcases cases with rfl | ⟨target, link⟩
    · exact ⟨_, (Trail.node_reach _ _).trans there⟩
    · exact ⟨_, Trail.link_iff.mp link⟩
  obtain ⟨node, here⟩ := present
  rw [makeDirectory, entry]
  simp only [bind, Except.bind, here]
  rfl

section Chain

variable {tree made : FileTree} {path : Text} {above : List Text}

theorem make_chain_empty : tree.makeChain ([] :: above) = (.ok (), tree) := by
  rw [makeChain]
  rfl

theorem make_chain_made (filled : path ≠ []) (created : tree.makeDirectory path = .ok made) :
    tree.makeChain (path :: above) = (.ok (), made) := by
  rw [makeChain, if_neg (by simpa using filled)]
  simp only [created]

theorem make_chain_missing (filled : path ≠ [])
    (missing : tree.makeDirectory path = .error .missing) :
    tree.makeChain (path :: above) = match tree.makeChain above with
      | (.error error, made) => (.error error, made)
      | (.ok (), made) => match made.makeDirectory path with
        | .ok deeper => (.ok (), deeper)
        | .error error => (if made.isDirectory path then .ok () else .error error, made) := by
  rw [makeChain, if_neg (by simpa using filled)]
  cases attempt : tree.makeDirectory path with
  | ok made => simp [attempt] at missing
  | error cause =>
      obtain rfl : cause = .missing := by simpa [attempt] using missing
      rfl

theorem make_chain_refused (filled : path ≠ []) {error : FileError} (other : error ≠ .missing)
    (refused : tree.makeDirectory path = .error error) :
    tree.makeChain (path :: above) =
      (if tree.isDirectory path then .ok () else .error error, tree) := by
  rw [makeChain, if_neg (by simpa using filled)]
  simp only [refused]

theorem make_chain_exists (found : path = [] ∨ tree.isDirectory path = true) :
    tree.makeChain (path :: above) = (.ok (), tree) := by
  by_cases filled : path = []
  · rw [filled, make_chain_empty]
  · have present := found.resolve_left filled
    rw [make_chain_refused filled (by simp) (make_directory_exists present), if_pos present]

end Chain

/-- How a chain ends: with the directory itself, with a failure above it, or with a directory that
is refused, which does no harm where it exists. -/
theorem make_chain_cases {tree made : FileTree} {path : Text} {above : List Text}
    {result : Except FileError Unit} (filled : path ≠ [])
    (chain : tree.makeChain (path :: above) = (result, made)) :
    (result = .ok () ∧ ∃ before : FileTree, before.makeDirectory path = .ok made) ∨
      (∃ cause, result = .error cause ∧ tree.makeDirectory path = .error .missing ∧
        tree.makeChain above = (.error cause, made)) ∨
      ∃ cause, made.makeDirectory path = .error cause ∧
        result = (if made.isDirectory path then .ok () else .error cause) ∧
        (cause = .missing → tree.makeChain above = (.ok (), made)) := by
  cases attempt : tree.makeDirectory path with
  | ok created =>
      rw [make_chain_made filled attempt] at chain
      obtain ⟨rfl, rfl⟩ := Prod.mk.inj chain
      exact .inl ⟨rfl, tree, attempt⟩
  | error cause =>
      by_cases missing : cause = .missing
      · subst missing
        rw [make_chain_missing filled attempt] at chain
        cases upper : tree.makeChain above with
        | mk first middle =>
            rw [upper] at chain
            cases first with
            | error cause =>
                obtain ⟨rfl, rfl⟩ := Prod.mk.inj chain
                exact .inr (.inl ⟨cause, rfl, rfl, rfl⟩)
            | ok =>
                cases again : middle.makeDirectory path with
                | ok deeper =>
                    simp only [again] at chain
                    obtain ⟨rfl, rfl⟩ := Prod.mk.inj chain
                    exact .inl ⟨rfl, middle, again⟩
                | error cause =>
                    simp only [again] at chain
                    obtain ⟨rfl, rfl⟩ := Prod.mk.inj chain
                    exact .inr (.inr ⟨cause, again, rfl, fun _ => rfl⟩)
      · rw [make_chain_refused filled missing attempt] at chain
        obtain ⟨rfl, rfl⟩ := Prod.mk.inj chain
        exact .inr (.inr ⟨cause, attempt, rfl, fun lacking => absurd lacking missing⟩)

theorem make_chain_ok {tree made : FileTree} {path : Text} {above : List Text}
    (chain : tree.makeChain (path :: above) = (.ok (), made)) :
    path = [] ∨ made.isDirectory path = true := by
  by_cases filled : path = []
  · exact .inl filled
  right
  rcases make_chain_cases filled chain with
    ⟨_, before, created⟩ | ⟨cause, failed, _⟩ | ⟨cause, _, result, _⟩
  · exact (make_directory_ok created).2.2
  · simp at failed
  · split at result
    · assumption
    · simp at result

theorem octets_append (front rest : Text) :
    (Text.toOctets (front ++ rest)).size =
      (Text.toOctets front).size + (Text.toOctets rest).size := by
  simp [Text.toOctets, ByteArray.size_append]

/-- A front part of a path that a walk can start at starts the same walk. -/
theorem start_of_prefix {tree : FileTree} {path above : Text} {start : Trail}
    (filled : above ≠ []) (front : above <+: path) (started : tree.startOf path = .ok start) :
    tree.startOf above = .ok start := by
  obtain ⟨rest, rfl⟩ := front
  rw [startOf] at started ⊢
  by_cases empty : (above ++ rest).isEmpty = true
  · simp [empty] at started
  by_cases zero : '\x00' ∈ above ++ rest
  · simp [empty, zero] at started
  by_cases long : longestPath < (Text.toOctets (above ++ rest)).size
  · simp [empty, zero, long] at started
  rw [if_neg empty, if_neg zero, if_neg long] at started
  have shorter : ¬ longestPath < (Text.toOctets above).size := by
    rw [octets_append] at long
    omega
  have clean : '\x00' ∉ above := fun member => zero (List.mem_append_left rest member)
  have absolute : Path.isAbsolute (above ++ rest) = Path.isAbsolute above := by
    cases above with
    | nil => exact absurd rfl filled
    | cons c above => rfl
  rw [if_neg (by simpa using filled), if_neg clean, if_neg shorter, ← absolute]
  exact started

theorem parent_directory {tree : FileTree} {path above : Text} {found : Trail}
    (parent : Path.parent? path = some above) (filled : above ≠ [])
    (followed : tree.follow path = .ok found) : tree.isDirectory above = true := by
  obtain ⟨front, rest, more, split⟩ := Path.parent_spec parent
  rw [follow] at followed
  cases started : tree.startOf path with
  | error error => simp [started, bind, Except.bind] at followed
  | ok start =>
      simp only [started, bind, Except.bind, split, walk_append] at followed
      have begun := start_of_prefix filled front started
      cases walked : tree.walk start (Path.names above) with
      | error error => simp [walked] at followed
      | ok trail =>
          have reached : tree.follow above = .ok trail := by
            rw [follow, begun]
            exact walked
          obtain ⟨place, rfl, _, _⟩ := follow_grows (grows_refl tree) reached
          simp only [walked] at followed
          cases rest with
          | nil => exact absurd rfl more
          | cons name rest =>
              rw [walk, List.foldlM_cons, enter_step] at followed
              cases stepped : Trail.step tree.root (.reach tree.root place) name with
              | error error => simp [stepped, bind, Except.bind] at followed
              | ok next =>
                  obtain ⟨inner, here⟩ := Trail.step_ok stepped
                  rw [Trail.node_reach] at here
                  exact isDirectory_iff.mpr ⟨place, inner, reached, here⟩

/-- Whether a chain of directories cannot be created. -/
def Refuses (tree : FileTree) (paths : List Text) : Prop :=
  ∃ error changed, tree.makeChain paths = (.error error, changed)

theorem not_refuses_exists {tree : FileTree} {path : Text} {above : List Text}
    (found : path = [] ∨ tree.isDirectory path = true) : ¬ tree.Refuses (path :: above) := by
  rintro ⟨error, changed, refused⟩
  rw [make_chain_exists found] at refused
  simp at refused

/-- A directory that nothing leads to cannot be created where those above it are refused. -/
theorem refuses_below {tree : FileTree} {path : Text} {above : List Text} (filled : path ≠ [])
    (lost : ∀ found, tree.follow path ≠ .ok found) (refused : tree.Refuses above) :
    tree.Refuses (path :: above) := by
  obtain ⟨cause, changed, failed⟩ := refused
  cases attempt : tree.makeDirectory path with
  | ok created =>
      obtain ⟨found, followed⟩ := (make_directory_ok attempt).1
      exact absurd followed (lost found)
  | error error =>
      by_cases missing : error = .missing
      · subst missing
        exact ⟨cause, changed, by rw [make_chain_missing filled attempt, failed]⟩
      · refine ⟨error, tree, ?_⟩
        rw [make_chain_refused filled missing attempt, if_neg]
        intro found
        obtain ⟨place, inner, followed, _⟩ := isDirectory_iff.mp found
        exact lost _ followed

/-- A chain that is refused once, though part of it may have been created, is refused again. -/
theorem refuses_again {tree made : FileTree} {path : Text} {above : List Text} {error : FileError}
    (upper : ∀ {tree made : FileTree} {error : FileError},
      tree.makeChain above = (.error error, made) → made.Refuses above)
    (parent : ∀ {tree : FileTree} {found : Trail}, tree.follow path = .ok found →
      above = [] ∨ ¬ tree.Refuses above)
    (chain : tree.makeChain (path :: above) = (.error error, made)) :
    made.Refuses (path :: above) := by
  by_cases filled : path = []
  · simp [filled, make_chain_empty] at chain
  rcases make_chain_cases filled chain with
    ⟨accepted, _⟩ | ⟨cause, _, _, top⟩ | ⟨cause, second, result, chained⟩
  · simp at accepted
  · by_cases more : above = []
    · subst more
      obtain ⟨_, rfl⟩ := Prod.mk.inj top
      exact ⟨error, _, chain⟩
    · have refused := upper top
      exact refuses_below filled
        (fun found followed => (parent followed).elim more fun accepted => accepted refused) refused
  · have absent : ¬ made.isDirectory path = true := by
      intro found
      simp [found] at result
    by_cases lacking : cause = .missing
    · subst lacking
      refine ⟨.missing, made, ?_⟩
      cases above with
      | nil => simp [makeChain] at chained
      | cons first rest =>
          rw [make_chain_missing filled second, make_chain_exists (make_chain_ok (chained rfl))]
          simp only [second, if_neg absent]
    · exact ⟨cause, made, by rw [make_chain_refused filled lacking second, if_neg absent]⟩

theorem single_refuses_again {tree made : FileTree} {path : Text} {error : FileError}
    (chain : tree.makeChain [path] = (.error error, made)) : made.Refuses [path] := by
  apply refuses_again _ _ chain
  · intro tree made error top
    obtain ⟨_, rfl⟩ := Prod.mk.inj top
    exact ⟨error, _, top⟩
  · exact fun _ => .inl rfl

theorem ancestors_start (limit : Nat) (path : Text) :
    ∃ above, Path.withAncestors limit path = path :: above := by
  cases limit with
  | zero => exact ⟨[], rfl⟩
  | succ limit =>
      rw [Path.withAncestors]
      split <;> exact ⟨_, rfl⟩

theorem ancestors_refuse_again {limit : Nat} {tree made : FileTree} {path : Text}
    {error : FileError}
    (chain : tree.makeChain (Path.withAncestors limit path) = (.error error, made)) :
    made.Refuses (Path.withAncestors limit path) := by
  induction limit generalizing tree made path error with
  | zero => exact single_refuses_again chain
  | succ limit induction =>
      rw [Path.withAncestors] at chain ⊢
      cases parent : Path.parent? path with
      | none =>
          rw [parent] at chain
          exact single_refuses_again chain
      | some above =>
          rw [parent] at chain
          apply refuses_again induction _ chain
          intro tree found followed
          right
          obtain ⟨rest, spelled⟩ := ancestors_start limit above
          rw [spelled]
          apply not_refuses_exists
          by_cases filled : above = []
          · exact .inl filled
          · exact .inr (parent_directory parent filled followed)

section Directories

variable {tree made : FileTree} {directory : Text}

theorem make_directories_ok (created : tree.makeDirectories directory = (.ok (), made)) :
    directory = [] ∨ made.isDirectory directory = true := by
  obtain ⟨above, spelled⟩ := ancestors_start directory.length directory
  rw [makeDirectories, spelled] at created
  exact make_chain_ok created

theorem make_directories_exists (found : directory = [] ∨ tree.isDirectory directory = true) :
    tree.makeDirectories directory = (.ok (), tree) := by
  obtain ⟨above, spelled⟩ := ancestors_start directory.length directory
  rw [makeDirectories, spelled, make_chain_exists found]

/-- A directory that could not be created cannot be created afterwards either. -/
theorem make_directories_fails_again {error : FileError}
    (failed : tree.makeDirectories directory = (.error error, made)) :
    ∃ later changed, made.makeDirectories directory = (.error later, changed) :=
  ancestors_refuse_again failed

end Directories

end ShaderCost.FileTree
