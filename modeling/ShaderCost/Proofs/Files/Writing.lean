import ShaderCost.Proofs.Files.Directory

/-!
Files that are written. A regular file holds what was last written to it, whatever path leads there.
As long as names in one directory lead to no link and no device, that stays so whatever is written
under other names, and whether a name can be written to does not depend on what was written before.
-/

namespace ShaderCost

namespace Node

/-- Whether what is written to a node stays there and nowhere else. -/
def isOrdinary : Node → Bool
  | file _ _ | directory _ | program _ => true
  | link _ | null | stream _ => false

end Node

namespace FileTree

section Followed

variable {tree changed : FileTree} {path name : Text} {above : List Text} {content : Octets}

/-- What writing does depends on what there is where the path leads. -/
theorem write_followed {place : List Text}
    (followed : tree.follow path = .ok (.reach tree.root place)) (content : Octets) :
    tree.writeOctets path content =
      if Text.endsWith "/" path then .error .isDirectory
      else match tree.root.at? place.reverse with
        | some (.directory _) => .error .isDirectory
        | some (.file _ executable) =>
            .ok (tree.insert place.reverse (.file content executable))
        | some (.program _) => .error .denied
        | some .null | some (.stream _) | some (.link _) => .ok tree
        | none => .ok (tree.insert place.reverse (.file content false)) := by
  rw [writeOctets, followed]
  simp only [bind, Except.bind, Trail.node_reach, Trail.location_reach]
  split <;> rfl

/-- A file that is put where a path leads is what is then read there. -/
theorem read_inserted (followed : tree.follow path = .ok (.reach tree.root (name :: above)))
    (grounded : Trail.Grounded tree.root (name :: above)) (plain : Text.endsWith "/" path = false)
    (replaceable : Entries.Replaceable (tree.root.at? (name :: above).reverse))
    (executable : Bool) :
    (tree.insert (name :: above).reverse (.file content executable)).readOctets path =
      .ok content := by
  obtain ⟨grows, there⟩ := insert_grows grounded replaceable (.file content executable)
  obtain ⟨next, same, _, later⟩ := follow_grows grows followed
  rw [← reach_injective same] at later
  rw [readOctets, find_followed later, there, plain]
  rfl

/-- A file that was written to holds what was written. -/
theorem read_written (written : tree.writeOctets path content = .ok changed)
    (file : changed.isFile path = true) : changed.readOctets path = .ok content := by
  cases followed : tree.follow path with
  | error error => simp [writeOctets, followed, bind, Except.bind] at written
  | ok trail =>
      obtain ⟨place, rfl, grounded, _⟩ := follow_grows (grows_refl tree) followed
      have found := find_followed followed
      rw [write_followed followed] at written
      cases plain : Text.endsWith "/" path with
      | true =>
          rw [if_pos plain] at written
          simp at written
      | false =>
          rw [plain] at written found
          cases place with
          | nil => simp [Entries.at_nil] at written
          | cons name above =>
              cases there : tree.root.at? (name :: above).reverse with
              | none =>
                  simp only [there, Bool.false_eq_true, if_false, Except.ok.injEq] at written
                  exact written ▸ read_inserted followed grounded plain (there ▸ .missing) false
              | some node =>
                  rw [there] at written found
                  cases node with
                  | file old executable =>
                      simp only [Bool.false_eq_true, if_false, Except.ok.injEq] at written
                      exact written ▸ read_inserted followed grounded plain
                        (there ▸ .file old executable) executable
                  | directory | program => simp at written
                  | link | null | stream =>
                      simp only [Bool.false_eq_true, if_false, Except.ok.injEq] at written
                      rw [← written, isFile, found] at file
                      simp at file

theorem octets_spell (text : Text) : Text.ofOctets? (Text.toOctets text) = some text := by
  have valid : String.fromUTF8? (String.ofList text).toUTF8 = some (String.ofList text) :=
    dif_pos (String.ofList text).isValidUTF8
  rw [Text.ofOctets?, Text.toOctets, valid, Option.map_some, String.toList_ofList]

theorem read_text_written {text : Text} (written : tree.writeText path text = .ok changed)
    (file : changed.isFile path = true) : changed.readText path = .ok text := by
  rw [readText, read_written written file]
  simp only [bind, Except.bind, octets_spell]
  rfl

end Followed

/-- Whether a path, if it names anything, names neither a link nor a device. -/
def ordinaryAt (tree : FileTree) (path : Text) : Bool :=
  match tree.findEntry path with
  | .ok node => node.isOrdinary
  | .error _ => true

/-- Where the walk to a directory starts. -/
def base (tree : FileTree) (directory : Text) : Except FileError Trail :=
  if Path.isAbsolute directory then .ok [] else tree.walk [] tree.workingDirectory

/-- The walk to a directory; the empty path is where relative paths start. -/
def opening (tree : FileTree) (directory : Text) : Except FileError Trail :=
  (tree.base directory).bind fun start => tree.walk start (Path.names directory)

theorem opening_of_follow {tree : FileTree} {directory : Text} {found : Trail}
    (followed : tree.follow directory = .ok found) :
    tree.opening directory = .ok found ∧ '\x00' ∉ directory ∧
      ¬ longestPath < (Text.toOctets directory).size := by
  rw [follow] at followed
  cases started : tree.startOf directory with
  | error error => simp [started, bind, Except.bind] at followed
  | ok start =>
      have whole := started
      rw [startOf] at started
      by_cases empty : directory.isEmpty = true
      · simp [empty] at started
      by_cases zero : '\x00' ∈ directory
      · simp [empty, zero] at started
      by_cases long : longestPath < (Text.toOctets directory).size
      · simp [empty, zero, long] at started
      rw [if_neg empty, if_neg zero, if_neg long] at started
      rw [whole] at followed
      refine ⟨?_, zero, long⟩
      rw [opening, base, started]
      exact followed

theorem opening_grows {before after : FileTree} (grows : Grows before after) {directory : Text}
    {found : Trail} (opened : before.opening directory = .ok found) :
    ∃ place, found = .reach before.root place ∧ Trail.Grounded before.root place ∧
      after.opening directory = .ok (.reach after.root place) := by
  have ground : Trail.Grounded before.root [] := trivial
  rw [opening, base] at opened ⊢
  by_cases absolute : Path.isAbsolute directory = true
  · rw [if_pos absolute] at opened ⊢
    exact walk_grows grows _ ground opened
  · rw [if_neg absolute] at opened ⊢
    rw [grows.here]
    cases walked : before.walk [] before.workingDirectory with
    | error error => simp [walked, Except.bind] at opened
    | ok start =>
        obtain ⟨place, rfl, grounded, there⟩ := walk_grows grows _ ground walked
        rw [walked] at opened
        rw [show after.walk [] before.workingDirectory = _ from there]
        exact walk_grows grows _ grounded opened

section Join

variable {tree : FileTree} {directory name : Text}

theorem start_join (plain : Path.Plain name) (clean : '\x00' ∉ directory) :
    tree.startOf (Path.join directory name) =
      if longestPath < (Text.toOctets (Path.join directory name)).size then .error .nameTooLong
      else tree.base directory := by
  have zeroless : '\x00' ∉ Path.join directory name := by
    rw [Path.mem_join plain (by decide), not_or]
    exact ⟨clean, plain.zeroless⟩
  rw [startOf, if_neg (by simpa using Path.join_filled directory plain), if_neg zeroless, base,
    Path.join_absolute directory plain.single]

/-- The walk to an entry of a directory is the walk to the directory and one step more. -/
theorem follow_join (plain : Path.Plain name) (clean : '\x00' ∉ directory) :
    tree.follow (Path.join directory name) =
      if longestPath < (Text.toOctets (Path.join directory name)).size then .error .nameTooLong
      else (tree.opening directory).bind fun trail =>
        Trail.enter tree.root longestChain trail name := by
  rw [follow, start_join plain clean, Path.names_join directory plain.single, opening]
  split
  · rfl
  · cases tree.base directory with
    | error error => rfl
    | ok start =>
        simp only [bind, Except.bind]
        rw [walk_append]
        cases tree.walk start (Path.names directory) with
        | error error => rfl
        | ok trail => exact walk_single tree trail name

theorem entry_join (plain : Path.Plain name) (clean : '\x00' ∉ directory) :
    tree.followEntry (Path.join directory name) =
      if longestPath < (Text.toOctets (Path.join directory name)).size then .error .nameTooLong
      else (tree.opening directory).bind fun trail => Trail.step tree.root trail name := by
  rw [followEntry, start_join plain clean, Path.names_join directory plain.single, opening]
  split
  · rfl
  · cases tree.base directory with
    | error error => rfl
    | ok start =>
        simp only [bind, Except.bind, List.getLast?_concat, List.dropLast_concat]
        rw [if_neg (Bool.eq_false_iff.mp (Path.join_ending directory plain))]

end Join

/-- Whether a directory is open: a walk leads to it, and it is one. -/
structure Open (tree : FileTree) (directory : Text) (place : List Text) : Prop where
  clean : '\x00' ∉ directory
  opened : tree.opening directory = .ok (.reach tree.root place)
  grounded : Trail.Grounded tree.root place
  there : ∃ inner, tree.root.at? place.reverse = some (.directory inner)

/-- Whether a name is too long for the system, by itself or behind its directory. -/
def TooLong (directory name : Text) : Prop :=
  longestPath < (Text.toOctets (Path.join directory name)).size ∨
    longestName < (Text.toOctets name).size

/-- What there is under a name at a place, which is given by its names, the last one first. -/
def entryAt (tree : FileTree) (place : List Text) (name : Text) : Option Node :=
  tree.root.at? (name :: place).reverse

theorem grounded_grows {before after : Entries} (grows : Entries.Grows before after)
    {place : List Text} (grounded : Trail.Grounded before place) : Trail.Grounded after place := by
  induction place with
  | nil => trivial
  | cons name above induction =>
      obtain ⟨⟨inner, found⟩, rest⟩ := grounded
      exact ⟨grows.directory _ _ found, induction rest⟩

theorem open_grows {before after : FileTree} (grows : Grows before after) {directory : Text}
    {place : List Text} (isOpen : Open before directory place) : Open after directory place := by
  obtain ⟨next, same, _, later⟩ := opening_grows grows isOpen.opened
  obtain ⟨inner, there⟩ := isOpen.there
  rw [← reach_injective same] at later
  exact ⟨isOpen.clean, later, grounded_grows grows.root isOpen.grounded,
    grows.root.directory _ _ there⟩

section Spot

variable {tree : FileTree} {directory name : Text} {place : List Text}

theorem step_spot (isOpen : Open tree directory place) (plain : Path.Plain name) :
    Trail.step tree.root (.reach tree.root place) name =
      if longestName < (Text.toOctets name).size then .error .nameTooLong
      else .ok (.reach tree.root (name :: place)) := by
  obtain ⟨inner, there⟩ := isOpen.there
  have onward : Trail.onward place name = name :: place := by
    rw [Trail.onward, if_neg plain.notHere, if_neg plain.notAbove]
  rw [Trail.step_directory there, onward]
  simp only [ne_eq, plain.notHere, plain.notAbove, not_false_eq_true, true_and]

theorem follow_too_long (isOpen : Open tree directory place) (plain : Path.Plain name)
    (long : TooLong directory name) :
    tree.follow (Path.join directory name) = .error .nameTooLong := by
  rw [follow_join plain isOpen.clean, isOpen.opened]
  by_cases whole : longestPath < (Text.toOctets (Path.join directory name)).size
  · rw [if_pos whole]
  · rw [if_neg whole]
    simp only [Except.bind]
    rw [enter_step, step_spot isOpen plain, if_pos (long.resolve_left whole)]
    rfl

theorem follow_spot (isOpen : Open tree directory place) (plain : Path.Plain name)
    (short : ¬ TooLong directory name)
    (linkless : ∀ target, tree.entryAt place name ≠ some (.link target)) :
    tree.follow (Path.join directory name) = .ok (.reach tree.root (name :: place)) := by
  have unlinked : Trail.link? tree.root (.reach tree.root (name :: place)) = none := by
    rw [Option.eq_none_iff_forall_ne_some]
    intro target link
    rw [Trail.link_iff, Trail.node_reach] at link
    exact linkless target link
  rw [follow_join plain isOpen.clean, isOpen.opened, if_neg fun long => short (.inl long)]
  simp only [Except.bind]
  rw [enter_step, step_spot isOpen plain, if_neg fun wide => short (.inr wide)]
  simp only [Except.bind, unlinked]

theorem write_too_long (isOpen : Open tree directory place) (plain : Path.Plain name)
    (long : TooLong directory name) (content : Octets) :
    tree.writeOctets (Path.join directory name) content = .error .nameTooLong := by
  rw [writeOctets, follow_too_long isOpen plain long]
  rfl

/-- What writing to an entry of an open directory does depends on what the entry is. -/
theorem write_spot (isOpen : Open tree directory place) (plain : Path.Plain name)
    (short : ¬ TooLong directory name)
    (linkless : ∀ target, tree.entryAt place name ≠ some (.link target)) (content : Octets) :
    tree.writeOctets (Path.join directory name) content =
      match tree.entryAt place name with
      | some (.directory _) => .error .isDirectory
      | some (.file _ executable) =>
          .ok (tree.insert (name :: place).reverse (.file content executable))
      | some (.program _) => .error .denied
      | some .null | some (.stream _) | some (.link _) => .ok tree
      | none => .ok (tree.insert (name :: place).reverse (.file content false)) := by
  rw [write_followed (follow_spot isOpen plain short linkless),
    if_neg (Bool.eq_false_iff.mp (Path.join_ending directory plain))]
  rfl

theorem read_too_long (isOpen : Open tree directory place) (plain : Path.Plain name)
    (long : TooLong directory name) :
    tree.readOctets (Path.join directory name) = .error .nameTooLong := by
  rw [readOctets, find, follow_too_long isOpen plain long]
  rfl

theorem read_spot (isOpen : Open tree directory place) (plain : Path.Plain name)
    (short : ¬ TooLong directory name)
    (linkless : ∀ target, tree.entryAt place name ≠ some (.link target)) :
    tree.readOctets (Path.join directory name) =
      match tree.entryAt place name with
      | none => .error .missing
      | some (.directory _) => .error .isDirectory
      | some (.file content _) => .ok content
      | some (.link _) | some .null | some (.stream _) | some (.program _) => .ok ⟨#[]⟩ := by
  rw [readOctets, find_followed (follow_spot isOpen plain short linkless),
    Path.join_ending directory plain, entryAt]
  cases tree.root.at? (name :: place).reverse with
  | none => rfl
  | some node => cases node <;> rfl

/-- What an ordinary path leads to is no link and no device. -/
theorem ordinary_spot (isOpen : Open tree directory place) (plain : Path.Plain name)
    (short : ¬ TooLong directory name)
    (ordinary : tree.ordinaryAt (Path.join directory name) = true) {node : Node}
    (there : tree.entryAt place name = some node) : node.isOrdinary = true := by
  have entry : tree.followEntry (Path.join directory name) =
      .ok (.reach tree.root (name :: place)) := by
    rw [entry_join plain isOpen.clean, if_neg fun long => short (.inl long), isOpen.opened]
    simp only [Except.bind]
    rw [step_spot isOpen plain, if_neg fun wide => short (.inr wide)]
  have here : Trail.node? tree.root (.reach tree.root (name :: place)) = some node := there
  rw [ordinaryAt, findEntry, entry] at ordinary
  simp only [bind, Except.bind, here] at ordinary
  cases node with
  | link target => simp [pure, Except.pure, Node.isOrdinary] at ordinary
  | file | directory | program => rfl
  | null | stream =>
      have linkless : ∀ target, tree.entryAt place name ≠ some (.link target) := by
        intro target link
        simp [there] at link
      have found := find_followed (follow_spot isOpen plain short linkless)
      rw [Path.join_ending directory plain,
        show tree.root.at? (name :: place).reverse = _ from there] at found
      simp [found, Node.isOrdinary] at ordinary

/-- Whether what is written under a name stays under it. -/
def Direct (tree : FileTree) (directory : Text) (place : List Text) (name : Text) : Prop :=
  ¬ TooLong directory name →
    ∀ node, tree.entryAt place name = some node → node.isOrdinary = true

theorem direct_linkless (direct : Direct tree directory place name)
    (short : ¬ TooLong directory name) :
    ∀ target, tree.entryAt place name ≠ some (.link target) := by
  intro target link
  have impossible := direct short _ link
  simp [Node.isOrdinary] at impossible

theorem insert_other {node : Node} (isOpen : Open tree directory place) {other : Text}
    (apart : other ≠ name) :
    (tree.insert (name :: place).reverse node).entryAt place other = tree.entryAt place other := by
  obtain ⟨inner, there⟩ := isOpen.there
  rw [entryAt, entryAt, List.reverse_cons, List.reverse_cons]
  exact Entries.at_put_at_other there apart node

/-- A write that succeeds puts a file where there was none, or another one, and leaves every other
entry as it was. -/
theorem write_direct (isOpen : Open tree directory place) (plain : Path.Plain name)
    (direct : Direct tree directory place name) {content : Octets} {changed : FileTree}
    (written : tree.writeOctets (Path.join directory name) content = .ok changed) :
    ¬ TooLong directory name ∧ Entries.Replaceable (tree.entryAt place name) ∧
      Grows tree changed ∧
      (∃ executable, changed.entryAt place name = some (.file content executable)) ∧
      ∀ other, other ≠ name → changed.entryAt place other = tree.entryAt place other := by
  by_cases long : TooLong directory name
  · simp [write_too_long isOpen plain long] at written
  rw [write_spot isOpen plain long (direct_linkless direct long)] at written
  have inserts : Entries.Replaceable (tree.entryAt place name) ∧ ∃ executable,
      changed = tree.insert (name :: place).reverse (.file content executable) := by
    cases there : tree.entryAt place name with
    | none =>
        simp only [there, Except.ok.injEq] at written
        exact ⟨.missing, false, written.symm⟩
    | some node =>
        have single := direct long node there
        cases node with
        | file old executable =>
            simp only [there, Except.ok.injEq] at written
            exact ⟨.file old executable, executable, written.symm⟩
        | directory inner => simp [there] at written
        | program name => simp [there] at written
        | link | null | stream => simp [Node.isOrdinary] at single
  obtain ⟨replaceable, executable, rfl⟩ := inserts
  have grounded : Trail.Grounded tree.root (name :: place) := ⟨isOpen.there, isOpen.grounded⟩
  obtain ⟨grows, there⟩ := insert_grows grounded replaceable (.file content executable)
  exact ⟨long, replaceable, grows, ⟨executable, there⟩, fun other => insert_other isOpen⟩

theorem read_file (isOpen : Open tree directory place) (plain : Path.Plain name)
    (short : ¬ TooLong directory name) {content : Octets} {executable : Bool}
    (file : tree.entryAt place name = some (.file content executable)) :
    tree.readOctets (Path.join directory name) = .ok content := by
  rw [read_spot isOpen plain short (by simp [file]), file]

/-- An open directory with a path of a possible length is found. -/
theorem open_found (isOpen : Open tree directory place)
    (short : ¬ longestPath < (Text.toOctets directory).size) :
    directory = [] ∨ tree.isDirectory directory = true := by
  by_cases empty : directory = []
  · exact .inl empty
  · obtain ⟨inner, there⟩ := isOpen.there
    refine .inr (isDirectory_iff.mpr ⟨place, inner, ?_, there⟩)
    rw [follow, startOf, if_neg (by simpa using empty), if_neg isOpen.clean, if_neg short]
    exact isOpen.opened

end Spot

/-- What writing files into an open directory leaves as it was: directories and links, and each
entry that is not a file that was written. -/
structure Kept (made tree : FileTree) (place : List Text) : Prop where
  grows : Grows made tree
  entry : ∀ name, tree.entryAt place name = made.entryAt place name ∨
    Entries.Replaceable (made.entryAt place name) ∧
      ∃ content executable, tree.entryAt place name = some (.file content executable)

theorem kept_refl (tree : FileTree) (place : List Text) : Kept tree tree place :=
  ⟨grows_refl tree, fun _ => .inl rfl⟩

section Kept

variable {made tree changed : FileTree} {directory name : Text} {place : List Text}

theorem kept_ordinary (isOpen : Open made directory place) (kept : Kept made tree place)
    (plain : Path.Plain name) (short : ¬ TooLong directory name)
    (ordinary : made.ordinaryAt (Path.join directory name) = true) {node : Node}
    (there : tree.entryAt place name = some node) : node.isOrdinary = true := by
  rcases kept.entry name with same | ⟨_, content, executable, file⟩
  · exact ordinary_spot isOpen plain short ordinary (same ▸ there)
  · rw [there, Option.some.injEq] at file
    rw [file]
    rfl

theorem kept_direct (isOpen : Open made directory place) (kept : Kept made tree place)
    (plain : Path.Plain name) (ordinary : made.ordinaryAt (Path.join directory name) = true) :
    Direct tree directory place name :=
  fun short _ there => kept_ordinary isOpen kept plain short ordinary there

theorem kept_linkless (isOpen : Open made directory place) (kept : Kept made tree place)
    (plain : Path.Plain name) (short : ¬ TooLong directory name)
    (ordinary : made.ordinaryAt (Path.join directory name) = true) :
    ∀ target, tree.entryAt place name ≠ some (.link target) :=
  direct_linkless (kept_direct isOpen kept plain ordinary) short

/-- Whether an entry can be written to does not depend on what was written before. -/
theorem write_status (isOpen : Open made directory place) (kept : Kept made tree place)
    (plain : Path.Plain name) (ordinary : made.ordinaryAt (Path.join directory name) = true)
    (content : Octets) :
    (tree.writeOctets (Path.join directory name) content).map (fun _ => ()) =
      (made.writeOctets (Path.join directory name) content).map fun _ => () := by
  have later := open_grows kept.grows isOpen
  by_cases long : TooLong directory name
  · rw [write_too_long later plain long, write_too_long isOpen plain long]
  · rw [write_spot later plain long (kept_linkless isOpen kept plain long ordinary),
      write_spot isOpen plain long
        (kept_linkless isOpen (kept_refl made place) plain long ordinary)]
    rcases kept.entry name with same | ⟨replaceable, old, executable, file⟩
    · rw [same]
      cases made.entryAt place name with
      | none => rfl
      | some node => cases node <;> rfl
    · rw [file]
      generalize made.entryAt place name = node at replaceable
      cases replaceable <;> rfl

theorem write_kept (isOpen : Open made directory place) (kept : Kept made tree place)
    (plain : Path.Plain name) (ordinary : made.ordinaryAt (Path.join directory name) = true)
    {content : Octets}
    (written : tree.writeOctets (Path.join directory name) content = .ok changed) :
    Kept made changed place ∧ ¬ TooLong directory name ∧
      (∃ executable, changed.entryAt place name = some (.file content executable)) ∧
      ∀ other, other ≠ name → changed.entryAt place other = tree.entryAt place other := by
  obtain ⟨short, replaceable, grows, ⟨executable, there⟩, others⟩ := write_direct
    (open_grows kept.grows isOpen) plain (kept_direct isOpen kept plain ordinary) written
  refine ⟨⟨kept.grows.trans grows, ?_⟩, short, ⟨executable, there⟩, others⟩
  intro other
  by_cases same : other = name
  · subst same
    refine .inr ⟨?_, content, executable, there⟩
    rcases kept.entry other with unchanged | ⟨earlier, _⟩
    · exact unchanged ▸ replaceable
    · exact earlier
  · rw [others other same]
    exact kept.entry other

theorem read_kept (isOpen : Open made directory place) (kept : Kept made tree place)
    (plain : Path.Plain name) (ordinary : made.ordinaryAt (Path.join directory name) = true)
    (short : ¬ TooLong directory name) :
    tree.readOctets (Path.join directory name) =
      match tree.entryAt place name with
      | none => .error .missing
      | some (.directory _) => .error .isDirectory
      | some (.file content _) => .ok content
      | some (.link _) | some .null | some (.stream _) | some (.program _) => .ok ⟨#[]⟩ :=
  read_spot (open_grows kept.grows isOpen) plain short
    (kept_linkless isOpen kept plain short ordinary)

end Kept

/-- Names of entries in a directory that what is written under them goes to. -/
structure Writable (tree : FileTree) (directory name : Text) : Prop where
  plain : Path.Plain name
  ordinary : tree.ordinaryAt (Path.join directory name) = true

/-- What a tree becomes by writing files under such names. -/
inductive Written (made : FileTree) (directory : Text) : FileTree → Prop
  | unchanged : Written made directory made
  | write {tree changed : FileTree} {name : Text} {content : Octets}
      (earlier : Written made directory tree) (writable : Writable made directory name)
      (written : tree.writeOctets (Path.join directory name) content = .ok changed) :
      Written made directory changed

section Written

variable {made tree changed : FileTree} {directory name : Text} {content : Octets}

theorem written_kept {place : List Text} (isOpen : Open made directory place)
    (written : Written made directory tree) : Kept made tree place := by
  induction written with
  | unchanged => exact kept_refl made place
  | write _ writable written kept =>
      exact (write_kept isOpen kept writable.plain writable.ordinary written).1

theorem found_short (found : directory = [] ∨ made.isDirectory directory = true) :
    ¬ longestPath < (Text.toOctets directory).size := by
  rcases found with rfl | present
  · decide
  · obtain ⟨_, _, followed, _⟩ := isDirectory_iff.mp present
    exact (opening_of_follow followed).2.2

/-- The empty path stands for a directory that may have gone. Then nothing can be written. -/
theorem open_or_closed (found : directory = [] ∨ made.isDirectory directory = true) :
    (∃ place, Open made directory place) ∨ ∀ name content, Path.Plain name →
      ∃ error, made.writeOctets (Path.join directory name) content = .error error := by
  have clean : '\x00' ∉ directory := by
    rcases found with rfl | present
    · simp
    · obtain ⟨_, _, followed, _⟩ := isDirectory_iff.mp present
      exact (opening_of_follow followed).2.1
  cases opened : made.opening directory with
  | error error =>
      right
      intro name content plain
      rw [writeOctets, follow_join plain clean, opened]
      split <;> exact ⟨_, rfl⟩
  | ok trail =>
      obtain ⟨place, rfl, grounded, _⟩ := opening_grows (grows_refl made) opened
      by_cases there : ∃ inner, made.root.at? place.reverse = some (.directory inner)
      · exact .inl ⟨place, clean, opened, grounded, there⟩
      · right
        intro name content plain
        have stuck : ∃ error, Trail.step made.root (.reach made.root place) name =
            .error error := by
          cases stepped : Trail.step made.root (.reach made.root place) name with
          | error error => exact ⟨error, rfl⟩
          | ok next =>
              obtain ⟨inner, here⟩ := Trail.step_ok stepped
              exact absurd ⟨inner, (Trail.node_reach _ _).symm.trans here⟩ there
        obtain ⟨error, stepped⟩ := stuck
        rw [writeOctets, follow_join plain clean, opened]
        simp only [Except.bind]
        rw [enter_step, stepped]
        split <;> exact ⟨_, rfl⟩

theorem written_closed
    (closed : ∀ name content, Path.Plain name →
      ∃ error, made.writeOctets (Path.join directory name) content = .error error)
    (written : Written made directory tree) : tree = made := by
  induction written with
  | unchanged => rfl
  | @write tree changed name content _ writable written induction =>
      subst induction
      obtain ⟨error, failed⟩ := closed name content writable.plain
      simp [failed] at written

variable (found : directory = [] ∨ made.isDirectory directory = true)
  (written : Written made directory tree)
include found written

theorem written_status (writable : Writable made directory name) (content : Octets) :
    (tree.writeOctets (Path.join directory name) content).map (fun _ => ()) =
      (made.writeOctets (Path.join directory name) content).map fun _ => () := by
  rcases open_or_closed found with ⟨place, isOpen⟩ | closed
  · exact write_status isOpen (written_kept isOpen written) writable.plain writable.ordinary content
  · rw [written_closed closed written]

/-- A file holds what was written to it, and every other file what it held before. -/
theorem written_reads (writable : Writable made directory name)
    (changes : tree.writeOctets (Path.join directory name) content = .ok changed) :
    changed.readOctets (Path.join directory name) = .ok content ∧
      ∀ other, Writable made directory other → other ≠ name →
        changed.readOctets (Path.join directory other) =
          tree.readOctets (Path.join directory other) := by
  rcases open_or_closed found with ⟨place, isOpen⟩ | closed
  · have kept := written_kept isOpen written
    obtain ⟨later, short, ⟨executable, file⟩, others⟩ :=
      write_kept isOpen kept writable.plain writable.ordinary changes
    constructor
    · exact read_file (open_grows later.grows isOpen) writable.plain short file
    · intro other known apart
      by_cases long : TooLong directory other
      · rw [read_too_long (open_grows later.grows isOpen) known.plain long,
          read_too_long (open_grows kept.grows isOpen) known.plain long]
      · rw [read_kept isOpen later known.plain known.ordinary long,
          read_kept isOpen kept known.plain known.ordinary long, others other apart]
  · rw [written_closed closed written] at changes
    obtain ⟨error, failed⟩ := closed name content writable.plain
    simp [failed] at changes

theorem written_directory : tree.makeDirectories directory = (.ok (), tree) := by
  apply make_directories_exists
  rcases open_or_closed found with ⟨place, isOpen⟩ | closed
  · exact found.imp id (isDirectory_grows (written_kept isOpen written).grows)
  · rw [written_closed closed written]
    exact found

end Written

end FileTree

end ShaderCost
