import ShaderCost.Proofs.Batch.Interleaving

/-!
The stage files that jobs leave behind. Jobs make their directory, write their two files and run a
compiler on them, and these actions may come in any order in which a job has written its files
before it runs the compiler. Every action leaves the files alone that were written before, under
other names, so in the end each file holds the source that it was written for.
-/

namespace ShaderCost.Batch

/-- The jobs of variants, each with its place among them. -/
def stageJobs (directory : Text) (variants : List Dump.Variant) : List Job :=
  variants.zipIdx.map fun (variant, index) => ⟨directory, variant, index⟩

theorem mem_stage_jobs {directory : Text} {variants : List Dump.Variant} {job : Job} :
    job ∈ stageJobs directory variants ↔
      variants[job.index]? = some job.variant ∧ job.directory = directory := by
  rw [stageJobs, List.mem_map]
  constructor
  · rintro ⟨⟨variant, index⟩, member, rfl⟩
    exact ⟨List.mem_zipIdx_iff_getElem?.mp member, rfl⟩
  · rintro ⟨known, rfl⟩
    exact ⟨(job.variant, job.index), List.mem_zipIdx_iff_getElem?.mpr known, rfl⟩

/-- A change of the files that leaves a directory open and the entries under the names of stage
files as they are. -/
def Spares (directory : Text) (jobs : List Job) (before after : FileTree) : Prop :=
  ∀ place, FileTree.Open before directory place → FileTree.Open after directory place ∧
    ∀ job ∈ jobs, ∀ stage,
      after.entryAt place (job.name stage) = before.entryAt place (job.name stage)

/-- The trees that jobs come to from one in which their directory was made, and the stage files that
they have written by then. -/
inductive Reached (compile : Compiler.Run) (directory : Text) (jobs : List Job) (made : FileTree) :
    List (Job × Stage) → FileTree → Prop
  | start : Reached compile directory jobs made [] made
  | directory {written : List (Job × Stage)} {tree later : FileTree}
      (earlier : Reached compile directory jobs made written tree)
      (created : tree.makeDirectories directory = (.ok (), later)) :
      Reached compile directory jobs made written later
  | file {written : List (Job × Stage)} {tree changed : FileTree} {job : Job} {stage : Stage}
      (earlier : Reached compile directory jobs made written tree) (member : job ∈ jobs)
      (changes : tree.writeText (job.path stage) (job.source stage) = .ok changed) :
      Reached compile directory jobs made ((job, stage) :: written) changed
  | compiler {written : List (Job × Stage)} {tree : FileTree} {job : Job} {stage : Stage}
      (earlier : Reached compile directory jobs made written tree)
      (saved : ∀ stage, (job, stage) ∈ written) :
      Reached compile directory jobs made written (compile (job.path stage) tree).2

/-- Whether a compiler, where jobs run it, leaves the stage files alone. -/
def Sparing (compile : Compiler.Run) (directory : Text) (jobs : List Job) (made : FileTree) :
    Prop :=
  ∀ {written : List (Job × Stage)} {tree : FileTree},
    Reached compile directory jobs made written tree →
      ∀ {job : Job}, (∀ stage, (job, stage) ∈ written) → ∀ stage,
        Spares directory jobs tree (compile (job.path stage) tree).2

theorem reading_sparing (compile : Reader) (directory : Text) (jobs : List Job) (made : FileTree) :
    Sparing (reading compile) directory jobs made :=
  fun _ _ _ _ _ isOpen => ⟨isOpen, fun _ _ _ => rfl⟩

/-- What jobs keep true of an open directory: the names of stage files lead nowhere else, and
those that were written hold their sources. -/
structure Filed (directory : Text) (jobs : List Job) (place : List Text)
    (written : List (Job × Stage)) (tree : FileTree) : Prop where
  isOpen : FileTree.Open tree directory place
  direct : ∀ job ∈ jobs, ∀ stage, FileTree.Direct tree directory place (job.name stage)
  holds : ∀ {job : Job} {stage : Stage}, (job, stage) ∈ written → job ∈ jobs ∧
    ¬ FileTree.TooLong directory (job.name stage) ∧ ∃ executable,
      tree.entryAt place (job.name stage) =
        some (.file (Text.toOctets (job.source stage)) executable)

section Filing

variable {directory : Text} {variants : List Dump.Variant} {place : List Text}
  {written : List (Job × Stage)} {tree changed : FileTree}

/-- The step of a write: it puts one file in place and leaves the others alone. -/
theorem filed_file (filed : Filed directory (stageJobs directory variants) place written tree)
    {job : Job} (member : job ∈ stageJobs directory variants) {stage : Stage}
    (changes : tree.writeText (job.path stage) (job.source stage) = .ok changed) :
    Filed directory (stageJobs directory variants) place ((job, stage) :: written) changed := by
  rw [FileTree.writeText, job.path_eq, (mem_stage_jobs.mp member).2] at changes
  obtain ⟨short, _, grows, ⟨executable, file⟩, others⟩ := FileTree.write_direct filed.isOpen
    (job.name_plain stage) (filed.direct job member stage) changes
  refine ⟨FileTree.open_grows grows filed.isOpen, ?_, ?_⟩
  · intro other otherMember wanted
    by_cases same : other.name wanted = job.name stage
    · intro _ node there
      rw [same, file, Option.some.injEq] at there
      rw [← there]
      rfl
    · rw [FileTree.Direct, others _ same]
      exact filed.direct other otherMember wanted
  · intro other wanted listed
    rcases List.mem_cons.mp listed with own | before
    · obtain ⟨rfl, rfl⟩ := Prod.mk.inj own
      exact ⟨member, short, executable, file⟩
    · obtain ⟨otherMember, otherShort, held⟩ := filed.holds before
      refine ⟨otherMember, otherShort, ?_⟩
      by_cases same : other.name wanted = job.name stage
      · obtain ⟨indices, rfl⟩ := Job.name_injective same
        have variants := (mem_stage_jobs.mp otherMember).1
        rw [indices, (mem_stage_jobs.mp member).1, Option.some.injEq] at variants
        have sources : other.source wanted = job.source wanted := by
          cases wanted <;> simp only [Job.source, variants]
        exact ⟨executable, by rw [same, sources, file]⟩
      · rw [others _ same]
        exact held

theorem filed_spares {jobs : List Job} (filed : Filed directory jobs place written tree)
    (spares : Spares directory jobs tree changed) :
    Filed directory jobs place written changed := by
  obtain ⟨isOpen, entries⟩ := spares place filed.isOpen
  refine ⟨isOpen, ?_, ?_⟩
  · intro job member stage
    rw [FileTree.Direct, entries job member stage]
    exact filed.direct job member stage
  · intro job stage listed
    obtain ⟨member, short, held⟩ := filed.holds listed
    exact ⟨member, short, entries job member stage ▸ held⟩

end Filing

section Run

variable {compile : Compiler.Run} {directory : Text} {variants : List Dump.Variant}
  {made : FileTree} (found : directory = [] ∨ made.isDirectory directory = true)
  (ordinary : ∀ job ∈ stageJobs directory variants, ∀ stage,
    made.ordinaryAt (job.path stage) = true)
  (sparing : Sparing compile directory (stageJobs directory variants) made)
  {written : List (Job × Stage)} {tree : FileTree}

include found ordinary

/-- A directory that a stage file was written to is open. -/
theorem filed_start {job : Job} (member : job ∈ stageJobs directory variants) {stage : Stage}
    {changed : FileTree}
    (changes : made.writeText (job.path stage) (job.source stage) = .ok changed) :
    ∃ place, Filed directory (stageJobs directory variants) place [] made := by
  rcases FileTree.open_or_closed found with ⟨place, isOpen⟩ | closed
  · refine ⟨place, isOpen, ?_, fun listed => by simp at listed⟩
    intro other otherMember wanted short node there
    have single := ordinary other otherMember wanted
    rw [other.path_eq, (mem_stage_jobs.mp otherMember).2] at single
    exact FileTree.ordinary_spot isOpen (other.name_plain wanted) short single there
  · rw [FileTree.writeText, job.path_eq, (mem_stage_jobs.mp member).2] at changes
    obtain ⟨error, failed⟩ := closed (job.name stage) (Text.toOctets (job.source stage))
      (job.name_plain stage)
    simp [failed] at changes

include sparing

/-- A whole run keeps every file that was written, by induction over its actions. -/
theorem reached_filed
    (reached : Reached compile directory (stageJobs directory variants) made written tree) :
    (written = [] ∧ tree = made) ∨
      ∃ place, Filed directory (stageJobs directory variants) place written tree := by
  induction reached with
  | start => exact .inl ⟨rfl, rfl⟩
  | directory _ created induction =>
      rcases induction with ⟨rfl, rfl⟩ | ⟨place, filed⟩
      · rw [FileTree.make_directories_exists found] at created
        exact .inl ⟨rfl, (Prod.mk.inj created).2.symm⟩
      · have still := FileTree.open_found filed.isOpen (FileTree.found_short found)
        rw [FileTree.make_directories_exists still] at created
        exact .inr ⟨place, (Prod.mk.inj created).2 ▸ filed⟩
  | file _ member changes induction =>
      right
      rcases induction with ⟨rfl, rfl⟩ | ⟨place, filed⟩
      · obtain ⟨place, filed⟩ := filed_start found ordinary member changes
        exact ⟨place, filed_file filed member changes⟩
      · exact ⟨place, filed_file filed member changes⟩
  | @compiler _ _ job stage earlier saved induction =>
      rcases induction with ⟨rfl, _⟩ | ⟨place, filed⟩
      · exact absurd (saved stage) List.not_mem_nil
      · exact .inr ⟨place, filed_spares filed (sparing earlier saved stage)⟩

theorem reached_holds
    (reached : Reached compile directory (stageJobs directory variants) made written tree)
    {job : Job} {stage : Stage} (listed : (job, stage) ∈ written) : job.Holds tree stage := by
  rcases reached_filed found ordinary sparing reached with ⟨rfl, _⟩ | ⟨place, filed⟩
  · exact absurd listed List.not_mem_nil
  · obtain ⟨member, short, executable, file⟩ := filed.holds listed
    rw [Job.Holds, job.path_eq, (mem_stage_jobs.mp member).2]
    exact FileTree.read_file filed.isOpen (job.name_plain stage) short file

end Run

/-! Jobs one after another. -/

section Sequence

variable {compile : Compiler.Run} {directory : Text} {jobs : List Job} {made : FileTree}
  {ε β : Type}

/-- Saves the files of a job and goes on with them. -/
def saving (explain : Job → SaveError → ε) (onward : Job → StagePaths → Filing ε β) (job : Job) :
    Filing ε β := do
  let paths ← ExceptT.adapt (explain job)
    (saveStagePair job.directory job.stem (job.source .vertex) (job.source .fragment))
  onward job paths

variable {explain : Job → SaveError → ε} {onward : Job → StagePaths → Filing ε β}

/-- What saving the files of a job did when it succeeded. -/
theorem save_pair_ok {job : Job} {tree after : FileTree} {paths : StagePaths}
    (saved : saveStagePair job.directory job.stem (job.source .vertex) (job.source .fragment) tree =
      (.ok paths, after)) :
    ∃ made first, tree.makeDirectories job.directory = (.ok (), made) ∧
      made.writeText (job.path .vertex) (job.source .vertex) = .ok first ∧
      first.writeText (job.path .fragment) (job.source .fragment) = .ok after ∧
      paths = ⟨job.path .vertex, job.path .fragment⟩ := by
  rw [save_stage_pair_eq] at saved
  cases created : tree.makeDirectories job.directory with
  | mk result made =>
      rw [created] at saved
      cases result with
      | error cause => cases saved
      | ok _ =>
          simp only at saved
          cases vertex : made.writeText (job.path .vertex) (job.source .vertex) with
          | error cause =>
              rw [vertex] at saved
              cases (Prod.mk.inj saved).1
          | ok first =>
              rw [vertex] at saved
              simp only at saved
              cases fragment : first.writeText (job.path .fragment) (job.source .fragment) with
              | error cause =>
                  rw [fragment] at saved
                  cases (Prod.mk.inj saved).1
              | ok second =>
                  rw [fragment] at saved
                  obtain ⟨pair, rfl⟩ := Prod.mk.inj saved
                  exact ⟨made, first, rfl, vertex, fragment, (Except.ok.inj pair).symm⟩

/-- The directory of a job may as well be made before. -/
theorem saving_made {job : Job} {tree : FileTree}
    (created : tree.makeDirectories job.directory = (.ok (), made)) :
    saving explain onward job tree = saving explain onward job made := by
  have again := FileTree.make_directories_exists (FileTree.make_directories_ok created)
  rw [saving, filing_bind, filing_bind, filing_adapt, filing_adapt, save_stage_pair_eq,
    save_stage_pair_eq, created, again]

theorem saving_ok {job : Job} {tree after : FileTree} {result : β}
    (ran : saving explain onward job tree = (.ok result, after)) :
    ∃ made first second, tree.makeDirectories job.directory = (.ok (), made) ∧
      made.writeText (job.path .vertex) (job.source .vertex) = .ok first ∧
      first.writeText (job.path .fragment) (job.source .fragment) = .ok second ∧
      onward job ⟨job.path .vertex, job.path .fragment⟩ second = (.ok result, after) := by
  rw [saving] at ran
  obtain ⟨paths, second, saved, went⟩ := filing_bind_ok ran
  obtain ⟨made, first, created, vertex, fragment, rfl⟩ := save_pair_ok (filing_adapt_ok saved)
  exact ⟨made, first, second, created, vertex, fragment, went⟩

/-- Whether what follows the saving of a job only runs the compiler on the files of the job. -/
def OnlyCompiles (compile : Compiler.Run) (directory : Text) (jobs : List Job) (made : FileTree)
    (onward : Job → StagePaths → Filing ε β) : Prop :=
  ∀ {job : Job} {written : List (Job × Stage)} {tree after : FileTree} {result : β},
    Reached compile directory jobs made written tree → (∀ stage, (job, stage) ∈ written) →
      onward job ⟨job.path .vertex, job.path .fragment⟩ tree = (.ok result, after) →
        Reached compile directory jobs made written after

variable (there : ∀ job ∈ jobs, job.directory = directory)
  (follows : OnlyCompiles compile directory jobs made onward)

include there follows

theorem saving_reached {job : Job} (member : job ∈ jobs) {written : List (Job × Stage)}
    {tree after : FileTree} {result : β}
    (reached : Reached compile directory jobs made written tree)
    (ran : saving explain onward job tree = (.ok result, after)) :
    Reached compile directory jobs made ((job, .fragment) :: (job, .vertex) :: written) after := by
  obtain ⟨_, _, _, created, vertex, fragment, went⟩ := saving_ok ran
  rw [there job member] at created
  have files := ((reached.directory created).file member vertex).file member fragment
  apply follows files _ went
  intro stage
  cases stage <;> simp

/-- Jobs that succeed one after another write all of their files, by induction on the jobs. -/
theorem savings_reached {rest : List Job} (inside : ∀ job ∈ rest, job ∈ jobs)
    {written : List (Job × Stage)} {tree after : FileTree} {results : List β}
    (reached : Reached compile directory jobs made written tree)
    (ran : rest.mapM (saving explain onward) tree = (.ok results, after)) :
    ∃ all, Reached compile directory jobs made all after ∧ (∀ file ∈ written, file ∈ all) ∧
      ∀ job ∈ rest, ∀ stage, (job, stage) ∈ all := by
  induction rest generalizing written tree results with
  | nil =>
      cases ran
      exact ⟨written, reached, fun _ => id, by simp⟩
  | cons job rest induction =>
      obtain ⟨member, later⟩ := List.forall_mem_cons.mp inside
      rw [List.mapM_cons] at ran
      obtain ⟨result, middle, first, ran⟩ := filing_bind_ok ran
      obtain ⟨others, last, following, returned⟩ := filing_bind_ok ran
      cases returned
      have next := saving_reached there follows member reached first
      obtain ⟨all, reachedAll, kept, complete⟩ := induction later next following
      refine ⟨all, reachedAll, fun file listed => kept file (by simp [listed]), ?_⟩
      rw [List.forall_mem_cons]
      refine ⟨?_, complete⟩
      intro stage
      apply kept
      cases stage <;> simp

end Sequence

/-- When jobs succeed one after another, each stage file holds its source. -/
theorem savings_hold {ε β : Type} {compile : Compiler.Run} {directory : Text}
    {variants : List Dump.Variant} {explain : Job → SaveError → ε}
    {onward : Job → StagePaths → Filing ε β} {tree after : FileTree} {results : List β}
    (ordinary : ∀ job ∈ stageJobs directory variants, ∀ stage,
      (tree.makeDirectories directory).2.ordinaryAt (job.path stage) = true)
    (sparing : Sparing compile directory (stageJobs directory variants)
      (tree.makeDirectories directory).2)
    (follows : OnlyCompiles compile directory (stageJobs directory variants)
      (tree.makeDirectories directory).2 onward)
    (ran : (stageJobs directory variants).mapM (saving explain onward) tree =
      (.ok results, after)) :
    ∀ job ∈ stageJobs directory variants, ∀ stage, job.Holds after stage := by
  have there : ∀ job ∈ stageJobs directory variants, job.directory = directory :=
    fun job member => (mem_stage_jobs.mp member).2
  cases jobs : stageJobs directory variants with
  | nil => simp
  | cons first rest =>
      have head := there first (jobs ▸ List.mem_cons_self)
      have again : ∃ made, tree.makeDirectories directory = (.ok (), made) ∧
          (stageJobs directory variants).mapM (saving explain onward) made =
            (.ok results, after) := by
        rw [jobs, List.mapM_cons] at ran
        obtain ⟨_, _, began, _⟩ := filing_bind_ok ran
        obtain ⟨made, _, _, created, _⟩ := saving_ok began
        refine ⟨made, head ▸ created, ?_⟩
        rw [jobs, List.mapM_cons, filing_bind, ← saving_made created, ← filing_bind]
        exact ran
      obtain ⟨made, created, ran⟩ := again
      rw [created] at ordinary sparing follows
      obtain ⟨all, reached, _, complete⟩ :=
        savings_reached there follows (fun _ => id) .start ran
      intro job member stage
      exact reached_holds (FileTree.make_directories_ok created) ordinary sparing reached
        (complete job (jobs ▸ member) stage)

end ShaderCost.Batch
