import ShaderCost.Proofs.Batch.Schedule

/-!
Variants do not get in each other's way. The files of a batch have different names, so that a job
finds in its own files what it wrote, and whether it can write them does not depend on the others.
Whatever the order of their steps, each job comes to what it comes to by itself.
-/

namespace ShaderCost

theorem Stage.extension_length (stage : Stage) : stage.fileExtension.length = 4 := by
  cases stage <;> rfl

theorem Stage.extension_injective {stage wanted : Stage}
    (same : stage.fileExtension = wanted.fileExtension) : stage = wanted := by
  cases stage <;> cases wanted
  · rfl
  · exact absurd same (by decide)
  · exact absurd same (by decide)
  · rfl

namespace Batch

namespace Job

def name (job : Job) (stage : Stage) : Text := safeStem job.stem ++ "." ++ stage.fileExtension

theorem path_eq (job : Job) (stage : Stage) :
    job.path stage = Path.join job.directory (job.name stage) :=
  rfl

theorem name_plain (job : Job) (stage : Stage) : Path.Plain (job.name stage) :=
  stage_name_plain job.stem stage

theorem stem_numbered (job : Job) : EndsNumbered (Text.ofNat job.index) (safeStem job.stem) :=
  ends_numbered_safe (digits_of_nat job.index) (file_stem_numbered job.variant job.index)

theorem index_of_stem {job other : Job} (same : safeStem job.stem = safeStem other.stem) :
    job.index = other.index := by
  have own := job.stem_numbered
  have theirs := other.stem_numbered
  rw [← same] at theirs
  exact ofNat_injective (ends_numbered_unique (digits_of_nat _) (digits_of_nat _) own theirs)

theorem name_injective {job other : Job} {stage wanted : Stage}
    (same : job.name stage = other.name wanted) : job.index = other.index ∧ stage = wanted := by
  rw [name, name] at same
  have sizes := stage.extension_length.trans wanted.extension_length.symm
  obtain ⟨fronts, extensions⟩ := List.append_inj' same sizes
  exact ⟨index_of_stem (List.append_cancel_right fronts), Stage.extension_injective extensions⟩

/-- Whether the file of a stage holds the source of the job. -/
def Holds (job : Job) (tree : FileTree) (stage : Stage) : Prop :=
  tree.readOctets (job.path stage) = .ok (Text.toOctets (job.source stage))

/-- Whether the file of a stage can be written, and why not. -/
def status (job : Job) (tree : FileTree) (stage : Stage) : Except FileError Unit :=
  (tree.writeText (job.path stage) (job.source stage)).map fun _ => ()

/-- What is known of a job that is this far: the files that it has written hold its own sources,
and what it found out is what it would find out by itself. -/
def Standing (compile : Reader) (job : Job) (made tree : FileTree) : Phase → Prop
  | .directory | .file .vertex => True
  | .file .fragment => job.status made .vertex = .ok () ∧ job.Holds tree .vertex
  | .compiling found => (∀ stage, job.status made stage = .ok () ∧ job.Holds tree stage) ∧
      ∀ stage analysis, found stage = some analysis → analysis = job.stageAnalysis compile stage
  | .done (.ok analysis) => (∀ stage, job.status made stage = .ok () ∧ job.Holds tree stage) ∧
      analysis = job.analysis compile
  | .done (.error failure) => ∃ stage cause, job.status made stage = .error cause ∧
      failure = job.failure (.stageFile (job.path stage) cause) ∧
      (stage = .fragment → job.status made .vertex = .ok ())

/-- The compiler runs that a job has behind it. -/
def callsAt (job : Job) : Phase → List Call
  | .compiling found => (if (found .vertex).isSome then [job.call .vertex] else []) ++
      if (found .fragment).isSome then [job.call .fragment] else []
  | .done (.ok _) => job.calls
  | _ => []

theorem standing_mono {compile : Reader} {job : Job} {made tree later : FileTree}
    (keeps : ∀ stage, job.Holds tree stage → job.Holds later stage) {phase : Phase}
    (standing : job.Standing compile made tree phase) : job.Standing compile made later phase := by
  cases phase with
  | directory => trivial
  | file stage =>
      cases stage with
      | vertex => trivial
      | fragment => exact ⟨standing.1, keeps _ standing.2⟩
  | compiling found =>
      exact ⟨fun stage => ⟨(standing.1 stage).1, keeps _ (standing.1 stage).2⟩, standing.2⟩
  | done result =>
      cases result with
      | ok analysis =>
          exact ⟨fun stage => ⟨(standing.1 stage).1, keeps _ (standing.1 stage).2⟩, standing.2⟩
      | error failure => exact standing

/-- A compiler run on a file that holds the source of the job sees this source. -/
theorem sees_own (compile : Reader) {job : Job} {tree : FileTree} {stage : Stage}
    (holds : job.Holds tree stage) :
    job.compiledIn compile tree stage = job.stageAnalysis compile stage ∧
      job.callIn tree stage = job.call stage := by
  rw [compiledIn, callIn, holds]
  exact ⟨rfl, rfl⟩

/-- Once both stages have come to something, this is the analysis of the job. -/
theorem analysis_found {compile : Reader} {job : Job} {found : Stage → Option StageAnalysis}
    (own : ∀ stage analysis, found stage = some analysis →
      analysis = job.stageAnalysis compile stage)
    {vertex fragment : StageAnalysis} (vertexFound : found .vertex = some vertex)
    (fragmentFound : found .fragment = some fragment) :
    .ofStages (some job.variant.key) vertex fragment = job.analysis compile := by
  rw [own _ _ vertexFound, own _ _ fragmentFound]
  rfl

theorem status_ok {job : Job} {tree changed : FileTree} {stage : Stage}
    (written : tree.writeText (job.path stage) (job.source stage) = .ok changed) :
    job.status tree stage = .ok () := by
  rw [status, written]
  rfl

theorem status_error {job : Job} {tree : FileTree} {stage : Stage} {cause : FileError}
    (refused : tree.writeText (job.path stage) (job.source stage) = .error cause) :
    job.status tree stage = .error cause := by
  rw [status, refused]
  rfl

end Job

/-- The compiler runs behind the jobs that were started. -/
def callsOf : List Job → List Phase → List Call
  | [], _ | _ :: _, [] => []
  | job :: jobs, phase :: phases => job.callsAt phase ++ callsOf jobs phases

theorem calls_of_start (jobs : List Job) (phases : List Phase) :
    callsOf jobs (phases ++ [.directory]) = callsOf jobs phases := by
  induction jobs generalizing phases with
  | nil => rfl
  | cons job jobs induction =>
      cases phases with
      | nil => cases jobs <;> rfl
      | cons phase phases => rw [List.cons_append, callsOf, callsOf, induction]

theorem calls_of_set {jobs : List Job} {phases : List Phase} {index : Nat} {job : Job}
    {phase next : Phase} {calls : List Call} (known : jobs[index]? = some job)
    (current : phases[index]? = some phase)
    (more : (job.callsAt phase ++ calls).Perm (job.callsAt next)) :
    (callsOf jobs phases ++ calls).Perm (callsOf jobs (phases.set index next)) := by
  induction jobs generalizing phases index with
  | nil => simp at known
  | cons first jobs induction =>
      cases phases with
      | nil => simp at current
      | cons start phases =>
          cases index with
          | zero =>
              obtain rfl : first = job := by simpa using known
              obtain rfl : start = phase := by simpa using current
              rw [List.set_cons_zero, callsOf, callsOf, List.append_assoc]
              refine (List.perm_append_comm.append_left _).trans ?_
              rw [← List.append_assoc]
              exact more.append_right _
          | succ index =>
              rw [List.set_cons_succ, callsOf, callsOf, List.append_assoc]
              exact (induction known current).append_left _

theorem calls_of_done {jobs : List Job} {phases : List Phase}
    (done : ∀ index, index < jobs.length →
      ∃ analysis, phases[index]? = some (.done (.ok analysis))) :
    callsOf jobs phases = jobs.flatMap Job.calls := by
  induction jobs generalizing phases with
  | nil => rfl
  | cons job jobs induction =>
      obtain ⟨analysis, first⟩ := done 0 (Nat.succ_pos _)
      cases phases with
      | nil => simp at first
      | cons phase phases =>
          obtain rfl : phase = .done (.ok analysis) := by simpa using first
          rw [callsOf, List.flatMap_cons, induction fun index inside =>
            done (index + 1) (Nat.succ_lt_succ inside)]
          rfl

/-- Jobs that stand where their indices say and whose files are ordinary. -/
structure Placed (directory : Text) (made : FileTree) (jobs : List Job) : Prop where
  own : ∀ {index : Nat} {job : Job}, jobs[index]? = some job →
    job.index = index ∧ job.directory = directory
  ordinary : ∀ job ∈ jobs, ∀ stage, made.ordinaryAt (job.path stage) = true

section Interleaving

variable {compile : Reader} {directory : Text} {jobs : List Job} {made : FileTree}
  (placed : Placed directory made jobs)
  (found : directory = [] ∨ made.isDirectory directory = true)

include placed

theorem job_writable {index : Nat} {job : Job} (known : jobs[index]? = some job) (stage : Stage) :
    FileTree.Writable made directory (job.name stage) := by
  refine ⟨job.name_plain stage, ?_⟩
  rw [← (placed.own known).2]
  exact placed.ordinary job (List.mem_of_getElem? known) stage

include found

theorem job_status {tree : FileTree} (written : FileTree.Written made directory tree)
    {index : Nat} {job : Job} (known : jobs[index]? = some job) (stage : Stage) :
    job.status tree stage = job.status made stage := by
  have same := FileTree.written_status found written (job_writable placed known stage)
    (Text.toOctets (job.source stage))
  rw [← (placed.own known).2] at same
  exact same

/-- A file that is written holds the source of its job, and the others hold what they held. -/
theorem job_writes {tree changed : FileTree} (written : FileTree.Written made directory tree)
    {index : Nat} {job : Job} (known : jobs[index]? = some job) {stage : Stage}
    (changes : tree.writeText (job.path stage) (job.source stage) = .ok changed) :
    FileTree.Written made directory changed ∧ job.Holds changed stage ∧
      ∀ {place : Nat} {other : Job} {wanted : Stage}, jobs[place]? = some other →
        (place ≠ index ∨ wanted ≠ stage) → other.Holds tree wanted → other.Holds changed wanted := by
  have writable := job_writable placed known stage
  rw [FileTree.writeText, job.path_eq, (placed.own known).2] at changes
  obtain ⟨holds, others⟩ := FileTree.written_reads found written writable changes
  refine ⟨.write written writable changes, ?_, ?_⟩
  · rw [Job.Holds, job.path_eq, (placed.own known).2]
    exact holds
  · intro place other wanted there apart before
    have different : other.name wanted ≠ job.name stage := by
      intro same
      obtain ⟨indices, stages⟩ := Job.name_injective same
      rw [(placed.own there).1, (placed.own known).1] at indices
      exact apart.elim (· indices) (· stages)
    rw [Job.Holds, other.path_eq, (placed.own there).2] at before ⊢
    rw [others _ (job_writable placed there wanted) different, before]

/-- A job that finds the directory there takes its step as it would by itself, and the files of the
others stay as they are. -/
theorem job_step {tree later : FileTree} (written : FileTree.Written made directory tree)
    {index : Nat} {job : Job} (known : jobs[index]? = some job) {phase next : Phase}
    {calls : List Call} (standing : job.Standing compile made tree phase)
    (step : job.Step compile tree phase later next calls) :
    FileTree.Written made directory later ∧ job.Standing compile made later next ∧
      (∀ {place : Nat} {other : Job} {stage : Stage}, jobs[place]? = some other → place ≠ index →
        other.Holds tree stage → other.Holds later stage) ∧
      (job.callsAt phase ++ calls).Perm (job.callsAt next) := by
  have present := FileTree.written_directory found written
  rw [← (placed.own known).2] at present
  cases step with
  | directoryMade created =>
      obtain ⟨_, rfl⟩ := Prod.mk.inj (present.symm.trans created)
      exact ⟨written, trivial, fun _ _ => id, .refl _⟩
  | directoryRefused refused => simp [present] at refused
  | @fileWritten _ stage changes =>
      obtain ⟨onward, holds, others⟩ := job_writes placed found written known changes
      have possible : job.status made stage = .ok () := by
        rw [← job_status placed found written known stage]
        exact job.status_ok changes
      refine ⟨onward, ?_, fun there apart => others there (.inl apart), ?_⟩
      · cases stage with
        | vertex => exact ⟨possible, holds⟩
        | fragment =>
            refine ⟨?_, fun _ _ nothing => by simp at nothing⟩
            intro stage
            cases stage with
            | vertex => exact ⟨standing.1, others known (.inr (by simp)) standing.2⟩
            | fragment => exact ⟨possible, holds⟩
      · cases stage <;> exact .refl _
  | @fileRefused stage cause refused =>
      have impossible : job.status made stage = .error cause := by
        rw [← job_status placed found written known stage]
        exact job.status_error refused
      refine ⟨written, ⟨stage, cause, impossible, rfl, ?_⟩, fun _ _ => id, ?_⟩
      · rintro rfl
        exact standing.1
      · cases stage <;> exact .refl _
  | @compiled stage seen waiting =>
      obtain ⟨holds, right⟩ := standing
      obtain ⟨own, call⟩ := job.sees_own compile (holds stage).2
      refine ⟨written, ⟨holds, ?_⟩, fun _ _ => id, ?_⟩
      · intro other analysis later
        simp only at later
        split at later
        · rename_i same
          rw [same, ← own, Option.some.inj later]
        · exact right other analysis later
      · rw [call]
        cases stage with
        | vertex =>
            simp only [Job.callsAt, waiting, if_true, Option.isSome_some, Option.isSome_none]
            exact List.perm_append_comm
        | fragment => simp [Job.callsAt, waiting]
  | @joined seen vertex fragment vertexFound fragmentFound =>
      obtain ⟨holds, right⟩ := standing
      refine ⟨written, ⟨holds, job.analysis_found right vertexFound fragmentFound⟩,
        fun _ _ => id, ?_⟩
      simp [Job.callsAt, vertexFound, fragmentFound, Job.calls]

/-- A job by itself comes to what it comes to in the directory that it makes. -/
theorem alone_standing {tree : FileTree} (created : tree.makeDirectories directory = (.ok (), made))
    {index : Nat} {job : Job} (known : jobs[index]? = some job) :
    job.Standing compile made (job.alone compile tree).2 (.done (job.alone compile tree).1) := by
  have there := (placed.own known).2
  have onward : ∀ {tree later : FileTree} {phase last : Phase},
      job.Steps compile tree phase later last → FileTree.Written made directory tree →
      job.Standing compile made tree phase → job.Standing compile made later last := by
    intro tree later phase last steps written standing
    induction steps with
    | here => exact standing
    | onward step rest induction =>
        obtain ⟨changed, next, _, _⟩ := job_step placed found written known standing step
        exact induction changed next
  have steps := job.steps_alone compile tree
  generalize (job.alone compile tree).1 = result at steps ⊢
  generalize (job.alone compile tree).2 = later at steps ⊢
  cases steps with
  | onward step rest =>
      cases step with
      | directoryMade own =>
          rw [there] at own
          obtain ⟨_, rfl⟩ := Prod.mk.inj (created.symm.trans own)
          exact onward rest .unchanged trivial
      | directoryRefused refused =>
          rw [there] at refused
          simp [created] at refused

end Interleaving

/-- What a job comes to is settled by the directory that it writes to. -/
theorem Job.standing_done_unique {compile : Reader} {job : Job} {made tree other : FileTree}
    {result wanted : Except Failure VariantAnalysis}
    (left : job.Standing compile made tree (.done result))
    (right : job.Standing compile made other (.done wanted)) : result = wanted := by
  cases result with
  | ok analysis =>
      cases wanted with
      | ok expected => rw [left.2, right.2]
      | error failure =>
          obtain ⟨stage, cause, refused, _, _⟩ := right
          simp [(left.1 stage).1] at refused
  | error failure =>
      obtain ⟨stage, cause, refused, spelled, first⟩ := left
      cases wanted with
      | ok expected => simp [(right.1 stage).1] at refused
      | error expected =>
          obtain ⟨place, reason, stopped, told, before⟩ := right
          have same : stage = place := by
            cases stage <;> cases place
            · rfl
            · simp [before rfl] at refused
            · simp [first rfl] at stopped
            · rfl
          subst same
          obtain rfl : cause = reason := by simpa [refused] using stopped
          rw [spelled, told]

end Batch

end ShaderCost
