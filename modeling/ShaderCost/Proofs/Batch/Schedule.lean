import ShaderCost.Batch
import ShaderCost.Proofs.Files.Filing
import ShaderCost.Proofs.Files.Writing
import ShaderCost.Proofs.Stem

/-!
Variants that are analysed side by side. Each takes its steps in order: it makes sure that the
directory exists, writes its two files, has each of them compiled, and joins what came of that. The
steps of different variants may fall in any order, as long as no more variants are under way than
the batch allows; the results are taken in the order of the variants, up to the first failure.
-/

namespace ShaderCost.Batch

/-- A compiler that goes by the path of a stage file and by what it finds in it. -/
abbrev Reader := Text → Except FileError Octets → Except Compiler.Failure Compiler.Output

/-- The compiler runs of a reader. They leave the files as they are. -/
def reading (compile : Reader) : Compiler.Run := fun path tree =>
  (compile path (tree.readOctets path), tree)

/-- A variant to analyse, under the stem that its index gives it. -/
structure Job where
  directory : Text
  variant : Dump.Variant
  index : Nat

/-- One run of the compiler: what it was run for, and what it saw in the stage file. -/
structure Call where
  index : Nat
  stage : Stage
  path : Text
  seen : Except FileError Octets

namespace Job

def stem (job : Job) : Text := job.variant.fileStem job.index

def path (job : Job) (stage : Stage) : Text := stagePath job.directory job.stem stage

def source (job : Job) : Stage → Text
  | .vertex => job.variant.vertexSource
  | .fragment => job.variant.fragmentSource

def failure (job : Job) (cause : SaveError) : Failure := .files job.variant.key cause

/-- The job as it is when no other job has a part in it. -/
def alone (compile : Reader) (job : Job) : Filing Failure VariantAnalysis :=
  analyzeVariant (reading compile) job.directory job.variant job.stem

/-- What a stage comes to when the compiler sees what its file holds. -/
def compiledIn (compile : Reader) (job : Job) (tree : FileTree) (stage : Stage) : StageAnalysis :=
  .ofRun stage (job.path stage) (compile (job.path stage) (tree.readOctets (job.path stage)))

/-- The compiler run of a stage that sees what its file holds. -/
def callIn (job : Job) (tree : FileTree) (stage : Stage) : Call :=
  ⟨job.index, stage, job.path stage, tree.readOctets (job.path stage)⟩

/-- What a stage comes to when the compiler sees its own source. -/
def stageAnalysis (compile : Reader) (job : Job) (stage : Stage) : StageAnalysis :=
  .ofRun stage (job.path stage) (compile (job.path stage) (.ok (Text.toOctets (job.source stage))))

def analysis (compile : Reader) (job : Job) : VariantAnalysis :=
  .ofStages (some job.variant.key) (job.stageAnalysis compile .vertex)
    (job.stageAnalysis compile .fragment)

/-- The compiler run of a stage that sees its own source. -/
def call (job : Job) (stage : Stage) : Call :=
  ⟨job.index, stage, job.path stage, .ok (Text.toOctets (job.source stage))⟩

def calls (job : Job) : List Call := [job.call .vertex, job.call .fragment]

end Job

/-- How far a job is. -/
inductive Phase where
  | directory
  | file (stage : Stage)
  | compiling (found : Stage → Option StageAnalysis)
  | done (result : Except Failure VariantAnalysis)

/-- What comes after the file of a stage is written. -/
def Phase.afterFile : Stage → Phase
  | .vertex => .file .fragment
  | .fragment => .compiling fun _ => none

/-- One step of a job, with the compiler runs in it. Both stages are compiled at once, so either
may come first. -/
inductive Job.Step (compile : Reader) (job : Job) :
    FileTree → Phase → FileTree → Phase → List Call → Prop
  | directoryMade {tree made : FileTree}
      (created : tree.makeDirectories job.directory = (.ok (), made)) :
      Step compile job tree .directory made (.file .vertex) []
  | directoryRefused {tree made : FileTree} {cause : FileError}
      (refused : tree.makeDirectories job.directory = (.error cause, made)) :
      Step compile job tree .directory made
        (.done (.error (job.failure (.stageDirectory job.directory cause)))) []
  | fileWritten {tree changed : FileTree} {stage : Stage}
      (written : tree.writeText (job.path stage) (job.source stage) = .ok changed) :
      Step compile job tree (.file stage) changed (.afterFile stage) []
  | fileRefused {tree : FileTree} {stage : Stage} {cause : FileError}
      (refused : tree.writeText (job.path stage) (job.source stage) = .error cause) :
      Step compile job tree (.file stage) tree
        (.done (.error (job.failure (.stageFile (job.path stage) cause)))) []
  | compiled {tree : FileTree} {stage : Stage} {found : Stage → Option StageAnalysis}
      (waiting : found stage = none) :
      Step compile job tree (.compiling found) tree
        (.compiling fun other =>
          if other = stage then some (job.compiledIn compile tree stage) else found other)
        [job.callIn tree stage]
  | joined {tree : FileTree} {found : Stage → Option StageAnalysis}
      {vertex fragment : StageAnalysis} (vertexFound : found .vertex = some vertex)
      (fragmentFound : found .fragment = some fragment) :
      Step compile job tree (.compiling found) tree
        (.done (.ok (.ofStages (some job.variant.key) vertex fragment))) []

/-- The files, how far each job is that was started, and the compiler runs so far. -/
structure Machine where
  tree : FileTree
  phases : List Phase
  log : List Call

namespace Phase

def isDone : Phase → Bool
  | .done _ => true
  | _ => false

end Phase

namespace Machine

def initial (tree : FileTree) : Machine := ⟨tree, [], []⟩

/-- How many jobs are under way. -/
def underWay (machine : Machine) : Nat := machine.phases.countP fun phase => !phase.isDone

/-- One step of the batch: the next job is started if there is room, or a job takes a step. -/
inductive Step (compile : Reader) (window : Nat) (jobs : List Job) : Machine → Machine → Prop
  | start {machine : Machine} (room : machine.underWay < window)
      (more : machine.phases.length < jobs.length) :
      Step compile window jobs machine
        { machine with phases := machine.phases ++ [.directory] }
  | advance {machine : Machine} {index : Nat} {job : Job} {phase next : Phase} {tree : FileTree}
      {calls : List Call} (known : jobs[index]? = some job)
      (current : machine.phases[index]? = some phase)
      (step : job.Step compile machine.tree phase tree next calls) :
      Step compile window jobs machine ⟨tree, machine.phases.set index next, machine.log ++ calls⟩

/-- Steps of a batch one after another. -/
inductive Run (compile : Reader) (window : Nat) (jobs : List Job) : Machine → Machine → Prop
  | here {machine : Machine} : Run compile window jobs machine machine
  | onward {first middle last : Machine} (run : Run compile window jobs first middle)
      (step : Step compile window jobs middle last) : Run compile window jobs first last

end Machine

/-- The results of so many jobs in order: all of them, or the first failure. There is none yet
while a job before it is not done. -/
def gather : (count : Nat) → List Phase → Option (Except Failure (List VariantAnalysis))
  | 0, _ => some (.ok [])
  | count + 1, .done (.ok analysis) :: rest => (gather count rest).map (Except.map (analysis :: ·))
  | _ + 1, .done (.error failure) :: _ => some (.error failure)
  | _ + 1, _ => none

/-- The jobs of the variants that a batch takes up. -/
def jobsOf (options : Options) (text : Text) : List Job :=
  (selected options text).zipIdx.map fun (variant, index) =>
    ⟨options.workDirectory, variant, index⟩

theorem get_jobs_of {options : Options} {text : Text} {index : Nat} {job : Job}
    (known : (jobsOf options text)[index]? = some job) :
    job.index = index ∧ job.directory = options.workDirectory := by
  rw [jobsOf, List.getElem?_map, List.getElem?_zipIdx, Nat.zero_add, Option.map_map,
    Option.map_eq_some_iff] at known
  obtain ⟨variant, _, rfl⟩ := known
  exact ⟨rfl, rfl⟩

theorem gather_ok {count : Nat} {phases : List Phase} {analyses : List VariantAnalysis}
    (gathered : gather count phases = some (.ok analyses)) :
    analyses.length = count ∧ ∀ index, index < count → ∃ analysis,
      analyses[index]? = some analysis ∧ phases[index]? = some (.done (.ok analysis)) := by
  fun_induction gather count phases generalizing analyses with
  | case1 phases =>
      rw [Option.some.injEq, Except.ok.injEq] at gathered
      subst gathered
      exact ⟨rfl, fun index before => absurd before (Nat.not_lt_zero index)⟩
  | case2 count analysis rest induction =>
      rw [Option.map_eq_some_iff] at gathered
      obtain ⟨result, inner, mapped⟩ := gathered
      cases result with
      | error failure => simp [Except.map] at mapped
      | ok later =>
          simp only [Except.map, Except.ok.injEq] at mapped
          subst mapped
          obtain ⟨size, each⟩ := induction inner
          refine ⟨by rw [List.length_cons, size], ?_⟩
          intro index before
          cases index with
          | zero => exact ⟨analysis, rfl, rfl⟩
          | succ index => exact each index (Nat.lt_of_succ_lt_succ before)
  | case3 count failure rest => simp at gathered
  | case4 count phases notOk notError => simp at gathered

theorem gather_error {count : Nat} {phases : List Phase} {failure : Failure}
    (gathered : gather count phases = some (.error failure)) :
    ∃ index, index < count ∧ phases[index]? = some (.done (.error failure)) ∧
      ∀ earlier, earlier < index → ∃ analysis, phases[earlier]? = some (.done (.ok analysis)) := by
  fun_induction gather count phases with
  | case1 phases => simp at gathered
  | case2 count analysis rest induction =>
      rw [Option.map_eq_some_iff] at gathered
      obtain ⟨result, inner, mapped⟩ := gathered
      cases result with
      | ok later => simp [Except.map] at mapped
      | error cause =>
          simp only [Except.map, Except.error.injEq] at mapped
          subst mapped
          obtain ⟨index, inside, found, before⟩ := induction inner
          refine ⟨index + 1, Nat.succ_lt_succ inside, found, ?_⟩
          intro earlier order
          cases earlier with
          | zero => exact ⟨analysis, rfl⟩
          | succ earlier => exact before earlier (Nat.lt_of_succ_lt_succ order)
  | case3 count cause rest =>
      simp only [Option.some.injEq, Except.error.injEq] at gathered
      subst gathered
      exact ⟨0, Nat.succ_pos _, rfl, fun earlier order => absurd order (Nat.not_lt_zero earlier)⟩
  | case4 count phases notOk notError => simp at gathered

/-- Results that are there already come before the later ones. -/
theorem gather_append (before : List VariantAnalysis) (count : Nat) (phases : List Phase) :
    gather (before.length + count) ((before.map fun analysis => .done (.ok analysis)) ++ phases) =
      (gather count phases).map (Except.map (before ++ ·)) := by
  induction before with
  | nil =>
      rw [List.length_nil, Nat.zero_add, List.map_nil, List.nil_append]
      cases gather count phases with
      | none => rfl
      | some result => cases result <;> rfl
  | cons analysis before induction =>
      rw [List.length_cons, Nat.add_right_comm, List.map_cons, List.cons_append, gather, induction]
      cases gather count phases with
      | none => rfl
      | some result => cases result <;> rfl

theorem gather_done {phases : List Phase} (all : ∀ phase ∈ phases, phase.isDone = true)
    {count : Nat} (enough : count ≤ phases.length) : ∃ result, gather count phases = some result := by
  induction phases generalizing count with
  | nil =>
      obtain rfl : count = 0 := Nat.le_zero.mp enough
      exact ⟨_, rfl⟩
  | cons phase phases induction =>
      cases count with
      | zero => exact ⟨_, rfl⟩
      | succ count =>
          have single := all phase List.mem_cons_self
          cases phase with
          | done result =>
              cases result with
              | error failure => exact ⟨_, rfl⟩
              | ok analysis =>
                  obtain ⟨result, later⟩ := induction
                    (fun other member => all other (List.mem_cons_of_mem _ member))
                    (Nat.le_of_succ_le_succ enough)
                  exact ⟨_, by rw [gather, later, Option.map_some]⟩
          | directory | file | compiling => simp [Phase.isDone] at single

theorem Job.step_exists (compile : Reader) (job : Job) (tree : FileTree) {phase : Phase}
    (unfinished : phase.isDone = false) :
    ∃ later next calls, job.Step compile tree phase later next calls := by
  cases phase with
  | directory =>
      cases created : tree.makeDirectories job.directory with
      | mk result made =>
          cases result with
          | ok => exact ⟨_, _, _, .directoryMade created⟩
          | error cause => exact ⟨_, _, _, .directoryRefused created⟩
  | file stage =>
      cases written : tree.writeText (job.path stage) (job.source stage) with
      | ok changed => exact ⟨_, _, _, .fileWritten written⟩
      | error cause => exact ⟨_, _, _, .fileRefused written⟩
  | compiling found =>
      cases vertex : found .vertex with
      | none => exact ⟨_, _, _, .compiled vertex⟩
      | some first =>
          cases fragment : found .fragment with
          | none => exact ⟨_, _, _, .compiled fragment⟩
          | some second => exact ⟨_, _, _, .joined vertex fragment⟩
  | done result => simp [Phase.isDone] at unfinished

/-- At most how many steps a job still takes. -/
def Phase.stepsLeft : Phase → Nat
  | .directory => 6
  | .file .vertex => 5
  | .file .fragment => 4
  | .compiling found =>
      1 + (if (found .vertex).isNone then 1 else 0) + if (found .fragment).isNone then 1 else 0
  | .done _ => 0

theorem Phase.file_steps_left (stage : Stage) : 4 ≤ (Phase.file stage).stepsLeft ∧
    (Phase.afterFile stage).stepsLeft < (Phase.file stage).stepsLeft := by
  cases stage <;> simp [afterFile, stepsLeft]

theorem Job.step_decreases {compile : Reader} {job : Job} {tree later : FileTree}
    {phase next : Phase} {calls : List Call} (step : job.Step compile tree phase later next calls) :
    next.stepsLeft < phase.stepsLeft := by
  cases step with
  | directoryMade =>
      simp only [Phase.stepsLeft]
      omega
  | directoryRefused =>
      simp only [Phase.stepsLeft]
      omega
  | fileWritten => exact (Phase.file_steps_left _).2
  | @fileRefused stage =>
      have left := (Phase.file_steps_left stage).1
      simp only [Phase.stepsLeft] at left ⊢
      omega
  | @compiled stage found waiting =>
      cases stage <;> simp only [Phase.stepsLeft, waiting] <;> simp
  | joined =>
      simp only [Phase.stepsLeft]
      omega

namespace Machine

variable {compile : Reader} {window : Nat} {jobs : List Job}

/-- At most how many steps the jobs that were started still take. -/
def startedLeft : List Phase → Nat
  | [] => 0
  | phase :: phases => phase.stepsLeft + startedLeft phases

/-- At most how many steps a batch still takes. -/
def stepsLeft (count : Nat) (machine : Machine) : Nat :=
  7 * (count - machine.phases.length) + startedLeft machine.phases

theorem started_left_start (phases : List Phase) :
    startedLeft (phases ++ [.directory]) = startedLeft phases + 6 := by
  induction phases with
  | nil => rfl
  | cons phase phases induction => rw [List.cons_append, startedLeft, startedLeft, induction,
      Nat.add_assoc]

theorem started_left_set {phases : List Phase} {index : Nat} {phase next : Phase}
    (current : phases[index]? = some phase) (fewer : next.stepsLeft < phase.stepsLeft) :
    startedLeft (phases.set index next) < startedLeft phases := by
  induction phases generalizing index with
  | nil => simp at current
  | cons first phases induction =>
      cases index with
      | zero =>
          obtain rfl : first = phase := by simpa using current
          simp only [List.set_cons_zero, startedLeft]
          omega
      | succ index =>
          have later := induction (by simpa using current : phases[index]? = some phase)
          simp only [List.set_cons_succ, startedLeft]
          omega

theorem step_decreases {machine next : Machine} (step : Step compile window jobs machine next) :
    next.stepsLeft jobs.length < machine.stepsLeft jobs.length := by
  cases step with
  | start room more =>
      simp only [stepsLeft, List.length_append, List.length_singleton, started_left_start]
      omega
  | advance known current step =>
      have fewer := started_left_set current (Job.step_decreases step)
      simp only [stepsLeft, List.length_set]
      omega

theorem Run.trans {first middle last : Machine} (early : Run compile window jobs first middle)
    (late : Run compile window jobs middle last) : Run compile window jobs first last := by
  induction late with
  | here => exact early
  | onward _ step induction => exact .onward induction step

theorem run_started {machine last : Machine} (run : Run compile window jobs machine last)
    (bound : machine.phases.length ≤ jobs.length) : last.phases.length ≤ jobs.length := by
  induction run with
  | here => exact bound
  | onward _ step started =>
      cases step with
      | start room more =>
          rw [List.length_append, List.length_singleton]
          exact more
      | advance known current step =>
          rw [List.length_set]
          exact started

theorem step_exists (room : 0 < window) {machine : Machine}
    (bound : machine.phases.length ≤ jobs.length) (pending : gather jobs.length machine.phases = none) :
    ∃ next, Step compile window jobs machine next := by
  by_cases all : ∀ phase ∈ machine.phases, phase.isDone = true
  · by_cases more : machine.phases.length < jobs.length
    · refine ⟨_, .start ?_ more⟩
      have none : machine.underWay = 0 := by
        rw [underWay, List.countP_eq_zero]
        intro phase member
        simp [all phase member]
      rw [none]
      exact room
    · obtain ⟨result, gathered⟩ := gather_done all (Nat.not_lt.mp more)
      rw [gathered] at pending
      simp at pending
  · obtain ⟨phase, waiting⟩ := Classical.not_forall.mp all
    obtain ⟨member, waiting⟩ := Classical.not_imp.mp waiting
    obtain ⟨index, inside, current⟩ := List.mem_iff_getElem.mp member
    have known : index < jobs.length := Nat.lt_of_lt_of_le inside bound
    obtain ⟨later, next, calls, step⟩ :=
      Job.step_exists compile jobs[index] machine.tree (Bool.not_eq_true _ ▸ waiting)
    exact ⟨_, .advance (List.getElem?_eq_getElem known)
      (current ▸ List.getElem?_eq_getElem inside) step⟩

theorem run_completes (room : 0 < window) (machine : Machine)
    (bound : machine.phases.length ≤ jobs.length) :
    ∃ final result, Run compile window jobs machine final ∧
      gather jobs.length final.phases = some result := by
  induction left : machine.stepsLeft jobs.length using Nat.strongRecOn generalizing machine with
  | ind left induction =>
      cases gathered : gather jobs.length machine.phases with
      | some result => exact ⟨machine, result, .here, gathered⟩
      | none =>
          obtain ⟨next, step⟩ := @step_exists compile _ _ room _ bound gathered
          have run : Run compile window jobs machine next := .onward .here step
          obtain ⟨final, result, rest, complete⟩ := induction _
            (left ▸ step_decreases step) next (run_started run bound) rfl
          exact ⟨final, result, run.trans rest, complete⟩

end Machine

/-- Saving the two files of a job, with all that can go wrong. -/
theorem save_stage_pair_eq (job : Job) (tree : FileTree) :
    saveStagePair job.directory job.stem (job.source .vertex) (job.source .fragment) tree =
      match tree.makeDirectories job.directory with
      | (.error cause, made) => (.error (.stageDirectory job.directory cause), made)
      | (.ok (), made) =>
          match made.writeText (job.path .vertex) (job.source .vertex) with
          | .error cause => (.error (.stageFile (job.path .vertex) cause), made)
          | .ok first =>
              match first.writeText (job.path .fragment) (job.source .fragment) with
              | .error cause => (.error (.stageFile (job.path .fragment) cause), first)
              | .ok second => (.ok ⟨job.path .vertex, job.path .fragment⟩, second) := by
  rw [saveStagePair, filing_bind, filing_directories]
  cases tree.makeDirectories job.directory with
  | mk result made =>
      cases result with
      | error cause => rfl
      | ok =>
          simp only
          rw [filing_bind, filing_write]
          rw [show stagePath job.directory job.stem .vertex = job.path .vertex from rfl]
          cases made.writeText (job.path .vertex) (job.source .vertex) with
          | error cause => rfl
          | ok first =>
              simp only
              rw [filing_bind, filing_write]
              rw [show stagePath job.directory job.stem .fragment = job.path .fragment from rfl]
              cases first.writeText (job.path .fragment) (job.source .fragment) <;> rfl

theorem analyze_files_eq (compile : Reader) (job : Job) (tree : FileTree) :
    analyzeFiles (reading compile) (some job.variant.key) (job.path .vertex) (job.path .fragment)
      tree = (.ofStages (some job.variant.key) (job.compiledIn compile tree .vertex)
        (job.compiledIn compile tree .fragment), tree) :=
  rfl

theorem Job.alone_eq (compile : Reader) (job : Job) (tree : FileTree) :
    job.alone compile tree = match tree.makeDirectories job.directory with
      | (.error cause, made) =>
          (.error (job.failure (.stageDirectory job.directory cause)), made)
      | (.ok (), made) =>
          match made.writeText (job.path .vertex) (job.source .vertex) with
          | .error cause => (.error (job.failure (.stageFile (job.path .vertex) cause)), made)
          | .ok first =>
              match first.writeText (job.path .fragment) (job.source .fragment) with
              | .error cause =>
                  (.error (job.failure (.stageFile (job.path .fragment) cause)), first)
              | .ok second =>
                  (.ok (.ofStages (some job.variant.key) (job.compiledIn compile second .vertex)
                    (job.compiledIn compile second .fragment)), second) := by
  have saved := save_stage_pair_eq job tree
  simp only [source] at saved
  rw [alone, analyzeVariant, filing_bind, filing_adapt, saved]
  simp only [source]
  cases tree.makeDirectories job.directory with
  | mk result made =>
      cases result with
      | error cause => rfl
      | ok =>
          simp only
          cases made.writeText (job.path .vertex) job.variant.vertexSource with
          | error cause => rfl
          | ok first =>
              simp only
              cases first.writeText (job.path .fragment) job.variant.fragmentSource with
              | error cause => rfl
              | ok second =>
                  simp only
                  rw [filing_lift, analyze_files_eq]

/-- Steps of one job, with no step of another between them. -/
inductive Job.Steps (compile : Reader) (job : Job) : FileTree → Phase → FileTree → Phase → Prop
  | here {tree : FileTree} {phase : Phase} : Steps compile job tree phase tree phase
  | onward {tree middle later : FileTree} {phase next last : Phase} {calls : List Call}
      (step : job.Step compile tree phase middle next calls)
      (rest : Steps compile job middle next later last) : Steps compile job tree phase later last

theorem Job.steps_compiling (compile : Reader) (job : Job) (tree : FileTree) :
    job.Steps compile tree (.compiling fun _ => none) tree
      (.done (.ok (.ofStages (some job.variant.key) (job.compiledIn compile tree .vertex)
        (job.compiledIn compile tree .fragment)))) := by
  have vertexFirst := @Job.Step.compiled compile job tree .vertex (fun _ => none) rfl
  have fragmentNext := @Job.Step.compiled compile job tree .fragment
    (fun other => if other = .vertex then some (job.compiledIn compile tree .vertex) else none) rfl
  exact .onward vertexFirst (.onward fragmentNext (.onward (.joined rfl rfl) .here))

/-- The steps of a job in a row come to what the job comes to by itself. -/
theorem Job.steps_alone (compile : Reader) (job : Job) (tree : FileTree) :
    job.Steps compile tree .directory (job.alone compile tree).2
      (.done (job.alone compile tree).1) := by
  rw [Job.alone_eq]
  cases created : tree.makeDirectories job.directory with
  | mk result made =>
      cases result with
      | error cause => exact .onward (.directoryRefused created) .here
      | ok =>
          refine .onward (.directoryMade created) ?_
          simp only
          cases first : made.writeText (job.path .vertex) (job.source .vertex) with
          | error cause => exact .onward (.fileRefused first) .here
          | ok changed =>
              refine .onward (.fileWritten first) ?_
              simp only
              cases second : changed.writeText (job.path .fragment) (job.source .fragment) with
              | error cause => exact .onward (.fileRefused second) .here
              | ok last => exact .onward (.fileWritten second) (job.steps_compiling compile last)

theorem analyze_dump_eq (compile : Reader) (options : Options) (text : Text) :
    analyzeDump (reading compile) options text = (jobsOf options text).mapM (Job.alone compile) := by
  rw [analyzeDump, analyzeVariants, jobsOf, List.mapM_map]
  rfl

namespace Machine

variable {compile : Reader} {window : Nat} {jobs : List Job}

theorem advance_last {tree later : FileTree} {before : List Phase} {log calls : List Call}
    {job : Job} {phase next : Phase} (known : jobs[before.length]? = some job)
    (step : job.Step compile tree phase later next calls) :
    Step compile window jobs ⟨tree, before ++ [phase], log⟩
      ⟨later, before ++ [next], log ++ calls⟩ := by
  have current : (before ++ [phase])[before.length]? = some phase := List.getElem?_concat_length
  have moved : before ++ [next] = (before ++ [phase]).set before.length next := by
    rw [List.set_append_right _ _ (Nat.le_refl _), Nat.sub_self, List.set_cons_zero]
  rw [moved]
  exact .advance known current step

theorem run_steps {tree later : FileTree} {before : List Phase} {job : Job} {phase last : Phase}
    (known : jobs[before.length]? = some job) (steps : job.Steps compile tree phase later last)
    (log : List Call) : ∃ calls, Run compile window jobs ⟨tree, before ++ [phase], log⟩
      ⟨later, before ++ [last], calls⟩ := by
  induction steps generalizing log with
  | here => exact ⟨log, .here⟩
  | onward step rest induction =>
      obtain ⟨calls, run⟩ := induction (log ++ _)
      exact ⟨calls, (Run.onward .here (advance_last known step)).trans run⟩

/-- A job is started and let through to its end while no other is under way. -/
theorem run_job (room : 0 < window) {tree : FileTree} {before : List Phase} {job : Job}
    (finished : ∀ phase ∈ before, phase.isDone = true)
    (known : jobs[before.length]? = some job) (log : List Call) :
    ∃ calls, Run compile window jobs ⟨tree, before, log⟩
      ⟨(job.alone compile tree).2, before ++ [.done (job.alone compile tree).1], calls⟩ := by
  have none : underWay ⟨tree, before, log⟩ = 0 := by
    rw [underWay, List.countP_eq_zero]
    intro phase member
    simp [finished phase member]
  have more : before.length < jobs.length := (List.getElem?_eq_some_iff.mp known).1
  have start : Run compile window jobs ⟨tree, before, log⟩ ⟨tree, before ++ [.directory], log⟩ :=
    .onward .here (.start (none ▸ room) more)
  obtain ⟨calls, run⟩ := @run_steps _ window _ _ _ _ _ _ _ known (job.steps_alone compile tree) log
  exact ⟨calls, start.trans run⟩

/-- The batch that analyses its jobs one after another is a run like any other. -/
theorem run_in_turn (room : 0 < window) {front rest : List Job} (split : jobs = front ++ rest)
    {before : List VariantAnalysis} (finished : before.length = front.length) (tree : FileTree)
    (log : List Call) :
    ∃ final, Run compile window jobs ⟨tree, before.map fun analysis => .done (.ok analysis), log⟩
        final ∧
      final.tree = (rest.mapM (Job.alone compile) tree).2 ∧
      gather jobs.length final.phases =
        some ((rest.mapM (Job.alone compile) tree).1.map (before ++ ·)) := by
  induction rest generalizing front before tree log with
  | nil =>
      refine ⟨_, .here, rfl, ?_⟩
      have gathered := gather_append before 0 []
      rw [List.append_nil, Nat.add_zero, finished] at gathered
      rw [split, List.append_nil, gathered]
      rfl
  | cons job rest induction =>
      have known : jobs[(before.map fun analysis => Phase.done (.ok analysis)).length]? =
          some job := by
        rw [List.length_map, finished, split, List.getElem?_append_right (Nat.le_refl _),
          Nat.sub_self, List.getElem?_cons_zero]
      have all : ∀ phase ∈ before.map fun analysis => Phase.done (.ok analysis),
          phase.isDone = true := by
        intro phase member
        obtain ⟨analysis, _, rfl⟩ := List.mem_map.mp member
        rfl
      obtain ⟨calls, run⟩ := @run_job compile _ _ room tree _ _ all known log
      rw [List.mapM_cons, filing_bind]
      cases came : job.alone compile tree with
      | mk result later =>
          rw [came] at run
          cases result with
          | error failure =>
              refine ⟨_, run, rfl, ?_⟩
              have total : jobs.length = before.length + (rest.length + 1) := by
                rw [split, List.length_append, List.length_cons, finished]
              rw [total, gather_append]
              rfl
          | ok analysis =>
              have whole : jobs = (front ++ [job]) ++ rest := by
                rw [split, List.append_assoc, List.singleton_append]
              have longer : (before ++ [analysis]).length = (front ++ [job]).length := by
                rw [List.length_append, List.length_append, finished]
                rfl
              obtain ⟨final, onward, files, gathered⟩ := induction whole longer later calls
              rw [List.map_append] at onward
              simp only
              rw [filing_bind]
              refine ⟨final, run.trans onward, ?_, ?_⟩
              · rw [files]
                cases rest.mapM (Job.alone compile) later with
                | mk results last => cases results <;> rfl
              · rw [gathered]
                cases rest.mapM (Job.alone compile) later with
                | mk results last =>
                    cases results with
                    | error failure => rfl
                    | ok analyses =>
                        simp only [Except.map, List.append_assoc, List.singleton_append]
                        rfl

end Machine

end ShaderCost.Batch
