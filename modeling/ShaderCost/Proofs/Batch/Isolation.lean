import ShaderCost.Proofs.Batch.Outcome

/-!
Tool failures stay where they are. A compiler that goes by the path of a stage file leaves all
files alone, so that a batch fails where a file cannot be written and nowhere else. What the
compiler makes of one stage file is seen in the analysis of this stage and in the suggestions of
its variant, for no other stage file has the same path.
-/

namespace ShaderCost

namespace VariantAnalysis

def stageOf (analysis : VariantAnalysis) : Stage → StageAnalysis
  | .vertex => analysis.vertex
  | .fragment => analysis.fragment

end VariantAnalysis

namespace Batch

/-- What a compiler makes of a stage file, going by its path alone. -/
abbrev Answer := Text → Except Compiler.Failure Compiler.Output

/-- The compiler as one that may look into the file, but does not. -/
def Answer.reader (answer : Answer) : Reader := fun path _ => answer path

theorem reading_answer (answer : Answer) : reading answer.reader = .ofPath answer := rfl

/-- What a batch reports when every file is written. -/
def reports (answer : Answer) (options : Options) (text : Text) : List VariantAnalysis :=
  (jobsOf options text).map (Job.analysis answer.reader)

namespace Job

/-- Writes the files of a job and has nothing compiled. -/
def save (job : Job) : Filing Failure StagePaths :=
  ExceptT.adapt job.failure
    (saveStagePair job.directory job.stem (job.source .vertex) (job.source .fragment))

/-- A job by itself fails where its files cannot be written, and else comes to its analysis. -/
theorem alone_answer (answer : Answer) (job : Job) (tree : FileTree) :
    job.alone answer.reader tree = match job.save tree with
      | (.ok _, later) => (.ok (job.analysis answer.reader), later)
      | (.error failure, later) => (.error failure, later) := by
  rw [alone_eq, save, filing_adapt, save_stage_pair_eq]
  cases tree.makeDirectories job.directory with
  | mk result made =>
      cases result with
      | error cause => rfl
      | ok =>
          simp only
          cases made.writeText (job.path .vertex) (job.source .vertex) with
          | error cause => rfl
          | ok first =>
              simp only
              cases first.writeText (job.path .fragment) (job.source .fragment) <;> rfl

end Job

/-- Writes the files of jobs in order. -/
def saveAll (jobs : List Job) : Filing Failure (List StagePaths) := jobs.mapM Job.save

/-- A batch that takes one job after another fails as writing alone does, and else reports an
analysis of each job. -/
theorem jobs_answer (answer : Answer) (jobs : List Job) (tree : FileTree) :
    jobs.mapM (Job.alone answer.reader) tree = match saveAll jobs tree with
      | (.ok _, later) => (.ok (jobs.map (Job.analysis answer.reader)), later)
      | (.error failure, later) => (.error failure, later) := by
  rw [saveAll]
  induction jobs generalizing tree with
  | nil => rfl
  | cons job jobs induction =>
      rw [List.mapM_cons, List.mapM_cons, filing_bind, filing_bind, Job.alone_answer]
      cases job.save tree with
      | mk result later =>
          cases result with
          | error failure => rfl
          | ok paths =>
              simp only
              rw [filing_bind, filing_bind, induction]
              cases jobs.mapM Job.save later with
              | mk results last => cases results <;> rfl

theorem dump_answer (answer : Answer) (options : Options) (text : Text) (tree : FileTree) :
    (analyzeDump (.ofPath answer) options text tree).1 =
      (saveAll (jobsOf options text) tree).1.map fun _ => reports answer options text := by
  rw [← reading_answer, analyze_dump_eq, jobs_answer, reports]
  cases saveAll (jobsOf options text) tree with
  | mk result later => cases result <;> rfl

namespace Job

/-- Whether a job can write what it writes next; there may be nothing left to write. -/
def Passes (job : Job) (tree : FileTree) : Phase → Prop
  | .directory => (tree.makeDirectories job.directory).1 = .ok ()
  | .file stage => (tree.writeText (job.path stage) (job.source stage)).isOk = true
  | .compiling _ | .done _ => True

/-- What is known of a job whose files could all be written so far. -/
def Reported (answer : Answer) (job : Job) : Phase → Prop
  | .directory | .file _ => True
  | .compiling found => ∀ stage analysis, found stage = some analysis →
      analysis = job.stageAnalysis answer.reader stage
  | .done result => result = .ok (job.analysis answer.reader)

theorem step_reported {answer : Answer} {job : Job} {tree later : FileTree} {phase next : Phase}
    {calls : List Call} (passes : job.Passes tree phase) (reported : job.Reported answer phase)
    (step : job.Step answer.reader tree phase later next calls) : job.Reported answer next := by
  cases step with
  | directoryMade created => trivial
  | directoryRefused refused => simp [Passes, refused] at passes
  | @fileWritten _ stage written =>
      cases stage with
      | vertex => trivial
      | fragment =>
          intro stage analysis found
          simp at found
  | fileRefused refused => simp [Passes, refused, Except.isOk, Except.toBool] at passes
  | @compiled stage found waiting =>
      intro other analysis came
      simp only at came
      split at came
      · rename_i same
        rw [same, ← Option.some.inj came]
        rfl
      · exact reported other analysis came
  | joined vertexFound fragmentFound =>
      exact congrArg Except.ok (job.analysis_found reported vertexFound fragmentFound)

end Job

namespace Machine

/-- Steps of a batch one after another in which every file that is written can be. -/
inductive Passing (compile : Reader) (window : Nat) (jobs : List Job) : Machine → Machine → Prop
  | here {machine : Machine} : Passing compile window jobs machine machine
  | start {first middle : Machine} (run : Passing compile window jobs first middle)
      (room : middle.underWay < window) (more : middle.phases.length < jobs.length) :
      Passing compile window jobs first { middle with phases := middle.phases ++ [.directory] }
  | advance {first middle : Machine} {index : Nat} {job : Job} {phase next : Phase}
      {tree : FileTree} {calls : List Call} (run : Passing compile window jobs first middle)
      (known : jobs[index]? = some job) (current : middle.phases[index]? = some phase)
      (passes : job.Passes middle.tree phase)
      (step : job.Step compile middle.tree phase tree next calls) :
      Passing compile window jobs first
        ⟨tree, middle.phases.set index next, middle.log ++ calls⟩

variable {window : Nat} {jobs : List Job}

theorem Passing.toRun {compile : Reader} {first last : Machine}
    (passing : Passing compile window jobs first last) : Run compile window jobs first last := by
  induction passing with
  | here => exact .here
  | start _ room more run => exact .onward run (.start room more)
  | advance _ known current _ step run => exact .onward run (.advance known current step)

theorem step_passes {compile : Reader} {job : Job} {tree later : FileTree} {phase next : Phase}
    {calls : List Call} (step : job.Step compile tree phase later next calls)
    (sound : ∀ failure, next ≠ .done (.error failure)) : job.Passes tree phase := by
  cases step with
  | directoryMade created =>
      rw [Job.Passes, created]
  | fileWritten written =>
      rw [Job.Passes, written]
      rfl
  | directoryRefused | fileRefused => exact absurd rfl (sound _)
  | compiled | joined => trivial

/-- A batch in which no job failed could write all its files. -/
theorem run_passing {compile : Reader} {first last : Machine}
    (run : Run compile window jobs first last)
    (sound : ∀ failure, .done (.error failure) ∉ last.phases) :
    Passing compile window jobs first last := by
  induction run with
  | here => exact .here
  | @onward middle last _ step passing =>
      cases step with
      | start room more =>
          exact .start (passing fun failure member => sound failure (List.mem_append_left _ member))
            room more
      | @advance index job phase next later calls known current step =>
          have moved := List.getElem?_set_self (List.getElem?_eq_some_iff.mp current).1 (a := next)
          have passes : job.Passes middle.tree phase := by
            apply step_passes step
            rintro failure rfl
            exact sound failure (List.mem_of_getElem? moved)
          refine .advance (passing ?_) known current passes step
          intro failure member
          obtain ⟨place, there⟩ := List.mem_iff_getElem?.mp member
          by_cases own : place = index
          · -- A job that has failed takes no further step.
            subst own
            obtain rfl := Option.some.inj (current.symm.trans there)
            cases step
          · rw [← List.getElem?_set_ne (Ne.symm own) (a := next)] at there
            exact sound failure (List.mem_of_getElem? there)

theorem passing_reported {answer : Answer} {tree : FileTree} {machine : Machine}
    (passing : Passing answer.reader window jobs (.initial tree) machine) {index : Nat} {job : Job}
    {phase : Phase} (known : jobs[index]? = some job)
    (current : machine.phases[index]? = some phase) : job.Reported answer phase := by
  induction passing generalizing index job phase with
  | here => simp [initial] at current
  | start _ _ _ reported =>
      rcases get_started current with before | rfl
      · exact reported known before
      · trivial
  | advance _ owner before passes step reported =>
      rcases get_set current with ⟨rfl, rfl⟩ | ⟨_, same⟩
      · obtain rfl := Option.some.inj (known.symm.trans owner)
        exact Job.step_reported passes (reported known before) step
      · exact reported known same

/-- Once a batch whose files could all be written has a result, it has an analysis of each job. -/
theorem passing_result {answer : Answer} {tree : FileTree} {machine : Machine}
    (passing : Passing answer.reader window jobs (.initial tree) machine)
    {result : Except Failure (List VariantAnalysis)}
    (gathered : gather jobs.length machine.phases = some result) :
    result = .ok (jobs.map (Job.analysis answer.reader)) := by
  have settled : ∀ {index : Nat} {came : Except Failure VariantAnalysis}
      (inside : index < jobs.length), machine.phases[index]? = some (.done came) →
        came = .ok (jobs[index].analysis answer.reader) := by
    intro index came inside done
    exact passing_reported passing (List.getElem?_eq_getElem inside) done
  cases result with
  | error failure =>
      obtain ⟨index, inside, done, _⟩ := gather_error gathered
      exact absurd (settled inside done) (by simp)
  | ok analyses =>
      obtain ⟨size, each⟩ := gather_ok gathered
      apply congrArg Except.ok
      apply List.ext_getElem (by rw [size, List.length_map])
      intro index inside _
      obtain ⟨analysis, listed, done⟩ := each index (size ▸ inside)
      rw [List.getElem?_eq_getElem inside, Option.some.injEq] at listed
      rw [List.getElem_map, listed]
      exact Except.ok.inj (settled (size ▸ inside) done)

end Machine

/-- The batch that takes one job after another is a schedule on which all files are written, if
they can be. -/
theorem passing_in_turn (answer : Answer) {options : Options} {text : Text} {tree : FileTree}
    {places : List StagePaths} (saved : (saveAll (jobsOf options text) tree).1 = .ok places) :
    ∃ machine, Machine.Passing answer.reader options.window (jobsOf options text) (.initial tree)
        machine ∧
      gather (jobsOf options text).length machine.phases =
        some (.ok (reports answer options text)) := by
  obtain ⟨final, run, _, gathered⟩ := sequential_run answer.reader options text tree
  rw [reading_answer, dump_answer, saved, Except.map] at gathered
  refine ⟨final, Machine.run_passing run ?_, gathered⟩
  intro failure member
  obtain ⟨index, current⟩ := List.mem_iff_getElem?.mp member
  have started := Machine.run_started run (Nat.zero_le _)
  have inside := Nat.lt_of_lt_of_le (List.getElem?_eq_some_iff.mp current).1 started
  obtain ⟨analysis, _, done⟩ := (gather_ok gathered).2 index inside
  simp [done] at current

/-- Whether two lists of analyses are the same but for one stage of one variant and for the
suggestions that this variant gets. -/
structure SameBut (index : Nat) (stage : Stage) (left right : List VariantAnalysis) : Prop where
  others : ∀ place, place ≠ index → left[place]? = right[place]?
  variant : left[index]?.map VariantAnalysis.variant = right[index]?.map VariantAnalysis.variant
  stages : ∀ other, other ≠ stage →
    left[index]?.map (fun analysis => analysis.stageOf other) =
      right[index]?.map fun analysis => analysis.stageOf other

theorem path_unique {options : Options} {text : Text} {index place : Nat} {job other : Job}
    (known : (jobsOf options text)[index]? = some job)
    (otherKnown : (jobsOf options text)[place]? = some other) {stage wanted : Stage}
    (same : job.path stage = other.path wanted) : index = place ∧ stage = wanted := by
  obtain ⟨own, there⟩ := get_jobs_of known
  obtain ⟨otherOwn, otherThere⟩ := get_jobs_of otherKnown
  rw [Job.path_eq, Job.path_eq, there, otherThere] at same
  obtain ⟨indices, stages⟩ := Job.name_injective
    (Path.join_injective (job.name_plain stage) (other.name_plain wanted) same)
  exact ⟨own.symm.trans (indices.trans otherOwn), stages⟩

namespace Job

variable {first second : Answer}

theorem stage_agrees {job : Job} {stage : Stage}
    (agree : first (job.path stage) = second (job.path stage)) :
    job.stageAnalysis first.reader stage = job.stageAnalysis second.reader stage := by
  rw [stageAnalysis, stageAnalysis, Answer.reader, Answer.reader, agree]

theorem analysis_agrees {job : Job}
    (agree : ∀ stage, first (job.path stage) = second (job.path stage)) :
    job.analysis first.reader = job.analysis second.reader := by
  rw [analysis, analysis, stage_agrees (agree .vertex), stage_agrees (agree .fragment)]

theorem analysis_stage (compile : Reader) (job : Job) (stage : Stage) :
    (job.analysis compile).stageOf stage = job.stageAnalysis compile stage := by
  cases stage <;> rfl

end Job

/-- Compilers that differ at one path differ in what is reported of the stage whose file has it. -/
theorem reports_agree (options : Options) (text : Text) {first second : Answer} {path : Text}
    (agree : ∀ other, other ≠ path → first other = second other) :
    reports first options text = reports second options text ∨
      ∃ (job : Job) (stage : Stage), (jobsOf options text)[job.index]? = some job ∧
        job.path stage = path ∧
        SameBut job.index stage (reports first options text) (reports second options text) := by
  by_cases owned : ∃ job ∈ jobsOf options text, ∃ stage, job.path stage = path
  · obtain ⟨job, member, stage, own⟩ := owned
    obtain ⟨index, known⟩ := List.mem_iff_getElem?.mp member
    obtain ⟨rfl, _⟩ := get_jobs_of known
    refine .inr ⟨job, stage, known, own, ?_, ?_, ?_⟩
    · intro place apart
      rw [reports, reports, List.getElem?_map, List.getElem?_map]
      cases there : (jobsOf options text)[place]? with
      | none => rfl
      | some other =>
          apply congrArg some
          apply Job.analysis_agrees
          intro wanted
          apply agree
          intro same
          exact apart (path_unique there known (same.trans own.symm)).1
    · rw [reports, reports, List.getElem?_map, List.getElem?_map, known]
      rfl
    · intro other apart
      rw [reports, reports, List.getElem?_map, List.getElem?_map, known]
      simp only [Option.map_some, Job.analysis_stage, Option.some.injEq]
      apply Job.stage_agrees
      apply agree
      intro same
      exact apart (path_unique known known (same.trans own.symm)).2
  · left
    apply List.map_congr_left
    intro job member
    apply Job.analysis_agrees
    intro stage
    apply agree
    intro same
    exact owned ⟨job, member, stage, same⟩

/-- Whatever a compiler answers, a batch that takes one variant after another fails as writing the
files alone does, and else comes to an analysis of each variant; and so does a batch on any schedule
on which every file can be written. Two compilers that differ at one path lead to the same
analyses, but for the stage whose file has this path and the suggestions of its variant. -/
theorem tool_failures_isolated (options : Options) (text : Text) (tree : FileTree)
    {first second : Answer} {path : Text}
    (agree : ∀ other, other ≠ path → first other = second other) :
    (∀ answer : Answer,
      (reports answer options text).length = (selected options text).length ∧
      (analyzeDump (.ofPath answer) options text tree).1 =
        (saveAll (jobsOf options text) tree).1.map (fun _ => reports answer options text) ∧
      ∀ machine, Machine.Passing answer.reader options.window (jobsOf options text)
          (.initial tree) machine →
        (∃ final result,
          Machine.Run answer.reader options.window (jobsOf options text) machine final ∧
            gather (jobsOf options text).length final.phases = some result) ∧
        ∀ result, gather (jobsOf options text).length machine.phases = some result →
          result = .ok (reports answer options text)) ∧
    (reports first options text = reports second options text ∨
      ∃ (job : Job) (stage : Stage), (jobsOf options text)[job.index]? = some job ∧
        job.path stage = path ∧
        SameBut job.index stage (reports first options text) (reports second options text)) := by
  refine ⟨?_, reports_agree options text agree⟩
  intro answer
  have room : 0 < options.window := Nat.lt_of_lt_of_le Nat.one_pos (Nat.le_max_right _ _)
  refine ⟨?_, dump_answer answer options text tree, ?_⟩
  · rw [reports, List.length_map, jobsOf, List.length_map, List.length_zipIdx]
  · intro machine passing
    refine ⟨Machine.run_completes room machine
      (Machine.run_started passing.toRun (Nat.zero_le _)), ?_⟩
    intro result gathered
    exact Machine.passing_result passing gathered

/-- A compiler that reports the same of every file. -/
def steady : Answer := fun _ => .ok ⟨"Work registers: 40", [], .success⟩

/-- A compiler that never comes back from one file. -/
def stalling : Answer := fun path =>
  if path = "work/B_1.vert" then .ok ⟨[], [], .timedOut⟩ else steady path

theorem tool_failures_isolated_two_passes :
    (∀ other, other ≠ "work/B_1.vert".toList → steady other = stalling other) ∧
      ∃ left right,
        (analyzeDump (.ofPath steady) pairOptions Dump.twoPasses ⟨[], []⟩).1 = .ok left ∧
        (analyzeDump (.ofPath stalling) pairOptions Dump.twoPasses ⟨[], []⟩).1 = .ok right ∧
        (∃ machine, Machine.Passing stalling.reader pairOptions.window
            (jobsOf pairOptions Dump.twoPasses) (.initial ⟨[], []⟩) machine ∧
          gather (jobsOf pairOptions Dump.twoPasses).length machine.phases = some (.ok right)) ∧
        left.length = 2 ∧ right.length = 2 ∧ left ≠ right ∧ SameBut 1 .vertex left right := by
  have agree : ∀ other, other ≠ "work/B_1.vert".toList → steady other = stalling other := by
    intro other apart
    rw [stalling, if_neg apart]
  have different : reports steady pairOptions Dump.twoPasses ≠
      reports stalling pairOptions Dump.twoPasses := by
    intro same
    have outcome := congrArg (fun found : List VariantAnalysis =>
      found[1]?.map fun analysis => analysis.vertex.isSuccess) same
    simp only [reports, jobs_two_passes] at outcome
    exact absurd outcome (by decide +kernel)
  have saved : (saveAll (jobsOf pairOptions Dump.twoPasses) ⟨[], []⟩).1.isOk = true := by
    rw [jobs_two_passes]
    decide +kernel
  have count : (selected pairOptions Dump.twoPasses).length = 2 := by
    have size := congrArg List.length jobs_two_passes
    rwa [jobsOf, List.length_map, List.length_zipIdx] at size
  obtain ⟨answers, apart⟩ := tool_failures_isolated pairOptions Dump.twoPasses ⟨[], []⟩ agree
  obtain ⟨steadySize, steadyResult, _⟩ := answers steady
  obtain ⟨stallingSize, stallingResult, _⟩ := answers stalling
  cases came : (saveAll (jobsOf pairOptions Dump.twoPasses) ⟨[], []⟩).1 with
  | error failure => simp [came, Except.isOk, Except.toBool] at saved
  | ok places =>
      rw [came] at steadyResult stallingResult
      refine ⟨agree, _, _, steadyResult, stallingResult, passing_in_turn stalling came,
        steadySize.trans count, stallingSize.trans count, different, ?_⟩
      rcases apart with same | ⟨job, stage, known, own, isolated⟩
      · exact absurd same different
      · rw [jobs_two_passes] at known
        rcases List.mem_cons.mp (List.mem_of_getElem? known) with rfl | second
        · cases stage <;> exact absurd own (by decide +kernel)
        · obtain rfl := List.mem_singleton.mp second
          cases stage with
          | vertex => exact isolated
          | fragment => exact absurd own (by decide +kernel)

end Batch

end ShaderCost
