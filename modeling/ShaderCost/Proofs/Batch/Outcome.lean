import ShaderCost.Proofs.Batch.Interleaving
import ShaderCost.Proofs.Dump.Selection

/-!
What a batch comes to does not depend on its schedule. Every step keeps each job where it would
stand by itself, so that a batch in which all jobs are done, or all up to the first that fails,
gives what the batch that takes one job after another gives.
-/

namespace ShaderCost.Batch

/-- What a batch keeps true once its directory is there. -/
structure Sound (compile : Reader) (directory : Text) (jobs : List Job) (made : FileTree)
    (machine : Machine) : Prop where
  written : FileTree.Written made directory machine.tree
  standing : ∀ {index : Nat} {job : Job} {phase : Phase}, jobs[index]? = some job →
    machine.phases[index]? = some phase → job.Standing compile made machine.tree phase
  calls : machine.log.Perm (callsOf jobs machine.phases)

/-- What a batch keeps true as long as no job took a step. -/
structure Fresh (tree : FileTree) (machine : Machine) : Prop where
  untouched : machine.tree = tree
  waiting : ∀ phase ∈ machine.phases, phase = .directory
  silent : machine.log = []

theorem calls_of_waiting {jobs : List Job} {phases : List Phase}
    (waiting : ∀ phase ∈ phases, phase = .directory) : callsOf jobs phases = [] := by
  induction jobs generalizing phases with
  | nil => rfl
  | cons job jobs induction =>
      cases phases with
      | nil => rfl
      | cons phase phases =>
          rw [callsOf, waiting phase List.mem_cons_self,
            induction fun other member => waiting other (List.mem_cons_of_mem _ member)]
          rfl

/-- Nothing tells a batch without steps from one that finds the directory there. -/
theorem fresh_sound (compile : Reader) (directory : Text) (jobs : List Job) (made : FileTree)
    {tree : FileTree} {machine : Machine} (fresh : Fresh tree machine) :
    Sound compile directory jobs made { machine with tree := made } where
  written := .unchanged
  standing := by
    intro index job phase _ current
    rw [fresh.waiting phase (List.mem_of_getElem? current)]
    trivial
  calls := by
    rw [fresh.silent, calls_of_waiting fresh.waiting]

theorem get_started {phases : List Phase} {index : Nat} {phase : Phase}
    (current : (phases ++ [.directory])[index]? = some phase) :
    phases[index]? = some phase ∨ phase = .directory := by
  rw [List.getElem?_append] at current
  split at current
  · exact .inl current
  · have member := List.mem_of_getElem? current
    exact .inr (List.mem_singleton.mp member)

theorem get_set {phases : List Phase} {index place : Nat} {phase next : Phase}
    (current : (phases.set index next)[place]? = some phase) :
    place = index ∧ phase = next ∨ place ≠ index ∧ phases[place]? = some phase := by
  by_cases same : place = index
  · subst same
    have inside := (List.getElem?_eq_some_iff.mp current).1
    rw [List.length_set] at inside
    rw [List.getElem?_set_self inside] at current
    exact .inl ⟨rfl, (Option.some.inj current).symm⟩
  · rw [List.getElem?_set_ne (Ne.symm same)] at current
    exact .inr ⟨same, current⟩

section Run

variable {compile : Reader} {window : Nat} {directory : Text} {jobs : List Job}
  {tree made : FileTree} (placed : Placed directory made jobs)
  (created : tree.makeDirectories directory = (.ok (), made))

include placed

theorem sound_step (found : directory = [] ∨ made.isDirectory directory = true)
    {machine next : Machine} (sound : Sound compile directory jobs made machine)
    (step : Machine.Step compile window jobs machine next) :
    Sound compile directory jobs made next := by
  cases step with
  | start room more =>
      refine ⟨sound.written, ?_, ?_⟩
      · intro index job phase known current
        rcases get_started current with before | rfl
        · exact sound.standing known before
        · trivial
      · rw [calls_of_start]
        exact sound.calls
  | @advance index job phase after later calls known current step =>
      obtain ⟨written, standing, others, more⟩ :=
        job_step placed found sound.written known (sound.standing known current) step
      refine ⟨written, ?_, ?_⟩
      · intro place other phase otherKnown otherCurrent
        rcases get_set otherCurrent with ⟨rfl, rfl⟩ | ⟨apart, before⟩
        · obtain rfl : job = other := by simpa [known] using otherKnown
          exact standing
        · exact Job.standing_mono (fun stage => others otherKnown apart)
            (sound.standing otherKnown before)
      · exact (sound.calls.append_right calls).trans (calls_of_set known current more)

include created

theorem fresh_step {machine next : Machine} (fresh : Fresh tree machine)
    (step : Machine.Step compile window jobs machine next) :
    Fresh tree next ∨ Sound compile directory jobs made next := by
  have found := FileTree.make_directories_ok created
  cases step with
  | start room more =>
      left
      refine ⟨fresh.untouched, ?_, fresh.silent⟩
      intro phase member
      rcases List.mem_append.mp member with before | last
      · exact fresh.waiting phase before
      · exact List.mem_singleton.mp last
  | @advance index job phase after later calls known current step =>
      right
      obtain rfl := fresh.waiting phase (List.mem_of_getElem? current)
      rw [fresh.untouched] at step
      have there := (placed.own known).2
      have again : made.makeDirectories job.directory = (.ok (), made) :=
        there ▸ FileTree.make_directories_exists found
      cases step with
      | directoryMade own =>
          rw [there] at own
          obtain ⟨_, rfl⟩ := Prod.mk.inj (created.symm.trans own)
          have step : Machine.Step compile window jobs { machine with tree := made } _ :=
            .advance known current (.directoryMade again)
          exact sound_step placed found (fresh_sound compile directory jobs made fresh) step
      | directoryRefused refused =>
          rw [there] at refused
          simp [created] at refused

theorem run_sound {machine : Machine}
    (run : Machine.Run compile window jobs (.initial tree) machine) :
    Fresh tree machine ∨ Sound compile directory jobs made machine := by
  induction run with
  | here => exact .inl ⟨rfl, fun phase member => by simp [Machine.initial] at member, rfl⟩
  | onward run step induction =>
      rcases induction with fresh | sound
      · exact fresh_step placed created fresh step
      · exact .inr (sound_step placed (FileTree.make_directories_ok created) sound step)

theorem run_done_standing {machine : Machine}
    (run : Machine.Run compile window jobs (.initial tree) machine) {index : Nat} {job : Job}
    {result : Except Failure VariantAnalysis} (known : jobs[index]? = some job)
    (done : machine.phases[index]? = some (.done result)) :
    job.Standing compile made machine.tree (.done result) := by
  rcases run_sound placed created run with fresh | sound
  · have waiting := fresh.waiting _ (List.mem_of_getElem? done)
    simp at waiting
  · exact sound.standing known done

theorem run_done_alone {machine : Machine}
    (run : Machine.Run compile window jobs (.initial tree) machine) {index : Nat} {job : Job}
    {result : Except Failure VariantAnalysis} (known : jobs[index]? = some job)
    (done : machine.phases[index]? = some (.done result)) :
    (job.alone compile tree).1 = result :=
  Job.standing_done_unique
    (alone_standing placed (FileTree.make_directories_ok created) created known)
    (run_done_standing placed created run known done)

theorem run_calls {machine : Machine}
    (run : Machine.Run compile window jobs (.initial tree) machine) :
    machine.log.Perm (callsOf jobs machine.phases) := by
  rcases run_sound placed created run with fresh | sound
  · rw [fresh.silent, calls_of_waiting fresh.waiting]
  · exact sound.calls

end Run

/-- What a batch keeps true when its directory cannot be made. -/
structure Stuck (directory : Text) (jobs : List Job) (machine : Machine) : Prop where
  refuses : ∃ cause changed, machine.tree.makeDirectories directory = (.error cause, changed)
  held : ∀ {index : Nat} {job : Job} {phase : Phase}, jobs[index]? = some job →
    machine.phases[index]? = some phase → phase = .directory ∨
      ∃ cause, phase = .done (.error (job.failure (.stageDirectory directory cause)))

theorem stuck_done {directory : Text} {jobs : List Job} {machine : Machine}
    (stuck : Stuck directory jobs machine) {index : Nat} {job : Job}
    {result : Except Failure VariantAnalysis} (known : jobs[index]? = some job)
    (done : machine.phases[index]? = some (.done result)) :
    ∃ cause, result = .error (job.failure (.stageDirectory directory cause)) := by
  rcases stuck.held known done with waiting | ⟨cause, refused⟩
  · simp at waiting
  · exact ⟨cause, by simpa using refused⟩

section Stuck

variable {compile : Reader} {window : Nat} {directory : Text} {jobs : List Job}
  (there : ∀ job ∈ jobs, job.directory = directory)

include there

theorem stuck_step {machine next : Machine} (stuck : Stuck directory jobs machine)
    (step : Machine.Step compile window jobs machine next) : Stuck directory jobs next := by
  cases step with
  | start room more =>
      refine ⟨stuck.refuses, ?_⟩
      intro index job phase known current
      rcases get_started current with before | waiting
      · exact stuck.held known before
      · exact .inl waiting
  | @advance index job phase after later calls known current step =>
      obtain ⟨cause, changed, failed⟩ := stuck.refuses
      rcases stuck.held known current with rfl | ⟨reason, rfl⟩
      · cases step with
        | directoryMade own =>
            rw [there job (List.mem_of_getElem? known), failed] at own
            simp at own
        | directoryRefused own =>
            rw [there job (List.mem_of_getElem? known)] at own ⊢
            refine ⟨FileTree.make_directories_fails_again own, ?_⟩
            intro place other phase otherKnown otherCurrent
            rcases get_set otherCurrent with ⟨rfl, rfl⟩ | ⟨_, before⟩
            · obtain rfl : job = other := by simpa [known] using otherKnown
              exact .inr ⟨_, rfl⟩
            · exact stuck.held otherKnown before
      · cases step

theorem run_stuck {tree made : FileTree} {cause : FileError}
    (failed : tree.makeDirectories directory = (.error cause, made)) {machine : Machine}
    (run : Machine.Run compile window jobs (.initial tree) machine) :
    Stuck directory jobs machine := by
  induction run with
  | here => exact ⟨⟨cause, made, failed⟩, fun _ current => by simp [Machine.initial] at current⟩
  | onward run step induction => exact stuck_step there induction step

end Stuck

theorem jobs_placed {options : Options} {text : Text} {made : FileTree}
    (ordinary : ∀ job ∈ jobsOf options text, ∀ stage, made.ordinaryAt (job.path stage) = true) :
    Placed options.workDirectory made (jobsOf options text) where
  own := get_jobs_of
  ordinary := ordinary

/-- What a batch leaves behind when every file was written: an analysis of each job in order, one
run of the compiler on each stage, which sees its own source, and the sources in their files. -/
structure Completed (compile : Reader) (jobs : List Job) (machine : Machine)
    (analyses : List VariantAnalysis) : Prop where
  inOrder : analyses = jobs.map (Job.analysis compile)
  calls : machine.log.Perm (jobs.flatMap Job.calls)
  files : ∀ job ∈ jobs, ∀ stage, job.Holds machine.tree stage

/-- The failure of the first job that fails by itself. -/
structure FirstFailure (compile : Reader) (jobs : List Job) (tree : FileTree) (job : Job)
    (failure : Failure) : Prop where
  place : jobs[job.index]? = some job
  own : (job.alone compile tree).1 = .error failure
  earlier : ∀ {index : Nat} {other : Job}, index < job.index → jobs[index]? = some other →
    ∃ analysis, (other.alone compile tree).1 = .ok analysis

theorem first_failure_unique {compile : Reader} {jobs : List Job} {tree : FileTree}
    {job other : Job} {failure cause : Failure} (first : FirstFailure compile jobs tree job failure)
    (second : FirstFailure compile jobs tree other cause) : job = other ∧ failure = cause := by
  have same : job.index = other.index := by
    rcases Nat.lt_trichotomy job.index other.index with before | same | after
    · obtain ⟨analysis, passed⟩ := second.earlier before first.place
      simp [first.own] at passed
    · exact same
    · obtain ⟨analysis, passed⟩ := first.earlier after second.place
      simp [second.own] at passed
  have place := first.place
  rw [same, second.place] at place
  obtain rfl := Option.some.inj place
  exact ⟨rfl, Except.error.inj (second.own.symm.trans first.own).symm⟩

section Outcome

variable {compile : Reader} {window : Nat} {directory : Text} {jobs : List Job}
  {tree made : FileTree} (placed : Placed directory made jobs)
  (created : tree.makeDirectories directory = (.ok (), made)) {machine : Machine}
  (run : Machine.Run compile window jobs (.initial tree) machine)

include placed created run

theorem run_passed {analyses : List VariantAnalysis}
    (gathered : gather jobs.length machine.phases = some (.ok analyses)) :
    ∀ job ∈ jobs, ∃ analysis, (job.alone compile tree).1 = .ok analysis := by
  intro job member
  obtain ⟨index, known⟩ := List.mem_iff_getElem?.mp member
  obtain ⟨analysis, _, done⟩ :=
    (gather_ok gathered).2 index (List.getElem?_eq_some_iff.mp known).1
  exact ⟨analysis, run_done_alone placed created run known done⟩

theorem run_completed {analyses : List VariantAnalysis}
    (gathered : gather jobs.length machine.phases = some (.ok analyses)) :
    Completed compile jobs machine analyses := by
  obtain ⟨size, each⟩ := gather_ok gathered
  have standing : ∀ {index : Nat} {job : Job}, jobs[index]? = some job → ∃ analysis,
      analyses[index]? = some analysis ∧
        job.Standing compile made machine.tree (.done (.ok analysis)) := by
    intro index job known
    obtain ⟨analysis, listed, done⟩ := each index (List.getElem?_eq_some_iff.mp known).1
    exact ⟨analysis, listed, run_done_standing placed created run known done⟩
  refine ⟨?_, ?_, ?_⟩
  · apply List.ext_getElem?
    intro index
    rw [List.getElem?_map]
    cases known : jobs[index]? with
    | none =>
        rw [List.getElem?_eq_none_iff] at known
        exact List.getElem?_eq_none (size ▸ known)
    | some job =>
        obtain ⟨analysis, listed, settled⟩ := standing known
        rw [listed, settled.2]
        rfl
  · have calls : callsOf jobs machine.phases = jobs.flatMap Job.calls := by
      apply calls_of_done
      intro index inside
      obtain ⟨analysis, _, done⟩ := each index inside
      exact ⟨analysis, done⟩
    rw [← calls]
    exact run_calls placed created run
  · intro job member stage
    obtain ⟨index, known⟩ := List.mem_iff_getElem?.mp member
    obtain ⟨analysis, _, settled⟩ := standing known
    exact (settled.1 stage).2

theorem run_failed {failure : Failure}
    (gathered : gather jobs.length machine.phases = some (.error failure)) :
    ∃ job, FirstFailure compile jobs tree job failure := by
  obtain ⟨index, inside, failed, before⟩ := gather_error gathered
  obtain ⟨job, known⟩ : ∃ job, jobs[index]? = some job := ⟨_, List.getElem?_eq_getElem inside⟩
  have place := (placed.own known).1
  refine ⟨job, ⟨place ▸ known, run_done_alone placed created run known failed, ?_⟩⟩
  intro earlier other order otherKnown
  rw [place] at order
  obtain ⟨analysis, passed⟩ := before earlier order
  exact ⟨analysis, run_done_alone placed created run otherKnown passed⟩

end Outcome

section Refused

variable {compile : Reader} {window : Nat} {directory : Text} {jobs : List Job}
  {tree made : FileTree} {cause : FileError}
  (there : ∀ {index : Nat} {job : Job}, jobs[index]? = some job →
    job.index = index ∧ job.directory = directory)
  (failed : tree.makeDirectories directory = (.error cause, made))

include there failed

/-- The first job fails by itself in a directory that cannot be made. -/
theorem first_refused {job : Job} (known : jobs[0]? = some job) :
    FirstFailure compile jobs tree job (job.failure (.stageDirectory directory cause)) := by
  obtain ⟨index, place⟩ := there known
  refine ⟨index ▸ known, ?_, fun before _ => ?_⟩
  · rw [Job.alone_eq, place, failed]
  · rw [index] at before
    exact absurd before (Nat.not_lt_zero _)

theorem run_refused {machine : Machine}
    (run : Machine.Run compile window jobs (.initial tree) machine) {job : Job}
    (known : jobs[0]? = some job) {result : Except Failure (List VariantAnalysis)}
    (gathered : gather jobs.length machine.phases = some result) :
    ∃ reason, result = .error (job.failure (.stageDirectory directory reason)) := by
  have places : ∀ job ∈ jobs, job.directory = directory := by
    intro job member
    obtain ⟨index, known⟩ := List.mem_iff_getElem?.mp member
    exact (there known).2
  have stuck := run_stuck places failed run
  have some := (List.getElem?_eq_some_iff.mp known).1
  cases result with
  | ok analyses =>
      obtain ⟨analysis, _, done⟩ := (gather_ok gathered).2 0 some
      obtain ⟨reason, refused⟩ := stuck_done stuck known done
      simp at refused
  | error failure =>
      obtain ⟨index, inside, done, before⟩ := gather_error gathered
      cases index with
      | zero =>
          obtain ⟨reason, refused⟩ := stuck_done stuck known done
          exact ⟨reason, by rw [Except.error.inj refused]⟩
      | succ index =>
          obtain ⟨analysis, passed⟩ := before 0 (Nat.succ_pos _)
          obtain ⟨reason, refused⟩ := stuck_done stuck known passed
          simp at refused

end Refused

theorem run_nothing {compile : Reader} {window : Nat} {first last : Machine}
    (run : Machine.Run compile window [] first last) : last = first := by
  induction run with
  | here => rfl
  | onward run step induction =>
      cases step with
      | start room more => exact absurd more (Nat.not_lt_zero _)
      | advance known current step => simp at known

theorem sequential_run (compile : Reader) (options : Options) (text : Text) (tree : FileTree) :
    ∃ final, Machine.Run compile options.window (jobsOf options text) (.initial tree) final ∧
      final.tree = (analyzeDump (reading compile) options text tree).2 ∧
      gather (jobsOf options text).length final.phases =
        some (analyzeDump (reading compile) options text tree).1 := by
  have room : 0 < options.window := Nat.lt_of_lt_of_le Nat.one_pos (Nat.le_max_right _ _)
  have split : jobsOf options text = [] ++ jobsOf options text := rfl
  have none : ([] : List VariantAnalysis).length = ([] : List Job).length := rfl
  obtain ⟨final, run, files, gathered⟩ :=
    @Machine.run_in_turn compile options.window _ room _ _ split _ none tree []
  refine ⟨final, run, ?_, ?_⟩
  · rw [analyze_dump_eq, files]
  · rw [analyze_dump_eq, gathered]
    cases (jobsOf options text).mapM (Job.alone compile) tree with
    | mk result later => cases result <;> rfl

/-- A batch that analyses its jobs one after another ends with the first if that fails. -/
theorem first_job_stops {compile : Reader} {options : Options} {text : Text} {tree : FileTree}
    {job : Job} {failure : Failure} (known : (jobsOf options text)[0]? = some job)
    (failed : (job.alone compile tree).1 = .error failure) :
    (analyzeDump (reading compile) options text tree).1 = .error failure := by
  rw [analyze_dump_eq]
  cases jobs : jobsOf options text with
  | nil => simp [jobs] at known
  | cons first rest =>
      obtain rfl : first = job := by simpa [jobs] using known
      rw [List.mapM_cons, filing_bind]
      cases came : first.alone compile tree with
      | mk result later =>
          rw [came] at failed
          simp only at failed
          rw [failed]

section Schedule

variable (compile : Reader) (options : Options) (text : Text) (tree : FileTree)
  (ordinary : ∀ job ∈ jobsOf options text, ∀ stage,
    (tree.makeDirectories options.workDirectory).2.ordinaryAt (job.path stage) = true)
  {machine : Machine}
  (run : Machine.Run compile options.window (jobsOf options text) (.initial tree) machine)

include ordinary run

theorem completed_in_turn {analyses : List VariantAnalysis}
    (gathered : gather (jobsOf options text).length machine.phases = some (.ok analyses)) :
    Completed compile (jobsOf options text) machine analyses ∧
      (analyzeDump (reading compile) options text tree).1 = .ok analyses ∧
      ∀ job ∈ jobsOf options text, ∀ stage,
        job.Holds (analyzeDump (reading compile) options text tree).2 stage := by
  obtain ⟨final, inTurn, files, results⟩ := sequential_run compile options text tree
  rw [← files]
  cases created : tree.makeDirectories options.workDirectory with
  | mk result made =>
      rw [created] at ordinary
      cases result with
      | ok =>
          have placed := jobs_placed ordinary
          have completed := run_completed placed created run gathered
          cases came : (analyzeDump (reading compile) options text tree).1 with
          | ok expected =>
              rw [came] at results
              have sequential := run_completed placed created inTurn results
              refine ⟨completed, ?_, sequential.files⟩
              rw [sequential.inOrder, completed.inOrder]
          | error failure =>
              rw [came] at results
              obtain ⟨job, first⟩ := run_failed placed created inTurn results
              obtain ⟨analysis, alone⟩ :=
                run_passed placed created run gathered job (List.mem_of_getElem? first.place)
              simp [first.own] at alone
      | error cause =>
          cases known : (jobsOf options text)[0]? with
          | some job =>
              obtain ⟨reason, refused⟩ := run_refused get_jobs_of created run known gathered
              simp at refused
          | none =>
              have nothing : jobsOf options text = [] := by simpa using known
              rw [nothing] at run gathered ⊢
              obtain rfl := run_nothing run
              obtain rfl : analyses = [] := by simpa [gather] using gathered.symm
              refine ⟨⟨rfl, .refl _, by simp⟩, ?_, by simp⟩
              rw [analyze_dump_eq, nothing]
              rfl

theorem failed_in_turn {failure : Failure}
    (gathered : gather (jobsOf options text).length machine.phases = some (.error failure)) :
    ∃ job own, FirstFailure compile (jobsOf options text) tree job own ∧
      (analyzeDump (reading compile) options text tree).1 = .error own ∧
      (failure = own ∨ (tree.makeDirectories options.workDirectory).1 ≠ .ok () ∧
        ∃ cause, failure = job.failure (.stageDirectory options.workDirectory cause)) := by
  obtain ⟨final, inTurn, _, results⟩ := sequential_run compile options text tree
  cases created : tree.makeDirectories options.workDirectory with
  | mk result made =>
      rw [created] at ordinary
      cases result with
      | ok =>
          have placed := jobs_placed ordinary
          obtain ⟨job, first⟩ := run_failed placed created run gathered
          refine ⟨job, failure, first, ?_, .inl rfl⟩
          cases came : (analyzeDump (reading compile) options text tree).1 with
          | ok expected =>
              rw [came] at results
              obtain ⟨analysis, alone⟩ :=
                run_passed placed created inTurn results job (List.mem_of_getElem? first.place)
              simp [first.own] at alone
          | error expected =>
              rw [came] at results
              obtain ⟨other, second⟩ := run_failed placed created inTurn results
              rw [(first_failure_unique first second).2]
      | error cause =>
          have some : 0 < (jobsOf options text).length := by
            apply Nat.pos_of_ne_zero
            intro nothing
            simp [nothing, gather] at gathered
          have known := List.getElem?_eq_getElem some
          have first := @first_refused compile _ _ _ _ _ get_jobs_of created _ known
          obtain ⟨reason, refused⟩ := run_refused get_jobs_of created run known gathered
          refine ⟨_, _, first, first_job_stops known first.own, .inr ⟨?_, reason, ?_⟩⟩
          · simp
          · simpa using refused

end Schedule

theorem selected_sorted (options : Options) (text : Text) :
    Dump.KeySorted (selected options text) := by
  have sorted := Dump.select_all_sorted (Dump.variants text)
  rw [selected]
  cases options.includeAllVariants with
  | true => exact sorted
  | false => exact List.Pairwise.sublist (List.take_sublist 1 _) sorted

theorem analyses_keys (compile : Reader) (options : Options) (text : Text) :
    ((jobsOf options text).map (Job.analysis compile)).map VariantAnalysis.variant =
      (selected options text).map fun variant => some variant.key := by
  rw [jobsOf, List.map_map, List.map_map]
  have forget := congrArg (List.map fun variant => some variant.key)
    (List.zipIdx_map_fst 0 (selected options text))
  rw [List.map_map] at forget
  exact forget

/-- However the steps of the variants of a dump fall, as long as no link and no device stands where
a stage file belongs: the batch can always be brought to its end. When every file is written, its
analyses, in the order of the keys, are those of the batch that takes one variant after another;
each stage was compiled once, from its own source, which its file still holds. Otherwise the
failure is that of the first variant that fails by itself; only why the directory cannot be made
may differ, for a first attempt may have made part of it. -/
theorem schedule_independent (compile : Reader) (options : Options) (text : Text) (tree : FileTree)
    (ordinary : ∀ job ∈ jobsOf options text, ∀ stage,
      (tree.makeDirectories options.workDirectory).2.ordinaryAt (job.path stage) = true)
    {machine : Machine}
    (run : Machine.Run compile options.window (jobsOf options text) (.initial tree) machine) :
    (∃ final result, Machine.Run compile options.window (jobsOf options text) machine final ∧
        gather (jobsOf options text).length final.phases = some result) ∧
      (∀ analyses, gather (jobsOf options text).length machine.phases = some (.ok analyses) →
        Completed compile (jobsOf options text) machine analyses ∧
          (analyzeDump (reading compile) options text tree).1 = .ok analyses ∧
          (∀ job ∈ jobsOf options text, ∀ stage,
            job.Holds (analyzeDump (reading compile) options text tree).2 stage) ∧
          analyses.map VariantAnalysis.variant =
            (selected options text).map (fun variant => some variant.key) ∧
          Dump.KeySorted (selected options text)) ∧
      ∀ failure, gather (jobsOf options text).length machine.phases = some (.error failure) →
        ∃ job own, FirstFailure compile (jobsOf options text) tree job own ∧
          (analyzeDump (reading compile) options text tree).1 = .error own ∧
          (failure = own ∨ (tree.makeDirectories options.workDirectory).1 ≠ .ok () ∧
            ∃ cause, failure = job.failure (.stageDirectory options.workDirectory cause)) := by
  have room : 0 < options.window := Nat.lt_of_lt_of_le Nat.one_pos (Nat.le_max_right _ _)
  refine ⟨?_, ?_, ?_⟩
  · exact Machine.run_completes room machine (Machine.run_started run (Nat.zero_le _))
  · intro analyses gathered
    obtain ⟨completed, sequential, files⟩ :=
      completed_in_turn compile options text tree ordinary run gathered
    refine ⟨completed, sequential, files, ?_, selected_sorted options text⟩
    rw [completed.inOrder, analyses_keys]
  · intro failure gathered
    exact failed_in_turn compile options text tree ordinary run gathered

/-- A compiler that repeats what it reads. -/
def repeatSource : Reader := fun _ seen =>
  match seen with
  | .ok octets => .ok ⟨Text.ofOctetsLossy octets, [], .success⟩
  | .error _ => .error (.interrupted [])

/-- Two variants side by side. -/
def pairOptions : Options := ⟨"work", true, 2⟩

theorem jobs_two_passes : jobsOf pairOptions Dump.twoPasses =
    [⟨"work", ⟨⟨"A", ""⟩, "v", "f"⟩, 0⟩, ⟨"work", ⟨⟨"B", ""⟩, "w", "g"⟩, 1⟩] := by
  have sorted : selected pairOptions Dump.twoPasses =
      [⟨⟨"A", ""⟩, "v", "f"⟩, ⟨⟨"B", ""⟩, "w", "g"⟩] := by
    rw [selected, Dump.variants_two_passes]
    apply List.mergeSort_of_pairwise
    decide +kernel
  rw [jobsOf, sorted]
  rfl

/-- Both variants of a dump may be under way before either takes a step. -/
theorem schedule_independent_two_passes :
    ∃ final analyses, Machine.Run repeatSource pairOptions.window
        (jobsOf pairOptions Dump.twoPasses) ⟨⟨[], []⟩, [.directory, .directory], []⟩ final ∧
      gather 2 final.phases = some (.ok analyses) ∧
      (analyzeDump (reading repeatSource) pairOptions Dump.twoPasses ⟨[], []⟩).1 = .ok analyses ∧
      final.log.length = 4 ∧
      final.tree.readOctets "work/B_1.frag" = .ok (Text.toOctets "g") := by
  have started : Machine.Run repeatSource pairOptions.window
      (jobsOf pairOptions Dump.twoPasses) (.initial ⟨[], []⟩)
      ⟨⟨[], []⟩, [.directory, .directory], []⟩ := by
    rw [jobs_two_passes]
    exact .onward (.onward .here (.start (by decide) (by decide))) (.start (by decide) (by decide))
  have ordinary : ∀ job ∈ jobsOf pairOptions Dump.twoPasses, ∀ stage,
      (FileTree.makeDirectories ⟨[], []⟩ pairOptions.workDirectory).2.ordinaryAt
        (job.path stage) = true := by
    rw [jobs_two_passes]
    intro job member stage
    rcases List.mem_cons.mp member with rfl | member
    · cases stage <;> decide +kernel
    · obtain rfl := List.mem_singleton.mp member
      cases stage <;> decide +kernel
  have passes : ∀ job ∈ jobsOf pairOptions Dump.twoPasses,
      (job.alone repeatSource ⟨[], []⟩).1.isOk = true := by
    rw [jobs_two_passes]
    decide +kernel
  obtain ⟨⟨final, result, run, gathered⟩, _, _⟩ :=
    schedule_independent repeatSource pairOptions Dump.twoPasses ⟨[], []⟩ ordinary started
  obtain ⟨_, completed, failed⟩ := schedule_independent repeatSource pairOptions Dump.twoPasses
    ⟨[], []⟩ ordinary (started.trans run)
  cases result with
  | error failure =>
      obtain ⟨job, own, first, _⟩ := failed failure gathered
      have passed := passes job (List.mem_of_getElem? first.place)
      rw [first.own] at passed
      simp [Except.isOk, Except.toBool] at passed
  | ok analyses =>
      obtain ⟨complete, sequential, _⟩ := completed analyses gathered
      refine ⟨final, analyses, run, ?_, sequential, ?_, ?_⟩
      · rw [jobs_two_passes] at gathered
        exact gathered
      · rw [complete.calls.length_eq, jobs_two_passes]
        rfl
      · have holds := complete.files
        rw [jobs_two_passes] at holds
        exact holds _ (List.mem_cons_of_mem _ List.mem_cons_self) .fragment

end ShaderCost.Batch
