import ShaderCost.Proofs.Batch.Outcome
import ShaderCost.Proofs.Batch.StageFiles
import ShaderCost.Proofs.CommandLine.Running

/-!
Stage files of a whole dump. Whatever the passes are called, the variants of a dump have files of
their own, right in one directory. Whether the sources are only extracted, or analysed as well, each
file holds its own source in the end.
-/

namespace ShaderCost

/-- A path right below a directory. -/
def Path.Child (directory path : Text) : Prop :=
  ∃ name, Path.Plain name ∧ path = Path.join directory name ∧
    Path.names path = Path.names directory ++ [name]

namespace Batch

theorem Job.path_child (job : Job) (stage : Stage) :
    Path.Child job.directory (job.path stage) := by
  refine ⟨job.name stage, job.name_plain stage, job.path_eq stage, ?_⟩
  rw [job.path_eq, Path.names_join job.directory (job.name_plain stage).single]

theorem Job.path_injective {job other : Job} (there : job.directory = other.directory)
    {stage wanted : Stage} (same : job.path stage = other.path wanted) :
    job.index = other.index ∧ stage = wanted := by
  rw [job.path_eq, other.path_eq, there] at same
  exact Job.name_injective (Path.join_injective (job.name_plain stage) (other.name_plain wanted)
    same)

theorem analyze_variants_eq (compile : Compiler.Run) (directory : Text)
    (variants : List Dump.Variant) :
    analyzeVariants compile directory variants = (stageJobs directory variants).mapM
      (saving (fun job => Failure.files job.variant.key) fun job paths =>
        liftM (analyzeFiles compile (some job.variant.key) paths.vertex paths.fragment)) := by
  rw [analyzeVariants, stageJobs, List.mapM_map]
  rfl

theorem analysis_only_compiles (compile : Compiler.Run) (directory : Text) (jobs : List Job)
    (made : FileTree) :
    OnlyCompiles compile directory jobs made fun job paths =>
      (liftM (analyzeFiles compile (some job.variant.key) paths.vertex paths.fragment) :
        Filing Failure VariantAnalysis) := by
  intro job written tree after result reached saved ran
  dsimp only at ran
  rw [filing_lift] at ran
  obtain ⟨_, rfl⟩ := Prod.mk.inj ran
  exact (reached.compiler saved).compiler saved

end Batch

namespace CommandLine

open Batch

theorem extract_variants_eq (directory : Text) (variants : List Dump.Variant) :
    extractVariants directory variants = (stageJobs directory variants).mapM
      (saving (fun _ => Trouble.notSaved) fun job paths =>
        (return ⟨job.variant.label, paths⟩ : Work Extracted)) := by
  rw [extractVariants, stageJobs, List.mapM_map]
  rfl

theorem extraction_only_compiles (compile : Compiler.Run) (directory : Text) (jobs : List Job)
    (made : FileTree) :
    OnlyCompiles compile directory jobs made fun job paths =>
      (return ⟨job.variant.label, paths⟩ : Work Extracted) := by
  intro job written tree after result reached _ ran
  cases ran
  exact reached

/-- The variants of a dump, in the order in which they are numbered. -/
def allVariants (text : Text) : List Dump.Variant := Dump.select (Dump.variants text) true

/-- What a run did that extracted a dump. -/
theorem run_extract {surroundings : Surroundings} {invocation : Invocation}
    {dump directory : Text} (command : invocation.command = .extract dump directory)
    {tree after : FileTree} {reply : Reply}
    (ran : run surroundings invocation tree = (.ok reply, after)) :
    ∃ text extracted, tree.readText dump = .ok text ∧
      extractVariants directory (allVariants text) tree = (.ok extracted, after) := by
  obtain ⟨settings, _, performed⟩ := run_ok ran
  rw [perform, command] at performed
  obtain ⟨text, between, read, performed⟩ := filing_bind_ok performed
  obtain ⟨extracted, last, done, returned⟩ := filing_bind_ok performed
  cases returned
  obtain ⟨found, rfl⟩ := read_file_ok read
  exact ⟨text, extracted, found, done⟩

/-- A run extracts a dump if the settings load, the dump can be read and all files be written. -/
theorem run_extracts {surroundings : Surroundings} {invocation : Invocation}
    {dump directory : Text} (command : invocation.command = .extract dump directory)
    {tree after : FileTree} {settings : Settings} {text : Text} {extracted : List Extracted}
    (loaded : Settings.load tree surroundings.environment
      (invocation.settingsFile surroundings.environment) = .ok settings)
    (read : tree.readText dump = .ok text)
    (saved : extractVariants directory (allVariants text) tree = (.ok extracted, after)) :
    ∃ reply, run surroundings invocation tree = (.ok reply, after) := by
  rw [allVariants] at saved
  rw [run_loaded loaded, perform, command]
  dsimp only
  rw [filing_bind, read_file_eq, read]
  dsimp only [Except.mapError]
  rw [filing_bind, saved]
  exact ⟨_, rfl⟩

/-- The ways in which all stage files of a dump are saved to a directory: the dump is extracted, or
it is analysed with all of its variants by a compiler that leaves the stage files alone, one variant
after another or in the order of some schedule, or the actions of its variants come in any order. -/
inductive Saves (directory text : Text) (tree after : FileTree) : Prop
  | extracted {surroundings : Surroundings} {invocation : Invocation} {dump : Text} {reply : Reply}
      (command : invocation.command = .extract dump directory)
      (read : tree.readText dump = .ok text)
      (ran : run surroundings invocation tree = (.ok reply, after))
  | analyzed {compile : Compiler.Run} {options : Options} {analyses : List VariantAnalysis}
      (there : options.workDirectory = directory) (all : options.includeAllVariants = true)
      (sparing : Sparing compile directory (stageJobs directory (allVariants text))
        (tree.makeDirectories directory).2)
      (ran : analyzeDump compile options text tree = (.ok analyses, after))
  | scheduled {compile : Reader} {options : Options} {machine : Machine}
      {analyses : List VariantAnalysis} (there : options.workDirectory = directory)
      (all : options.includeAllVariants = true)
      (ran : Machine.Run compile options.window (jobsOf options text) (.initial tree) machine)
      (gathered : gather (jobsOf options text).length machine.phases = some (.ok analyses))
      (final : machine.tree = after)
  | interleaved {compile : Compiler.Run} {made : FileTree} {written : List (Job × Stage)}
      (created : tree.makeDirectories directory = (.ok (), made))
      (sparing : Sparing compile directory (stageJobs directory (allVariants text)) made)
      (reached : Reached compile directory (stageJobs directory (allVariants text)) made written
        after)
      (complete : ∀ job ∈ stageJobs directory (allVariants text), ∀ stage, (job, stage) ∈ written)

/-- Whether no link and no device stands where a stage file of a dump goes. -/
def Unlinked (directory text : Text) (tree : FileTree) : Prop :=
  ∀ job ∈ stageJobs directory (allVariants text), ∀ stage,
    (tree.makeDirectories directory).2.ordinaryAt (job.path stage) = true

theorem saves_holds {directory text : Text} {tree after : FileTree}
    (saves : Saves directory text tree after) (unlinked : Unlinked directory text tree) :
    ∀ job ∈ stageJobs directory (allVariants text), ∀ stage, job.Holds after stage := by
  cases saves with
  | extracted command read ran =>
      obtain ⟨content, extracted, reads, done⟩ := run_extract command ran
      obtain rfl : text = content := Except.ok.inj (read.symm.trans reads)
      rw [extract_variants_eq] at done
      -- Extraction runs no compiler, so any that leaves the files alone will do.
      exact savings_hold unlinked (reading_sparing (fun _ _ => .error (.interrupted [])) _ _ _)
        (extraction_only_compiles _ _ _ _) done
  | @analyzed compile options analyses there all sparing ran =>
      have variants : selected options text = allVariants text := by
        rw [selected, all, allVariants]
      rw [analyzeDump, variants, there, analyze_variants_eq] at ran
      exact savings_hold unlinked sparing (analysis_only_compiles _ _ _ _) ran
  | @scheduled compile options machine analyses there all ran gathered final =>
      have jobs : jobsOf options text = stageJobs directory (allVariants text) := by
        rw [jobsOf, selected, all, there, stageJobs, allVariants]
      rw [Unlinked, ← jobs] at unlinked
      rw [← jobs, ← final]
      exact (completed_in_turn compile options text tree (there ▸ unlinked) ran gathered).1.files
  | interleaved created sparing reached complete =>
      intro job member stage
      rw [Unlinked, created] at unlinked
      exact reached_holds (FileTree.make_directories_ok created) unlinked sparing reached
        (complete job member stage)

/-- The stage files of variants, whatever their passes are called, have paths of their own right
below one directory. However the stage files of a dump are saved, where no link stands in their
place, each holds the source of its variant and stage, the same in every way of saving. -/
theorem stage_files_apart (directory text : Text) :
    (∀ (variants : List Dump.Variant) (index place : Nat) (variant other : Dump.Variant)
      (stage wanted : Stage), variants[index]? = some variant → variants[place]? = some other →
        Path.Child directory (stagePath directory (variant.fileStem index) stage) ∧
        (stagePath directory (variant.fileStem index) stage =
          stagePath directory (other.fileStem place) wanted → index = place ∧ stage = wanted)) ∧
    ∀ tree after, Saves directory text tree after → Unlinked directory text tree →
      ∀ (index : Nat) (variant : Dump.Variant), (allVariants text)[index]? = some variant →
        after.readOctets (stagePath directory (variant.fileStem index) .vertex) =
          .ok (Text.toOctets variant.vertexSource) ∧
        after.readOctets (stagePath directory (variant.fileStem index) .fragment) =
          .ok (Text.toOctets variant.fragmentSource) ∧
        ∀ before last, Saves directory text before last → Unlinked directory text before →
          ∀ stage, last.readOctets (stagePath directory (variant.fileStem index) stage) =
            after.readOctets (stagePath directory (variant.fileStem index) stage) := by
  constructor
  · intro variants index place variant other stage wanted _ _
    exact ⟨Job.path_child ⟨directory, variant, index⟩ stage,
      @Job.path_injective ⟨directory, variant, index⟩ ⟨directory, other, place⟩ rfl stage wanted⟩
  · intro tree after saves unlinked index variant known
    have member : (⟨directory, variant, index⟩ : Job) ∈ stageJobs directory (allVariants text) :=
      mem_stage_jobs.mpr ⟨known, rfl⟩
    have holds := saves_holds saves unlinked _ member
    refine ⟨holds .vertex, holds .fragment, ?_⟩
    intro before last others otherUnlinked stage
    have same := saves_holds others otherUnlinked _ member stage
    exact same.trans (holds stage).symm

/-- A tree with a dump of two passes, and a run that extracts it. -/
def dumpTree : FileTree := ⟨[("d.txt", .file (Text.toOctets Dump.twoPasses) false)], []⟩

def extractRun : Invocation :=
  ⟨.text, false, false, some "s.json", .extract "d.txt" "work"⟩

theorem stage_jobs_two_passes : stageJobs "work" (allVariants Dump.twoPasses) =
    [⟨"work", ⟨⟨"A", ""⟩, "v", "f"⟩, 0⟩, ⟨"work", ⟨⟨"B", ""⟩, "w", "g"⟩, 1⟩] :=
  jobs_two_passes

/-- The dump is extracted and, in a tree without files, analysed. -/
theorem stage_files_apart_two_passes :
    ∃ after last, Saves "work" Dump.twoPasses dumpTree after ∧
      Saves "work" Dump.twoPasses ⟨[], []⟩ last ∧
      after.readOctets "work/B_1.frag" = .ok (Text.toOctets "g") ∧
      last.readOctets "work/B_1.frag" = after.readOctets "work/B_1.frag" := by
  have unlinked : ∀ tree ∈ [dumpTree, ⟨[], []⟩], Unlinked "work" Dump.twoPasses tree := by
    have stages : ∀ stage : Stage, stage ∈ [Stage.vertex, .fragment] := by
      intro stage
      cases stage <;> decide
    intro tree member
    rw [Unlinked, stage_jobs_two_passes]
    intro job listed stage
    have here := stages stage
    revert stage job tree
    decide +kernel
  have read : dumpTree.readText "d.txt" = .ok Dump.twoPasses := by
    have octets : dumpTree.readOctets "d.txt" = .ok (Text.toOctets Dump.twoPasses) := rfl
    rw [FileTree.readText, octets]
    simp only [bind, Except.bind, FileTree.octets_spell]
    rfl
  have known : (allVariants Dump.twoPasses)[1]? = some ⟨⟨"B", ""⟩, "w", "g"⟩ := by
    have member : (⟨"work", ⟨⟨"B", ""⟩, "w", "g"⟩, 1⟩ : Job) ∈
        stageJobs "work" (allVariants Dump.twoPasses) := by
      rw [stage_jobs_two_passes]
      exact List.mem_cons_of_mem _ List.mem_cons_self
    exact (mem_stage_jobs.mp member).1
  obtain ⟨files, after, extracted⟩ : ∃ files after,
      extractVariants "work" (allVariants Dump.twoPasses) dumpTree = (.ok files, after) := by
    apply filing_passed
    rw [extract_variants_eq, stage_jobs_two_passes]
    decide +kernel
  obtain ⟨analyses, last, analyzed⟩ : ∃ analyses last,
      analyzeDump (reading repeatSource) pairOptions Dump.twoPasses ⟨[], []⟩ =
        (.ok analyses, last) := by
    apply filing_passed
    rw [analyze_dump_eq, jobs_two_passes]
    decide +kernel
  have first : Saves "work" Dump.twoPasses dumpTree after := by
    have loaded : Settings.load dumpTree ⟨[("HOME", "/home/oracle")]⟩ "s.json" =
      .ok (Settings.default ⟨[("HOME", "/home/oracle")]⟩) := rfl
    obtain ⟨reply, ran⟩ : ∃ reply,
        run ⟨⟨[("HOME", "/home/oracle")]⟩, ⟨0, 0, 0⟩⟩ extractRun dumpTree = (.ok reply, after) :=
      run_extracts rfl loaded read extracted
    exact .extracted rfl read ran
  have second : Saves "work" Dump.twoPasses ⟨[], []⟩ last :=
    .analyzed rfl rfl (reading_sparing _ _ _ _) analyzed
  obtain ⟨_, holds⟩ := stage_files_apart "work" Dump.twoPasses
  obtain ⟨_, fragment, same⟩ := holds dumpTree after first (unlinked _ (by simp)) 1 _ known
  exact ⟨after, last, first, second, fragment,
    same _ _ second (unlinked _ (by simp)) .fragment⟩

end CommandLine

end ShaderCost
