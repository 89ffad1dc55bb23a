import ShaderCost.Proofs.Calendar
import ShaderCost.Proofs.Files.Filing
import ShaderCost.Proofs.Stem

/-!
The files of reports. A report goes to a file of its own, unless another one has the same stem and
was made in the same local second; the stamp behind a stem has a fixed length, so a stem that looks
like a stamp is not taken for one. The names of one shader's reports are in the order of time.
-/

namespace ShaderCost

def reportPath (directory shader : Text) (moment : Calendar.Moment) : Text :=
  Path.join directory (reportName shader moment)

/-- How a report is saved: its directory is made, and then it is written to one path. -/
theorem save_report_cases {directory shader contents : Text} {moment : Calendar.Moment}
    {tree after : FileTree} {outcome : Except SaveError Text}
    (ran : saveReport directory shader contents moment tree = (outcome, after)) :
    (∃ cause, tree.makeDirectories directory = (.error cause, after) ∧
      outcome = .error (.reportDirectory directory cause)) ∨
    ∃ made, tree.makeDirectories directory = (.ok (), made) ∧
      ((made.writeText (reportPath directory shader moment) contents = .ok after ∧
          outcome = .ok (reportPath directory shader moment)) ∨
        ∃ cause, made.writeText (reportPath directory shader moment) contents = .error cause ∧
          after = made ∧
          outcome = .error (.reportFile (reportPath directory shader moment) cause)) := by
  rw [saveReport, filing_bind, filing_directories] at ran
  cases there : tree.makeDirectories directory with
  | mk result made =>
      rw [there] at ran
      cases result with
      | error cause =>
          obtain ⟨rfl, rfl⟩ := Prod.mk.inj ran
          exact .inl ⟨cause, rfl, rfl⟩
      | ok _ =>
          refine .inr ⟨made, rfl, ?_⟩
          simp only [filing_bind, filing_write] at ran
          cases written : made.writeText (reportPath directory shader moment) contents with
          | error cause =>
              rw [reportPath] at written
              rw [written] at ran
              obtain ⟨rfl, rfl⟩ := Prod.mk.inj ran
              exact .inr ⟨cause, rfl, rfl, rfl⟩
          | ok changed =>
              rw [reportPath] at written
              rw [written] at ran
              obtain ⟨rfl, rfl⟩ := Prod.mk.inj ran
              exact .inl ⟨rfl, rfl⟩

section Names

variable {moment later : Calendar.Moment} (year : moment.FourDigits)

include year

theorem report_name_plain (shader : Text) : Path.Plain (reportName shader moment) := by
  rw [reportName, List.append_assoc, List.append_assoc]
  apply stem_name_plain
  intro c member
  have digit {c : Char} (decimal : c.isDigit = true) := (digit_keeps decimal).1
  rw [Calendar.file_stamp_eq year.1] at member
  simp only [List.mem_append, List.mem_cons] at member
  rcases member with under | (date | under | clock) | ending
  · exact .inr (by simpa using under)
  · exact .inl (digit (Calendar.Date.digits_decimal _ c date))
  · exact .inr under
  · exact .inl (digit (Calendar.Local.digits_decimal _ c clock))
  · have letters : List.all (".md" : Text) isStemChar = true := by decide
    exact .inl (List.all_eq_true.mp letters c ending)

variable (yearLater : later.FourDigits)

include yearLater

/-- The stem and the stamp can be told from a name, as the stamp has a fixed length. -/
theorem report_name_parts {shader other : Text}
    (same : reportName shader moment = reportName other later) :
    safeStem shader = safeStem other ∧ moment.fileStamp = later.fileStamp := by
  rw [reportName, reportName] at same
  have sizes : moment.fileStamp.length = later.fileStamp.length := by
    rw [Calendar.file_stamp_length year, Calendar.file_stamp_length yearLater]
  obtain ⟨stems, stamps⟩ := List.append_inj' (List.append_cancel_right same) sizes
  exact ⟨List.append_cancel_right stems, stamps⟩

theorem report_name_before (offset : moment.offset = later.offset)
    (order : moment.seconds < later.seconds) (shader : Text) :
    List.Lex (· < ·) (Text.octetNumbers (reportName shader moment))
      (Text.octetNumbers (reportName shader later)) := by
  rw [reportName, reportName, List.append_assoc, List.append_assoc _ later.fileStamp,
    Text.octet_numbers_append (safeStem shader ++ "_"),
    Text.octet_numbers_append (safeStem shader ++ "_"), Text.lex_append_left]
  exact Calendar.file_stamp_lex year yearLater (Calendar.to_local_precedes offset order) _ _

end Names

/-- A report is written to the path that its shader and its moment give, and to no other. In the
years of four digits two reports share a path exactly if their stems are the same and so are their
local dates and times, to the second. At one offset the names of a shader's reports, as octets, are
in the order of the seconds. -/
theorem reports_by_shader_and_second (directory shader other : Text)
    {moment later : Calendar.Moment} (year : moment.FourDigits) (yearLater : later.FourDigits) :
    (∀ name time contents tree path after,
      saveReport directory name contents time tree = (.ok path, after) →
        path = reportPath directory name time ∧ ∃ made,
          tree.makeDirectories directory = (.ok (), made) ∧
            made.writeText path contents = .ok after) ∧
    (∀ name time contents tree path cause after,
      saveReport directory name contents time tree = (.error (.reportFile path cause), after) →
        path = reportPath directory name time) ∧
    (reportPath directory shader moment = reportPath directory other later ↔
      safeStem shader = safeStem other ∧ moment.toLocal = later.toLocal) ∧
    (moment.offset = later.offset →
      (List.Lex (· < ·) (Text.octetNumbers (reportName shader moment))
        (Text.octetNumbers (reportName shader later)) ↔ moment.seconds < later.seconds)) := by
  refine ⟨?_, ?_, ⟨?_, ?_⟩, ?_⟩
  · intro name time contents tree path after saved
    rcases save_report_cases saved with
      ⟨_, _, failed⟩ | ⟨made, there, ⟨written, done⟩ | ⟨_, _, _, failed⟩⟩
    · simp at failed
    · obtain rfl := Except.ok.inj done
      exact ⟨rfl, made, there, written⟩
    · simp at failed
  · intro name time contents tree path cause after refused
    rcases save_report_cases refused with
      ⟨_, _, failed⟩ | ⟨made, there, ⟨_, done⟩ | ⟨_, _, _, failed⟩⟩
    · simp at failed
    · simp at done
    · exact (SaveError.reportFile.inj (Except.error.inj failed)).1
  · intro same
    have names := Path.join_injective (report_name_plain year shader)
      (report_name_plain yearLater other) same
    obtain ⟨stems, stamps⟩ := report_name_parts year yearLater names
    exact ⟨stems, Calendar.file_stamp_injective year yearLater stamps⟩
  · rintro ⟨stems, locals⟩
    rw [reportPath, reportPath, reportName, reportName, stems, Calendar.Moment.fileStamp, locals]
    rfl
  · intro offset
    constructor
    · intro before
      apply Int.not_le.mp
      intro notLater
      rcases Int.lt_or_eq_of_le notLater with earlier | same
      · have after := report_name_before yearLater year offset.symm earlier shader
        exact List.lex_asymm (fun order => Nat.lt_asymm order) before after
      · have stamps : moment.fileStamp = later.fileStamp := by
          rw [Calendar.Moment.fileStamp, Calendar.Moment.toLocal, ← same, offset]
          rfl
        rw [reportName, reportName, stamps] at before
        exact List.lex_irrefl Nat.lt_irrefl _ before
    · exact fun order => report_name_before year yearLater offset order shader

/-- The last second of a leap day and the first one of March, and a shader with the same stem. -/
theorem reports_by_shader_and_second_leap_day :
    let moment : Calendar.Moment := ⟨1709251199, 0, 0⟩
    let later : Calendar.Moment := ⟨1709251200, 0, 0⟩
    (moment.FourDigits ∧ later.FourDigits ∧ later.toLocal = ⟨⟨2024, 3, 1⟩, 0, 0, 0⟩) ∧
    reportPath "reports" "Custom/Water" moment = reportPath "reports" "Custom Water" moment ∧
    reportPath "reports" "Custom/Water" moment ≠ reportPath "reports" "Custom Water" later ∧
    List.Lex (· < ·) (Text.octetNumbers (reportName "Custom/Water" moment))
      (Text.octetNumbers (reportName "Custom/Water" later)) := by
  intro moment later
  have year : moment.FourDigits := by decide
  have yearLater : later.FourDigits := by decide
  have stems : safeStem "Custom/Water" = safeStem "Custom Water" := by decide
  obtain ⟨_, _, _, order⟩ :=
    reports_by_shader_and_second "reports" "Custom/Water" "Custom Water" year yearLater
  obtain ⟨_, _, same, _⟩ :=
    reports_by_shader_and_second "reports" "Custom/Water" "Custom Water" year year
  obtain ⟨_, _, apart, _⟩ :=
    reports_by_shader_and_second "reports" "Custom/Water" "Custom Water" year yearLater
  refine ⟨⟨year, yearLater, by decide⟩, same.mpr ⟨stems, rfl⟩, ?_, (order rfl).mpr (by decide)⟩
  intro equal
  exact absurd (apart.mp equal).2 (by decide)

end ShaderCost
