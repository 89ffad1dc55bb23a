import ShaderCost.Files.Path
import ShaderCost.Text.Octets

/-!
Paths and the names that they go through: a name joined to a directory comes after those of the
directory, it is the last name of the path, and the directory is the path above. The directory above
any path goes through fewer of its names.
-/

namespace ShaderCost.Path

/-- One name, which leads neither to where it stands nor above. -/
structure Single (name : Text) : Prop where
  filled : name ≠ []
  slashless : '/' ∉ name
  notHere : name ≠ "."
  notAbove : name ≠ ".."

/-- A name of an entry, which leads to no other place. -/
structure Plain (name : Text) : Prop where
  filled : name ≠ []
  slashless : '/' ∉ name
  zeroless : '\x00' ∉ name
  notHere : name ≠ "."
  notAbove : name ≠ ".."

theorem Plain.single {name : Text} (plain : Plain name) : Single name :=
  ⟨plain.filled, plain.slashless, plain.notHere, plain.notAbove⟩

theorem names_nil : names [] = [] := rfl

theorem names_append_slash (front rest : Text) :
    names (front ++ '/' :: rest) = names front ++ names rest := by
  rw [names, List.splitOn_eq_splitOnP, List.splitOnP_append_cons _ _ (by simp), List.filter_append,
    ← List.splitOn_eq_splitOnP, ← List.splitOn_eq_splitOnP]
  rfl

theorem names_of_name {name : Text} (filled : name ≠ []) (slashless : '/' ∉ name) :
    names name = [name] := by
  rw [names, List.splitOn_eq_splitOnP, List.splitOnP_eq_singleton]
  · simp [filled]
  · intro c member
    simpa using fun equal : c = '/' => slashless (equal ▸ member)

theorem names_slash (front : Text) : names (front ++ ['/']) = names front := by
  rw [names_append_slash, names_nil, List.append_nil]

theorem names_joined (front : Text) {name : Text} (filled : name ≠ []) (slashless : '/' ∉ name) :
    names (front ++ '/' :: name) = names front ++ [name] := by
  rw [names_append_slash, names_of_name filled slashless]

theorem slashless_relative {name : Text} (slashless : '/' ∉ name) : isAbsolute name = false := by
  cases name with
  | nil => rfl
  | cons c name =>
      have other : c ≠ '/' := by
        rintro rfl
        exact slashless List.mem_cons_self
      simp [isAbsolute, other]

/-- How a name is put behind a directory: at once, or with a slash between. -/
theorem join_cases (directory : Text) {name : Text} (single : Single name) :
    (directory = [] ∧ join directory name = name) ∨
      (directory ≠ [] ∧ ∃ front, (directory = front ++ ['/'] ∨ directory = front) ∧
        join directory name = front ++ '/' :: name) := by
  by_cases empty : directory = []
  · subst empty
    exact .inl ⟨rfl, by simp [join]⟩
  · refine .inr ⟨empty, ?_⟩
    have divided : join directory name = if Text.endsWith "/" directory then directory ++ name
        else directory ++ "/" ++ name := by
      rw [join, if_neg (by simp [slashless_relative single.slashless, empty])]
    by_cases ends : Text.endsWith "/" directory = true
    · obtain ⟨front, whole⟩ := List.isSuffixOf_iff_suffix.mp ends
      refine ⟨front, .inl whole.symm, ?_⟩
      rw [divided, if_pos ends, ← whole, List.append_assoc]
      rfl
    · refine ⟨directory, .inr rfl, ?_⟩
      rw [divided, if_neg ends, List.append_assoc]
      rfl

theorem names_join (directory : Text) {name : Text} (single : Single name) :
    names (join directory name) = names directory ++ [name] := by
  rcases join_cases directory single with ⟨rfl, joined⟩ | ⟨_, front, whole, joined⟩
  · rw [joined, names_of_name single.filled single.slashless, names_nil, List.nil_append]
  · rw [joined, names_joined front single.filled single.slashless]
    rcases whole with rfl | rfl
    · rw [names_slash]
    · rfl

theorem join_injective {directory name other : Text} (plain : Plain name)
    (otherPlain : Plain other) (same : join directory name = join directory other) :
    name = other := by
  have names := congrArg names same
  rw [names_join directory plain.single, names_join directory otherPlain.single] at names
  exact List.singleton_inj.mp (List.append_cancel_left names)

theorem join_filled (directory : Text) {name : Text} (plain : Plain name) :
    join directory name ≠ [] := by
  rcases join_cases directory plain.single with ⟨_, joined⟩ | ⟨_, front, _, joined⟩
  · rw [joined]
    exact plain.filled
  · simp [joined]

theorem join_ending (directory : Text) {name : Text} (plain : Plain name) :
    Text.endsWith "/" (join directory name) = false := by
  rw [← Bool.not_eq_true]
  intro ends
  obtain ⟨front, whole⟩ := List.isSuffixOf_iff_suffix.mp ends
  have last : (join directory name).getLast? = name.getLast? := by
    obtain ⟨c, rest, spelled⟩ := List.exists_cons_of_ne_nil plain.filled
    rcases join_cases directory plain.single with ⟨_, joined⟩ | ⟨_, front, _, joined⟩
    · rw [joined]
    · rw [joined, spelled, List.getLast?_append, List.getLast?_cons_cons,
        Option.or_of_isSome (by simp)]
  rw [← whole, List.getLast?_append] at last
  exact plain.slashless (List.mem_of_getLast? last.symm)

theorem join_absolute (directory : Text) {name : Text} (single : Single name) :
    isAbsolute (join directory name) = isAbsolute directory := by
  rcases join_cases directory single with ⟨rfl, joined⟩ | ⟨filled, front, whole, joined⟩
  · rw [joined, slashless_relative single.slashless]
    rfl
  · rw [joined]
    cases front with
    | nil =>
        rcases whole with rfl | rfl
        · rfl
        · exact absurd rfl filled
    | cons c front => rcases whole with rfl | rfl <;> rfl

theorem mem_join {directory name : Text} (plain : Plain name) {c : Char} (other : c ≠ '/') :
    c ∈ join directory name ↔ c ∈ directory ∨ c ∈ name := by
  rcases join_cases directory plain.single with ⟨rfl, joined⟩ | ⟨_, front, whole, joined⟩
  · simp [joined]
  · rcases whole with rfl | rfl <;> simp [joined, other]

theorem dropEnd_slash {path : Text} (filled : path ≠ []) :
    dropEnd ('/' :: path) = dropEnd path := by
  rw [dropEnd]
  exact filled

theorem dropEnd_kept {path : Text} (solid : path.head? ≠ some '/')
    (named : ∀ rest, path ≠ '.' :: '/' :: rest) : dropEnd path = path := by
  fun_cases dropEnd path with
  | case1 => rfl
  | case2 => rfl
  | case3 rest more => exact absurd rfl solid
  | case4 rest => exact absurd rfl (named rest)
  | case5 path => rfl

section Join

variable {name : Text} (single : Single name)

include single

theorem dropEnd_name (behind : Text) :
    dropEnd (name.reverse ++ behind) = name.reverse ++ behind := by
  have slashless : '/' ∉ name.reverse := by simpa using single.slashless
  obtain ⟨c, rest, reversed⟩ :=
    List.exists_cons_of_ne_nil (List.reverse_ne_nil_iff.mpr single.filled)
  rw [reversed] at slashless ⊢
  apply dropEnd_kept
  · intro slash
    rw [List.cons_append, List.head?_cons, Option.some.injEq] at slash
    exact slashless (slash ▸ List.mem_cons_self)
  · intro more dotted
    rw [List.cons_append, List.cons.injEq] at dotted
    obtain ⟨rfl, slash⟩ := dotted
    cases rest with
    | nil => exact single.notHere (List.reverse_eq_iff.mp reversed)
    | cons d rest =>
        rw [List.cons_append, List.cons.injEq] at slash
        exact slashless (by simp [slash.1])

/-- A joined path from its end: the name, and a slash before it unless the name is all. -/
theorem reverse_join (directory : Text) :
    ∃ behind, (join directory name).reverse = name.reverse ++ behind ∧
      (∀ c ∈ behind.head?, c = '/') ∧ dropEnd behind = dropEnd directory.reverse := by
  rcases join_cases directory single with ⟨rfl, joined⟩ | ⟨filled, front, whole, joined⟩
  · exact ⟨[], by simp [joined], by simp, rfl⟩
  · refine ⟨'/' :: front.reverse, by simp [joined], by simp, ?_⟩
    rcases whole with rfl | rfl
    · rw [List.reverse_append]
      rfl
    · exact dropEnd_slash (List.reverse_ne_nil_iff.mpr filled)

theorem name_divided {behind : Text} (divided : ∀ c ∈ behind.head?, c = '/') :
    (name.reverse ++ behind).takeWhile (· != '/') = name.reverse ∧
      (name.reverse ++ behind).dropWhile (· != '/') = behind := by
  have named : ∀ c ∈ name.reverse, (c != '/') = true := by
    intro c member
    rw [bne_iff_ne]
    rintro rfl
    exact single.slashless (List.mem_reverse.mp member)
  rw [List.takeWhile_append_of_pos named, List.dropWhile_append_of_pos named]
  cases behind with
  | nil => simp
  | cons c behind => simp [divided c rfl]

theorem file_name_join (directory : Text) : fileName? (join directory name) = some name := by
  obtain ⟨behind, reversed, divided, _⟩ := reverse_join single directory
  rw [fileName?, reversed, dropEnd_name single behind, (name_divided single divided).1,
    List.reverse_reverse]
  refine if_neg ?_
  rw [Bool.or_eq_true, Bool.or_eq_true, List.isEmpty_iff, decide_eq_true_eq, decide_eq_true_eq]
  rintro ((empty | here) | above)
  · exact single.filled empty
  · exact single.notHere here
  · exact single.notAbove above

theorem parent_join (directory : Text) :
    parent? (join directory name) = some (dropEnd directory.reverse).reverse := by
  obtain ⟨behind, reversed, divided, above⟩ := reverse_join single directory
  rw [parent?, reversed, dropEnd_name single behind, (name_divided single divided).2, above]
  refine if_neg ?_
  rw [Bool.or_eq_true, List.isEmpty_iff, beq_iff_eq]
  rintro (empty | root)
  · exact single.filled (List.reverse_eq_nil_iff.mp (List.append_eq_nil_iff.mp empty).1)
  · rcases List.append_eq_singleton_iff.mp root with ⟨empty, _⟩ | ⟨slash, _⟩
    · exact single.filled (List.reverse_eq_nil_iff.mp empty)
    · exact single.slashless (by simp [List.reverse_eq_iff.mp slash])

end Join

/-- A path to the entry of a directory under a name, which leads nowhere by itself. The path above it
is the directory, slashes and single dots at the end of that apart, and the walk along it starts
where the directory does and goes through one name more. -/
structure Entry (directory name path : Text) : Prop where
  single : Single name
  relative : isAbsolute name = false
  joined : path = join directory name
  named : names path = names directory ++ [name]
  last : fileName? path = some name
  above : parent? path = some (dropEnd directory.reverse).reverse
  start : isAbsolute path = isAbsolute directory

theorem entry_join (directory : Text) {name : Text} (single : Single name) :
    Entry directory name (join directory name) where
  single := single
  relative := slashless_relative single.slashless
  joined := rfl
  named := names_join directory single
  last := file_name_join single directory
  above := parent_join single directory
  start := join_absolute directory single

theorem dropEnd_suffix (path : Text) : dropEnd path <:+ path := by
  fun_induction dropEnd path with
  | case1 => exact List.suffix_refl _
  | case2 => exact List.suffix_refl _
  | case3 rest more induction => exact induction.trans (List.suffix_cons _ _)
  | case4 rest induction => exact induction.trans (List.suffix_cons _ _)
  | case5 path => exact List.suffix_refl _

/-- What is dropped from the end of a path is no name, or only such as lead nowhere else. -/
theorem dropEnd_names (path : Text) :
    ∃ dropped, names path.reverse = names (dropEnd path).reverse ++ dropped := by
  fun_induction dropEnd path with
  | case1 => exact ⟨[], rfl⟩
  | case2 => exact ⟨[], rfl⟩
  | case3 rest more induction =>
      obtain ⟨dropped, split⟩ := induction
      exact ⟨dropped, by rw [List.reverse_cons, names_slash, split]⟩
  | case4 rest induction =>
      obtain ⟨dropped, split⟩ := induction
      refine ⟨dropped ++ [['.']], ?_⟩
      rw [List.reverse_cons, names_slash] at split
      rw [List.reverse_cons, List.reverse_cons, List.append_assoc, List.singleton_append,
        names_joined rest.reverse (by simp) (by simp), split, List.append_assoc]
  | case5 path => exact ⟨[], (List.append_nil _).symm⟩

theorem dropEnd_start {path rest : Text} (slash : dropEnd path = '/' :: rest) : rest = [] := by
  fun_induction dropEnd path with
  | case1 => simp at slash
  | case2 => simpa using slash.symm
  | case3 tail more induction => exact induction slash
  | case4 tail induction => exact induction slash
  | case5 path =>
      subst slash
      cases rest with
      | nil => rfl
      | cons c rest => simp_all

/-- The path above another is a front part of it and goes through fewer names. -/
theorem parent_spec {path above : Text} (found : parent? path = some above) :
    above <+: path ∧ ∃ rest, rest ≠ [] ∧ names path = names above ++ rest := by
  rw [parent?] at found
  split at found
  · simp at found
  · rename_i filled
    rw [Bool.not_eq_true, Bool.or_eq_false_iff, List.isEmpty_eq_false_iff,
      beq_eq_false_iff_ne] at filled
    rw [Option.some.injEq] at found
    obtain ⟨dropped, pathNames⟩ := dropEnd_names path.reverse
    rw [List.reverse_reverse] at pathNames
    generalize reversed : dropEnd path.reverse = trimmed at found filled pathNames
    obtain ⟨skipped, aboveNames⟩ := dropEnd_names (trimmed.dropWhile (· != '/'))
    constructor
    · rw [← found, ← List.reverse_reverse path, List.reverse_prefix]
      refine (dropEnd_suffix _).trans ((List.dropWhile_suffix _).trans ?_)
      exact reversed ▸ dropEnd_suffix path.reverse
    · have last : names trimmed.reverse = names (trimmed.dropWhile (· != '/')).reverse ++
          [(trimmed.takeWhile (· != '/')).reverse] := by
        have whole := List.takeWhile_append_dropWhile (p := (· != '/')) (l := trimmed)
        have slashless : '/' ∉ (trimmed.takeWhile (· != '/')).reverse := by
          rw [List.mem_reverse]
          intro member
          simpa using List.all_eq_true.mp List.all_takeWhile '/' member
        have named : (trimmed.takeWhile (· != '/')).reverse ≠ [] := by
          obtain ⟨c, rest, spelled⟩ := List.exists_cons_of_ne_nil filled.1
          have other : c ≠ '/' := by
            rintro rfl
            rw [spelled] at reversed
            rw [dropEnd_start reversed] at spelled
            exact filled.2 spelled
          simp [spelled, other]
        cases behind : trimmed.dropWhile (· != '/') with
        | nil =>
            rw [behind, List.append_nil] at whole
            rw [List.reverse_nil, names_nil, List.nil_append, whole]
            rw [whole] at named slashless
            exact names_of_name named slashless
        | cons c rest =>
            have slash : c = '/' := by
              have stops := List.head?_dropWhile_not (· != '/') trimmed
              rw [behind] at stops
              simpa using stops
            subst slash
            rw [List.reverse_cons, names_slash, ← names_joined _ named slashless]
            rw [behind] at whole
            conv => lhs; rw [← whole]
            simp
      rw [found] at aboveNames
      refine ⟨skipped ++ (trimmed.takeWhile (· != '/')).reverse :: dropped, by simp, ?_⟩
      rw [pathNames, last, aboveNames, List.append_assoc, List.append_assoc,
        List.singleton_append]

end ShaderCost.Path
