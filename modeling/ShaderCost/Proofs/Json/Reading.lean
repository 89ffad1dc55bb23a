import ShaderCost.Json.Reader
import ShaderCost.Json.Value
import ShaderCost.Proofs.Binary64.Whole
import ShaderCost.Proofs.Text.Numeral

/-!
JSON text read back. Whole numbers that are read as such fit 64 bits with their sign; any other
numeral is read as a binary64 number. What is printed as a string, a word or the numeral of a
natural is read as what it was printed from, but for naturals beyond the whole numbers that reading
knows; and so is an object of such values.
-/

namespace ShaderCost.JsonValue

/-- Whether a value, if it is a whole number, fits 64 bits with its sign. -/
def Fits : JsonValue → Prop
  | .integer value => value < twoTo 63
  | _ => True

/-- Whether a value fits, and each of its members if it is an object. -/
def InRange : JsonValue → Prop
  | .object members => ∀ entry ∈ members, entry.2.Fits
  | value => value.Fits

theorem fits_of_in_range {value : JsonValue} (inRange : value.InRange) : value.Fits := by
  cases value with
  | object members => trivial
  | null | bool | integer | float | string | list => exact inRange

theorem numeral_in_range {numeral : Numeral} {value : JsonValue}
    (found : numeral.value? = some value) : value.InRange := by
  rw [Numeral.value?] at found
  generalize (if numeral.negative = true then -(Text.digitsValue numeral.whole : Int)
    else (Text.digitsValue numeral.whole : Int)) = exact at found
  by_cases fits : (numeral.places.isNone && numeral.power.isNone && -(twoTo 63 : Int) ≤ exact &&
      exact < twoTo 63 && !(numeral.negative && (Text.digitsValue numeral.whole : Int) = 0)) = true
  · rw [if_pos fits] at found
    simp only [Bool.and_eq_true, decide_eq_true_eq] at fits
    rw [← Option.some.inj found]
    exact fits.1.2
  · rw [if_neg fits] at found
    obtain ⟨magnitude, _, rfl⟩ := Option.map_eq_some_iff.mp found
    trivial

/-- Reading with one call more, when what is read with fewer calls is in range. -/
theorem value_step {fuel depth : Nat} {text behind : Text} {value : JsonValue}
    (inside : ∀ {depth text members behind}, takeMembers? fuel depth text = some (members, behind) →
      ∀ entry ∈ members, entry.2.Fits)
    (taken : takeValue? (fuel + 1) depth text = some (value, behind)) : value.InRange := by
  rw [takeValue?] at taken
  split at taken
  iterate 3
    · cases taken
      trivial
  · obtain ⟨_, _, same⟩ := Option.map_eq_some_iff.mp taken
    cases same
    trivial
  · split at taken
    · simp at taken
    · cases taken
      trivial
    · obtain ⟨_, _, same⟩ := Option.map_eq_some_iff.mp taken
      cases same
      trivial
  · split at taken
    · simp at taken
    · cases taken
      exact List.forall_mem_nil _
    · obtain ⟨_, members, same⟩ := Option.map_eq_some_iff.mp taken
      cases same
      exact inside members
  · obtain ⟨⟨numeral, rest⟩, _, read⟩ := Option.bind_eq_some_iff.mp taken
    obtain ⟨found, valued, same⟩ := Option.bind_eq_some_iff.mp read
    cases same
    exact numeral_in_range valued

theorem members_step {fuel depth : Nat} {text behind : Text} {members : List (Text × JsonValue)}
    (inside : ∀ {text members behind}, takeMembers? fuel depth text = some (members, behind) →
      ∀ entry ∈ members, entry.2.Fits)
    (first : ∀ {text value behind}, takeValue? fuel depth text = some (value, behind) →
      value.InRange)
    (taken : takeMembers? (fuel + 1) depth text = some (members, behind)) :
    ∀ entry ∈ members, entry.2.Fits := by
  rw [takeMembers?] at taken
  split at taken
  · obtain ⟨⟨key, rest⟩, _, taken⟩ := Option.bind_eq_some_iff.mp taken
    dsimp only at taken
    split at taken
    · obtain ⟨⟨value, rest⟩, here, taken⟩ := Option.bind_eq_some_iff.mp taken
      have fits := fits_of_in_range (first here)
      dsimp only at taken
      split at taken
      · obtain ⟨⟨others, last⟩, later, same⟩ := Option.bind_eq_some_iff.mp taken
        cases same
        exact List.forall_mem_cons.mpr ⟨fits, inside later⟩
      · cases taken
        exact List.forall_mem_singleton.mpr fits
      · simp at taken
    · simp at taken
  · simp at taken

theorem taken_in_range (fuel : Nat) :
    (∀ {depth text value behind}, takeValue? fuel depth text = some (value, behind) →
      value.InRange) ∧
    ∀ {depth text members behind}, takeMembers? fuel depth text = some (members, behind) →
      ∀ entry ∈ members, entry.2.Fits := by
  induction fuel with
  | zero => simp [takeValue?, takeMembers?]
  | succ fuel induction =>
      obtain ⟨values, inside⟩ := induction
      exact ⟨value_step inside, members_step inside values⟩

theorem read_in_range {text : Text} {value : JsonValue} (read : ofText? text = some value) :
    value.InRange := by
  obtain ⟨⟨first, behind⟩, taken, ended⟩ := Option.bind_eq_some_iff.mp read
  dsimp only at ended
  split at ended
  · cases ended
    exact (taken_in_range _).1 taken
  · simp at ended

end ShaderCost.JsonValue

namespace ShaderCost.JsonValue

/-- Four digits that spell a unit which is no surrogate stand for one character. -/
theorem take_string_unit {a b c d : Char} {unit : Nat} (spelled : unit? a b c d = some unit)
    (low : unit < 0xd800) (rest : Text) :
    takeString? ('\\' :: 'u' :: a :: b :: c :: d :: rest) =
      (takeString? rest).map fun taken => (Char.ofNat unit :: taken.1, taken.2) := by
  have noLower : ¬ 0xdc00 ≤ unit := by omega
  have noUpper : ¬ 0xd800 ≤ unit := by omega
  rw [takeString?.eq_def]
  split <;> rename_i found
  · simp at found
  · simp at found
  · simp only [List.cons.injEq, true_and] at found
    obtain ⟨rfl, rfl, rfl, rfl, rfl⟩ := found
    simp only [spelled, noLower, noUpper, Option.bind_eq_bind, Option.bind_some, decide_false,
      Bool.false_and, Bool.false_eq_true, if_false]
    cases takeString? ('\\' :: 'u' :: _) <;> rfl
  · simp only [List.cons.injEq, true_and] at found
    obtain ⟨rfl, rfl, rfl, rfl, rfl⟩ := found
    simp only [spelled, noUpper, Option.bind_eq_bind, Option.bind_some, decide_false,
      Bool.false_and, Bool.false_eq_true, if_false]
    cases takeString? rest <;> rfl
  · rename_i other
    obtain ⟨rfl, rfl⟩ := List.cons.inj (List.cons.inj found).2
    exact (other a b c d rest rfl rfl).elim
  · rename_i other
    obtain ⟨rfl, rfl⟩ := List.cons.inj found
    exact (other _ _ rfl rfl).elim

theorem take_string_short {letter c : Char} (short : shortEscape? letter = some c)
    (other : letter ≠ 'u') (rest : Text) : takeString? ('\\' :: letter :: rest) =
      (takeString? rest).map fun taken => (c :: taken.1, taken.2) := by
  rw [takeString?.eq_def]
  split <;> rename_i found
  · simp at found
  · simp at found
  · exact absurd (List.cons.inj (List.cons.inj found).2).1 other
  · exact absurd (List.cons.inj (List.cons.inj found).2).1 other
  · obtain ⟨rfl, rfl⟩ := List.cons.inj (List.cons.inj found).2
    rw [short]
    cases takeString? rest <;> rfl
  · rename_i plain
    obtain ⟨rfl, rfl⟩ := List.cons.inj found
    exact (plain _ _ rfl rfl).elim

theorem take_string_plain {c : Char} (quote : c ≠ '"') (escape : c ≠ '\\') (high : 32 ≤ c.toNat)
    (rest : Text) : takeString? (c :: rest) =
      (takeString? rest).map fun taken => (c :: taken.1, taken.2) := by
  rw [takeString?.eq_def]
  split <;> rename_i found
  · simp at found
  · exact absurd (List.cons.inj found).1 quote
  · exact absurd (List.cons.inj found).1 escape
  · exact absurd (List.cons.inj found).1 escape
  · exact absurd (List.cons.inj found).1 escape
  · obtain ⟨rfl, rfl⟩ := List.cons.inj found
    rw [if_neg (by simp [escape, Nat.not_lt.mpr high])]
    cases takeString? rest <;> rfl

/-- The unit that an escape of six characters spells. -/
def escapedUnit? : Text → Option Nat
  | ['\\', 'u', a, b, c, d] => unit? a b c d
  | _ => none

theorem take_string_escaped {written : Text} {c : Char}
    (spelled : escapedUnit? written = some c.toNat) (low : c.toNat < 32) (rest : Text) :
    takeString? (written ++ rest) =
      (takeString? rest).map fun taken => (c :: taken.1, taken.2) := by
  rw [escapedUnit?.eq_def] at spelled
  split at spelled
  · have read := take_string_unit spelled (by omega) rest
    rwa [Char.ofNat_toNat] at read
  · simp at spelled

/-- However a character is written, it is read as itself. -/
theorem take_string_char (c : Char) (rest : Text) : takeString? (escapeChar c ++ rest) =
    (takeString? rest).map fun taken => (c :: taken.1, taken.2) := by
  have units : ∀ point < 32, escapedUnit? ("\\u" ++
      List.replicate (4 - (Nat.toDigits 16 point).length) '0' ++ Nat.toDigits 16 point) =
        some point := by decide
  rw [escapeChar]
  iterate 7
    split
    · rename_i same
      exact same ▸ take_string_short (by decide) (by decide) rest
  split
  · rename_i low
    exact take_string_escaped (units c.toNat low) low rest
  · rename_i quote escape _ _ _ _ _ high
    exact take_string_plain quote escape (Nat.not_lt.mp high) rest

theorem take_string (text rest : Text) :
    takeString? (text.flatMap escapeChar ++ '"' :: rest) = some (text, rest) := by
  induction text with
  | nil =>
      rw [List.flatMap_nil, List.nil_append, takeString?]
  | cons c text induction =>
      rw [List.flatMap_cons, List.append_assoc, take_string_char, induction]
      rfl

/-- What a numeral is followed by in an object that is printed. -/
def Stops (rest : Text) : Prop := ∃ c behind, rest = c :: behind ∧ (c = ',' ∨ c = '\n')

theorem take_numeral (number : Nat) {rest : Text} (stops : Stops rest) :
    takeNumeral? (Text.ofNat number ++ rest) =
      some (⟨false, Text.ofNat number, none, none⟩, rest) := by
  obtain ⟨filled, decimal⟩ := digits_of_nat number
  have stop : ∀ c ∈ rest.head?, c.isDigit = false := by
    intro d first
    obtain ⟨c, behind, rfl, separates⟩ := stops
    rw [← Option.some.inj first]
    rcases separates with rfl | rfl <;> rfl
  obtain ⟨taken, dropped⟩ := digits_taken decimal stop
  have zero : ((Text.ofNat number).head? == some '0' &&
      decide (1 < (Text.ofNat number).length)) = false := by
    by_cases first : (Text.ofNat number).head? = some '0'
    · rw [of_nat_first_zero first]
      decide
    · simp [first]
  have minus : ∀ behind, Text.ofNat number ++ rest ≠ '-' :: behind := by
    intro behind same
    obtain ⟨d, digits, spelled, digit⟩ := of_nat_starts number
    rw [spelled, List.cons_append, List.cons.injEq] at same
    rw [same.1] at digit
    exact absurd digit (by decide)
  rw [takeNumeral?]
  · simp only [taken, dropped, zero, List.isEmpty_eq_false_iff.mpr filled]
    obtain ⟨c, behind, rfl, rfl | rfl⟩ := stops <;> rfl
  · exact minus

/-- The natural that digits spell behind those of another one. -/
def continued (significand : Nat) (digits : Text) : Nat :=
  digits.foldl (fun value digit => 10 * value + (digit.toNat - '0'.toNat)) significand

theorem continued_grows (digits : Text) (significand : Nat) :
    significand ≤ continued significand digits := by
  induction digits generalizing significand with
  | nil => exact Nat.le_refl significand
  | cons digit digits induction =>
      have step : significand ≤ 10 * significand + (digit.toNat - '0'.toNat) := by omega
      exact Nat.le_trans step (induction _)

/-- Digits are taken one by one while their value fits. -/
theorem absorb_all {significand : Nat} {digits : Text}
    (fits : continued significand digits < significandLimit) :
    absorb significand digits = (continued significand digits, digits.length) := by
  induction digits generalizing significand with
  | nil => rfl
  | cons digit digits induction =>
      have small := Nat.lt_of_le_of_lt (continued_grows digits _) fits
      rw [absorb, if_neg (Nat.not_le.mpr small), induction fits]
      rfl

/-- Without a power of ten a value is multiplied by one. -/
theorem scale_none (steps : Nat) {value : Binary64}
    (product : value.mulMagnitudes (Binary64.ofNat 1) = value) (finite : value.isFinite = true) :
    scale (steps + 1) value 0 = some value := by
  have power : powerOfTen (0 : Int).toNat = Binary64.ofNat 1 := rfl
  rw [scale, if_pos (by decide), if_pos (by decide), power, product]
  simp only [finite, if_true]

/-- What the numeral of a natural of 64 bits is read as. -/
def wholeNumber (number : Nat) : JsonValue :=
  if number < twoTo 63 then .integer number else .float (Binary64.ofNat number)

theorem numeral_value {number : Nat} (fits : number < twoTo 64) :
    (Numeral.mk false (Text.ofNat number) none none).value? = some (wholeNumber number) := by
  have value := digits_value_of_nat number
  rw [Numeral.value?, wholeNumber]
  simp only [value, Bool.false_eq_true, if_false, Option.isNone_none, Bool.and_self, Bool.true_and,
    Bool.false_and, Bool.not_false, Bool.and_true, Bool.and_eq_true, decide_eq_true_eq]
  by_cases small : number < twoTo 63
  · have low : -(twoTo 63 : Int) ≤ (number : Int) := by omega
    have high : (number : Int) < (twoTo 63 : Int) := by exact_mod_cast small
    rw [if_pos ⟨low, high⟩, if_pos small]
  · have large : Binary64.Large number := ⟨Nat.not_lt.mp small, fits⟩
    have above : ¬ (number : Int) < (twoTo 63 : Int) := by exact_mod_cast small
    obtain ⟨product, finite⟩ := Binary64.large_times_one large
    rw [if_neg fun both => above both.2, if_neg small]
    have magnitude : (Numeral.mk false (Text.ofNat number) none none).magnitude? =
        some (Binary64.ofNat number) := by
      have taken : absorb 0 (Text.ofNat number) = (number, (Text.ofNat number).length) := by
        have spelled : continued 0 (Text.ofNat number) = number := value
        have below : continued 0 (Text.ofNat number) < significandLimit := by
          rw [spelled]
          exact fits
        rw [absorb_all below, spelled]
      rw [Numeral.magnitude?]
      simp only [taken, Option.getD_none, absorb, Nat.sub_self]
      exact scale_none 3 product finite
    rw [magnitude]
    rfl

/-- A value that is no list, object or number with a point, and whose numeral has no sign. -/
inductive Simple : JsonValue → Prop
  | null : Simple .null
  | bool (value : Bool) : Simple (.bool value)
  | natural {number : Nat} (fits : number < twoTo 64) : Simple (.integer number)
  | string (value : Text) : Simple (.string value)

/-- What a simple value is read back as. -/
def readBack : JsonValue → JsonValue
  | .integer number => wholeNumber number.toNat
  | value => value

theorem skip_space_solid {c : Char} (solid : isSpace c = false) (rest : Text) :
    skipSpace (c :: rest) = c :: rest := List.dropWhile_cons_of_neg (by simp [solid])

theorem skip_space_quote (text rest : Text) :
    skipSpace (' ' :: (stringText text ++ rest)) =
      '"' :: (text.flatMap escapeChar ++ '"' :: rest) := by
  have spelled : stringText text ++ rest = '"' :: (text.flatMap escapeChar ++ '"' :: rest) := by
    rw [stringText, List.append_assoc, List.append_assoc]
    rfl
  rw [spelled]
  rfl

theorem take_natural {number : Nat} (fits : number < twoTo 64) (fuel depth : Nat) {rest : Text}
    (stops : Stops rest) : takeValue? (fuel + 1) depth (' ' :: (Text.ofNat number ++ rest)) =
      some (wholeNumber number, rest) := by
  obtain ⟨d, digits, spelled, digit⟩ := of_nat_starts number
  have solid : isSpace d = false := by
    rw [← Bool.not_eq_true]
    intro space
    simp only [isSpace, Bool.or_eq_true, beq_iff_eq] at space
    rcases space with ((rfl | rfl) | rfl) | rfl <;> exact absurd digit (by decide)
  have shape : skipSpace (' ' :: (Text.ofNat number ++ rest)) = Text.ofNat number ++ rest := by
    have blank : skipSpace (' ' :: (Text.ofNat number ++ rest)) =
        skipSpace (Text.ofNat number ++ rest) := rfl
    rw [blank, spelled]
    exact skip_space_solid solid _
  have first : ∀ c behind, Text.ofNat number ++ rest = c :: behind → c.isDigit = true := by
    intro c behind same
    rw [spelled, List.cons_append, List.cons.injEq] at same
    rwa [← same.1]
  rw [takeValue?, shape]
  split
  iterate 6
    · rename_i found
      exact absurd (first _ _ found) (by decide)
  · rw [take_numeral number stops, Option.bind_eq_bind, Option.bind_some]
    dsimp only
    rw [numeral_value fits]
    rfl

theorem take_simple {value : JsonValue} (simple : Simple value) (fuel depth level : Nat)
    {rest : Text} (stops : Stops rest) :
    takeValue? (fuel + 1) depth (' ' :: (pretty level value ++ rest)) =
      some (value.readBack, rest) := by
  cases simple with
  | null => rfl
  | bool value => cases value <;> rfl
  | @natural number fits => exact take_natural fits fuel depth stops
  | string value =>
      rw [pretty, takeValue?, skip_space_quote]
      simp only [take_string]
      rfl

/-- The members of an object with simple values as they are read back. -/
def readMembers (members : List (Text × JsonValue)) : List (Text × JsonValue) :=
  members.map fun entry => (entry.1, entry.2.readBack)

theorem pretty_members (level : Nat) (members : List (Text × JsonValue)) :
    prettyMembers level members =
      members.map fun entry => stringText entry.1 ++ ": " ++ pretty level entry.2 := by
  induction members with
  | nil => rfl
  | cons entry members induction => rw [prettyMembers, induction, List.map_cons]

/-- A member on a line of its own. -/
def memberLine (level : Nat) (entry : Text × JsonValue) : Text :=
  "\n" ++ indentation level ++ (stringText entry.1 ++ ": " ++ pretty level entry.2)

/-- What stands behind the last member of an object. -/
def objectEnd (level : Nat) (behind : Text) : Text :=
  '\n' :: (indentation level ++ '\x7d' :: behind)

theorem skip_space_blanks {blanks : Text} (spaces : ∀ c ∈ blanks, isSpace c = true) {c : Char}
    (solid : isSpace c = false) (rest : Text) : skipSpace (blanks ++ c :: rest) = c :: rest := by
  rw [skipSpace, List.dropWhile_append_of_pos spaces, List.dropWhile_cons_of_neg (by simp [solid])]

theorem indentation_spaces (level : Nat) : ∀ c ∈ '\n' :: indentation level, isSpace c = true := by
  rw [List.forall_mem_cons]
  refine ⟨by decide, ?_⟩
  intro c member
  rw [indentation, List.mem_replicate] at member
  rw [member.2]
  decide

theorem skip_object_end (level : Nat) (behind : Text) :
    skipSpace (objectEnd level behind) = '\x7d' :: behind :=
  skip_space_blanks (indentation_spaces level) (by decide) behind

theorem member_start (level : Nat) (entry : Text × JsonValue) (rest : Text) :
    skipSpace (memberLine level entry ++ rest) = '"' :: (entry.1.flatMap escapeChar ++
      '"' :: ':' :: ' ' :: (pretty level entry.2 ++ rest)) := by
  have spelled : memberLine level entry ++ rest = ('\n' :: indentation level) ++
      '"' :: (entry.1.flatMap escapeChar ++
        '"' :: ':' :: ' ' :: (pretty level entry.2 ++ rest)) := by
    simp only [memberLine, stringText, List.append_assoc]
    rfl
  rw [spelled]
  exact skip_space_blanks (indentation_spaces level) (by decide) _

theorem skip_space_colon (rest : Text) : skipSpace (':' :: rest) = ':' :: rest :=
  skip_space_solid (by decide) rest

theorem take_member {entry : Text × JsonValue} (simple : Simple entry.2) (fuel depth level : Nat)
    (following : Text) :
    takeMembers? (fuel + 2) depth (memberLine level entry ++ ',' :: following) =
      (takeMembers? (fuel + 1) depth following).map fun taken =>
        ((entry.1, entry.2.readBack) :: taken.1, taken.2) := by
  have stops : Stops (',' :: following) := ⟨_, _, rfl, .inl rfl⟩
  have comma : skipSpace (',' :: following) = ',' :: following := skip_space_solid (by decide) _
  rw [takeMembers?, member_start]
  simp only [take_string, Option.bind_eq_bind, Option.bind_some, skip_space_colon,
    take_simple simple fuel depth level stops, comma]
  cases takeMembers? (fuel + 1) depth following <;> rfl

theorem take_last_member {entry : Text × JsonValue} (simple : Simple entry.2)
    (fuel depth level outer : Nat) (behind : Text) :
    takeMembers? (fuel + 2) depth (memberLine level entry ++ objectEnd outer behind) =
      some ([(entry.1, entry.2.readBack)], behind) := by
  have stops : Stops (objectEnd outer behind) := ⟨_, _, rfl, .inr rfl⟩
  rw [takeMembers?, member_start]
  simp only [take_string, Option.bind_eq_bind, Option.bind_some, skip_space_colon,
    take_simple simple fuel depth level stops, skip_object_end]
  rfl

/-- Members on lines of their own are read up to the end of their object. -/
theorem take_members {members : List (Text × JsonValue)} (filled : members ≠ [])
    (simple : ∀ entry ∈ members, Simple entry.2) {fuel : Nat} (enough : members.length < fuel)
    (depth level outer : Nat) (behind : Text) :
    takeMembers? fuel depth (List.intercalate [','] (members.map (memberLine level)) ++
      objectEnd outer behind) = some (readMembers members, behind) := by
  induction members generalizing fuel with
  | nil => exact absurd rfl filled
  | cons entry members induction =>
      obtain ⟨first, others⟩ := List.forall_mem_cons.mp simple
      obtain ⟨fuel, rfl⟩ : ∃ spare, fuel = spare + 2 := ⟨fuel - 2, by
        rw [List.length_cons] at enough
        omega⟩
      cases members with
      | nil =>
          rw [List.map_singleton, List.intercalate_singleton, take_last_member first]
          rfl
      | cons next members =>
          have spare : (next :: members).length < fuel + 1 := by
            rw [List.length_cons] at enough
            omega
          have later := induction (by simp) others spare
          rw [List.map_cons, List.map_cons, List.intercalate_cons_cons, ← List.map_cons,
            List.append_assoc, List.append_assoc, List.singleton_append, take_member first, later]
          rfl

theorem members_length (level : Nat) (members : List (Text × JsonValue)) :
    members.length ≤ (List.intercalate [','] (members.map (memberLine level))).length := by
  induction members with
  | nil => exact Nat.zero_le _
  | cons entry members induction =>
      have line : 1 ≤ (memberLine level entry).length := by
        rw [memberLine, List.append_assoc, List.length_append]
        exact Nat.le_add_right 1 _
      cases members with
      | nil => simpa using line
      | cons next members =>
          rw [List.map_cons, List.map_cons, List.intercalate_cons_cons, ← List.map_cons,
            List.length_append, List.length_append, List.length_cons]
          omega

/-- An object is printed as its members on lines of their own. -/
theorem pretty_object (level : Nat) {members : List (Text × JsonValue)} (filled : members ≠ []) :
    pretty level (.object members) = '\x7b' ::
      (List.intercalate [','] (members.map (memberLine (level + 1))) ++ objectEnd level []) := by
  have parts : (prettyMembers (level + 1) members).isEmpty = false := by
    rw [pretty_members, List.isEmpty_eq_false_iff, Ne, List.map_eq_nil_iff]
    exact filled
  have lines : ((prettyMembers (level + 1) members).map fun part =>
      "\n" ++ indentation (level + 1) ++ part) = members.map (memberLine (level + 1)) := by
    rw [pretty_members, List.map_map]
    rfl
  rw [pretty, block, parts, if_neg (by simp), lines]
  simp only [List.append_assoc]
  rfl

theorem take_object {members : List (Text × JsonValue)} (filled : members ≠ [])
    (simple : ∀ entry ∈ members, Simple entry.2) {fuel : Nat} (enough : members.length < fuel)
    (depth level : Nat) :
    takeValue? (fuel + 1) (depth + 1) (pretty level (.object members)) =
      some (.object (readMembers members), []) := by
  have first : ∃ behind, skipSpace (List.intercalate [',']
      (members.map (memberLine (level + 1))) ++ objectEnd level []) = '"' :: behind := by
    obtain ⟨entry, others, rfl⟩ := List.exists_cons_of_ne_nil filled
    cases others with
    | nil => exact ⟨_, by rw [List.map_singleton, List.intercalate_singleton, member_start]⟩
    | cons next others => exact ⟨_, by
        rw [List.map_cons, List.map_cons, List.intercalate_cons_cons, List.append_assoc,
          List.append_assoc, member_start]⟩
  obtain ⟨behind, quoted⟩ := first
  rw [takeValue?, pretty_object level filled, skip_space_solid (by decide)]
  simp only [quoted, take_members filled simple enough]
  rfl

/-- An object of simple values is read back from what it is printed as. -/
theorem read_object {members : List (Text × JsonValue)} (filled : members ≠ [])
    (simple : ∀ entry ∈ members, Simple entry.2) :
    ofText? (pretty 0 (.object members)) = some (.object (readMembers members)) := by
  have enough : members.length < 2 * (pretty 0 (.object members)).length + 1 := by
    have printed : pretty 0 (.object members) = '\x7b' ::
        (List.intercalate [','] (members.map (memberLine 1)) ++ objectEnd 0 []) :=
      pretty_object 0 filled
    have lines := members_length 1 members
    rw [printed, List.length_cons, List.length_append]
    omega
  rw [ofText?, deepest, take_object filled simple enough 126 0]
  rfl

end ShaderCost.JsonValue
