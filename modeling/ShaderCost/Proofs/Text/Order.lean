import ShaderCost.Text.Basic
import ShaderCost.Text.Octets

/-!
The order of texts by code points. It is linear, and it is the order of the octets that spell the
texts in UTF-8: the first octet in which the spellings of two characters differ is lower for the
lower character, and no spelling is a front part of another.
-/

namespace ShaderCost.Text

theorem at_most_total (left right : Text) : (atMost left right || atMost right left) = true := by
  induction left generalizing right with
  | nil => rfl
  | cons c left induction =>
      cases right with
      | nil => rfl
      | cons d right =>
          by_cases same : c = d
          · subst same
            simpa [atMost] using induction right
          · have other : d ≠ c := fun equal => same equal.symm
            have apart : c.toNat ≠ d.toNat := fun equal => same (Char.toNat_inj.mp equal)
            simp only [atMost, if_neg same, if_neg other, Bool.or_eq_true, decide_eq_true_eq]
            omega

theorem at_most_trans {first second third : Text} (lower : atMost first second = true)
    (upper : atMost second third = true) : atMost first third = true := by
  induction first generalizing second third with
  | nil => rfl
  | cons c first induction =>
      cases second with
      | nil => simp [atMost] at lower
      | cons d second =>
          cases third with
          | nil => simp [atMost] at upper
          | cons e third =>
              rw [atMost] at lower upper ⊢
              split at lower
              · subst c
                split at upper
                · rename_i same
                  rw [if_pos same]
                  exact induction lower upper
                · rename_i apart
                  rw [if_neg apart]
                  exact upper
              · split at upper
                · subst d
                  rename_i apart
                  rw [if_neg apart]
                  exact lower
                · rw [decide_eq_true_eq] at lower upper
                  have apart : c ≠ e := by
                    rintro rfl
                    omega
                  rw [if_neg apart, decide_eq_true_eq]
                  omega

theorem at_most_antisymm {left right : Text} (lower : atMost left right = true)
    (upper : atMost right left = true) : left = right := by
  induction left generalizing right with
  | nil =>
      cases right with
      | nil => rfl
      | cons d right => simp [atMost] at upper
  | cons c left induction =>
      cases right with
      | nil => simp [atMost] at lower
      | cons d right =>
          by_cases same : c = d
          · subst same
            simp only [atMost, if_true] at lower upper
            rw [induction lower upper]
          · have other : d ≠ c := fun equal => same equal.symm
            simp only [atMost, if_neg same, if_neg other, decide_eq_true_eq] at lower upper
            omega

/-- The octets of a text as numbers. -/
def octetNumbers (text : Text) : List Nat := (toOctets text).data.toList.map UInt8.toNat

/-- The octets that spell one character, as numbers. -/
def charNumbers (c : Char) : List Nat := (String.utf8EncodeChar c).map UInt8.toNat

theorem octet_numbers_nil : octetNumbers [] = [] := rfl

theorem octet_numbers_cons (c : Char) (text : Text) :
    octetNumbers (c :: text) = charNumbers c ++ octetNumbers text := by
  simp [octetNumbers, charNumbers, toOctets, List.utf8Encode]

theorem octet_numbers_append (front rest : Text) :
    octetNumbers (front ++ rest) = octetNumbers front ++ octetNumbers rest := by
  induction front with
  | nil => rfl
  | cons c front induction =>
      rw [List.cons_append, octet_numbers_cons, octet_numbers_cons, induction, List.append_assoc]

/-- A character takes one to four octets; the first one tells how many. -/
theorem char_numbers_cases (c : Char) :
    (c.toNat ≤ 0x7f ∧ charNumbers c = [c.toNat]) ∨
    (0x80 ≤ c.toNat ∧ c.toNat ≤ 0x7ff ∧
      charNumbers c = [c.toNat / 64 + 0xc0, c.toNat % 64 + 0x80]) ∨
    (0x800 ≤ c.toNat ∧ c.toNat ≤ 0xffff ∧
      charNumbers c =
        [c.toNat / 4096 + 0xe0, c.toNat / 64 % 64 + 0x80, c.toNat % 64 + 0x80]) ∨
    (0x10000 ≤ c.toNat ∧ charNumbers c = [c.toNat / 262144 + 0xf0, c.toNat / 4096 % 64 + 0x80,
      c.toNat / 64 % 64 + 0x80, c.toNat % 64 + 0x80]) := by
  have bound : c.val.toNat < 0x110000 := by
    rcases c.valid with low | high
    · exact Nat.lt_trans low (by decide)
    · exact high.2
  have point : c.toNat = c.val.toNat := rfl
  rw [point, charNumbers, String.utf8EncodeChar]
  generalize c.val.toNat = value at bound
  by_cases one : value ≤ 0x7f
  · refine .inl ⟨one, ?_⟩
    simp only [if_pos one, List.map_cons, List.map_nil, UInt8.toNat_ofNat', List.cons.injEq,
      and_true]
    omega
  by_cases two : value ≤ 0x7ff
  · refine .inr (.inl ⟨by omega, two, ?_⟩)
    simp only [if_neg one, if_pos two, List.map_cons, List.map_nil, UInt8.toNat_ofNat',
      List.cons.injEq, and_true]
    omega
  by_cases three : value ≤ 0xffff
  · refine .inr (.inr (.inl ⟨by omega, three, ?_⟩))
    simp only [if_neg one, if_neg two, if_pos three, List.map_cons, List.map_nil,
      UInt8.toNat_ofNat', List.cons.injEq, and_true]
    omega
  · refine .inr (.inr (.inr ⟨by omega, ?_⟩))
    simp only [if_neg one, if_neg two, if_neg three, List.map_cons, List.map_nil,
      UInt8.toNat_ofNat', List.cons.injEq, and_true]
    omega

theorem char_numbers_ne_nil (c : Char) : charNumbers c ≠ [] := by
  rcases char_numbers_cases c with ⟨_, spelled⟩ | ⟨_, _, spelled⟩ | ⟨_, _, spelled⟩ | ⟨_, spelled⟩ <;>
    simp [spelled]

/-- The spelling of a lower character comes first, whatever follows either. -/
theorem char_numbers_lex {c d : Char} (lower : c.toNat < d.toNat) (left right : List Nat) :
    List.Lex (· < ·) (charNumbers c ++ left) (charNumbers d ++ right) := by
  rcases char_numbers_cases c with ⟨_, first⟩ | ⟨_, _, first⟩ | ⟨_, _, first⟩ | ⟨_, first⟩ <;>
    rcases char_numbers_cases d with
      ⟨_, second⟩ | ⟨_, _, second⟩ | ⟨_, _, second⟩ | ⟨_, second⟩ <;>
    simp only [first, second, List.cons_append, List.nil_append, List.cons_lex_cons_iff] <;>
    omega

theorem lex_append_left (common left right : List Nat) :
    List.Lex (· < ·) (common ++ left) (common ++ right) ↔ List.Lex (· < ·) left right := by
  induction common with
  | nil => rfl
  | cons number common induction =>
      simp only [List.cons_append, List.cons_lex_cons_iff, induction, Nat.lt_irrefl, false_or,
        true_and]

/-- The order by code points is the order of the octets. -/
theorem at_most_iff_octets (left right : Text) :
    atMost left right = true ↔ ¬ List.Lex (· < ·) (octetNumbers right) (octetNumbers left) := by
  induction left generalizing right with
  | nil => simp [atMost, octet_numbers_nil]
  | cons c left induction =>
      cases right with
      | nil =>
          obtain ⟨number, numbers, spelled⟩ := List.exists_cons_of_ne_nil (char_numbers_ne_nil c)
          rw [octet_numbers_cons, spelled, octet_numbers_nil]
          simp [atMost]
      | cons d right =>
          rw [octet_numbers_cons, octet_numbers_cons]
          by_cases same : c = d
          · subst same
            rw [lex_append_left, ← induction, atMost, if_pos rfl]
          · rw [atMost, if_neg same, decide_eq_true_eq]
            constructor
            · intro lower
              exact List.lex_asymm (fun order => Nat.lt_asymm order) (char_numbers_lex lower _ _)
            · intro notBefore
              have apart : c.toNat ≠ d.toNat := fun equal => same (Char.toNat_inj.mp equal)
              have upper : ¬ d.toNat < c.toNat := fun upper => notBefore (char_numbers_lex upper _ _)
              omega

end ShaderCost.Text
