/-!
Texts are lists of Unicode scalar values. A string literal stands for the text it spells. This
module holds the searches that do not depend on any character class.
-/

namespace ShaderCost

abbrev Text := List Char

instance : Coe String Text := ⟨String.toList⟩

namespace Text

/-- What follows `start`, when the text begins with it. -/
def after? : Text → Text → Option Text
  | [], text => some text
  | _ :: _, [] => none
  | c :: start, d :: text => if c = d then after? start text else none

theorem after_length {start text rest : Text} (found : after? start text = some rest) :
    text.length = start.length + rest.length := by
  induction start generalizing text with
  | nil =>
      simp only [after?, Option.some.injEq] at found
      simp [found]
  | cons c start induction =>
      cases text with
      | nil => simp [after?] at found
      | cons d text =>
          rw [after?] at found
          split at found
          · have shorter := induction found
            simp only [List.length_cons]
            omega
          · simp at found

/-- The order by code points, which is the order of the octets that spell the texts. -/
def atMost : Text → Text → Bool
  | [], _ => true
  | _ :: _, [] => false
  | c :: left, d :: right => if c = d then atMost left right else c.toNat < d.toNat

/-- Whether the needle occurs anywhere in the text. -/
def contains (needle : Text) : Text → Bool
  | [] => needle.isEmpty
  | c :: rest => needle.isPrefixOf (c :: rest) || contains needle rest

/-- The text before the first `stop` and the text after it. -/
def splitAt? (stop : Char) : Text → Option (Text × Text)
  | [] => none
  | c :: rest =>
      if c = stop then some ([], rest)
      else (splitAt? stop rest).map fun (before, behind) => (c :: before, behind)

def endsWith (ending text : Text) : Bool := ending.isSuffixOf text

def joinLines (lines : List Text) : Text := List.intercalate ['\n'] lines

end Text

end ShaderCost
