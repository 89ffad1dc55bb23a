import ShaderCost.Text.Basic

/-!
Texts as octets in UTF-8. Reading a file refuses octets that are no text; reading what a process
printed replaces each maximal ill-formed piece by one replacement character.
-/

namespace ShaderCost

abbrev Octets := ByteArray

namespace Text

def toOctets (text : Text) : Octets := (String.ofList text).toUTF8

/-- The text that the octets spell, when they are well-formed UTF-8. -/
def ofOctets? (octets : Octets) : Option Text := (String.fromUTF8? octets).map String.toList

/-- What may follow the first octet of a character: how many octets, and the range of the next.
Later ones always lie in `80` to `bf`. -/
structure Owed where
  count : Nat
  low : Nat
  high : Nat

/-- What a first octet announces, with the bits of the code point that it carries. -/
def lead? (octet : Nat) : Option (Owed × Nat) :=
  if octet < 0x80 then some (⟨0, 0, 0⟩, octet)
  else if 0xc2 ≤ octet && octet ≤ 0xdf then some (⟨1, 0x80, 0xbf⟩, octet - 0xc0)
  else if octet = 0xe0 then some (⟨2, 0xa0, 0xbf⟩, 0)
  else if octet = 0xed then some (⟨2, 0x80, 0x9f⟩, 0xd)
  else if 0xe1 ≤ octet && octet ≤ 0xef then some (⟨2, 0x80, 0xbf⟩, octet - 0xe0)
  else if octet = 0xf0 then some (⟨3, 0x90, 0xbf⟩, 0)
  else if 0xf1 ≤ octet && octet ≤ 0xf3 then some (⟨3, 0x80, 0xbf⟩, octet - 0xf0)
  else if octet = 0xf4 then some (⟨3, 0x80, 0x8f⟩, 4)
  else none

def replacement : Char := '\ufffd'

mutual

/-- Decodes between characters. -/
def decodeLossy : List UInt8 → Text
  | [] => []
  | octet :: rest =>
      match lead? octet.toNat with
      | none => replacement :: decodeLossy rest
      | some (owed, bits) =>
          if owed.count = 0 then Char.ofNat bits :: decodeLossy rest
          else decodeTail owed bits rest

/-- Decodes inside a character. An octet that does not fit ends the ill-formed piece and is read
again as the first of the next one. -/
def decodeTail (owed : Owed) (bits : Nat) : List UInt8 → Text
  | [] => [replacement]
  | octet :: rest =>
      let value := octet.toNat
      if owed.low ≤ value && value ≤ owed.high then
        let bits := bits * 64 + (value - 0x80)
        if owed.count = 1 then Char.ofNat bits :: decodeLossy rest
        else decodeTail ⟨owed.count - 1, 0x80, 0xbf⟩ bits rest
      else
        match lead? value with
        | none => replacement :: replacement :: decodeLossy rest
        | some (next, nextBits) =>
            if next.count = 0 then replacement :: Char.ofNat nextBits :: decodeLossy rest
            else replacement :: decodeTail next nextBits rest

end

/-- The text that the octets spell, with replacement characters for what is ill-formed. -/
def ofOctetsLossy (octets : Octets) : Text := decodeLossy octets.toList

end Text

end ShaderCost
