/-! Texts as octets. A character takes one to four octets; the first says how
many follow, and each character has only its shortest form. -/

namespace ThreatWatch.Text

/-- The form of an octet that begins a character: how many octets follow, the
bits it brings, and the bounds within which the octet after it must lie. -/
structure LeadOctet where
  following : Nat
  bits : Nat
  least : Nat := 0x80
  most : Nat := 0xBF
  deriving DecidableEq, Repr

def leadOctet? (octet : Nat) : Option LeadOctet :=
  if octet < 0x80 then some { following := 0, bits := octet }
  else if octet < 0xC2 then none
  else if octet < 0xE0 then some { following := 1, bits := octet - 0xC0 }
  else if octet = 0xE0 then some { following := 2, bits := 0, least := 0xA0 }
  else if octet = 0xED then some { following := 2, bits := 13, most := 0x9F }
  else if octet < 0xF0 then some { following := 2, bits := octet - 0xE0 }
  else if octet = 0xF0 then some { following := 3, bits := 0, least := 0x90 }
  else if octet < 0xF4 then some { following := 3, bits := octet - 0xF0 }
  else if octet = 0xF4 then some { following := 3, bits := 4, most := 0x8F }
  else none

/-- The bits of the octets that follow a lead, as long as each lies within its
bounds; `none` with the octets that were good when one does not. -/
def followingBits (least most : Nat) : (count : Nat) → (total : Nat) → List UInt8 → Option Nat
  | 0, total, _ => some total
  | _ + 1, _, [] => none
  | count + 1, total, octet :: rest =>
      if least ≤ octet.toNat ∧ octet.toNat ≤ most then
        followingBits 0x80 0xBF count (total * 64 + (octet.toNat - 0x80)) rest
      else none

/-- How many octets after a lead are good before the first that is not. -/
def goodCount (least most : Nat) : (count : Nat) → List UInt8 → Nat
  | 0, _ => 0
  | _ + 1, [] => 0
  | count + 1, octet :: rest =>
      if least ≤ octet.toNat ∧ octet.toNat ≤ most then goodCount 0x80 0xBF count rest + 1 else 0

/-- The pieces of a sequence of octets: characters, and `none` for each stretch
that is part of no character. -/
def decodePieces : (fuel : Nat) → List UInt8 → List (Option Char)
  | 0, _ => []
  | _ + 1, [] => []
  | fuel + 1, octet :: rest =>
      match leadOctet? octet.toNat with
      | none => none :: decodePieces fuel rest
      | some lead =>
          match followingBits lead.least lead.most lead.following lead.bits rest with
          | some point => some (Char.ofNat point) :: decodePieces fuel (rest.drop lead.following)
          | none =>
              none :: decodePieces fuel
                (rest.drop (goodCount lead.least lead.most lead.following rest))

def decodeUtf8? (octets : List UInt8) : Option (List Char) :=
  (decodePieces octets.length octets).mapM id

/-- The text of octets, without those that are part of no character. -/
def decodeUtf8Leniently (octets : List UInt8) : List Char :=
  (decodePieces octets.length octets).reduceOption

def encodeUtf8 (text : String) : List UInt8 :=
  text.toUTF8.data.toList

example : decodeUtf8? [0x61, 0xC3, 0xA9] = some ['a', 'é'] := by decide
example : decodeUtf8Leniently [0xC3, 0x61] = ['a'] := by decide

end ThreatWatch.Text
