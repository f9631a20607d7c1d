import ThreatWatch.Text.CodePoints

/-! Blank characters: the separators, the controls that act as separators, and
the spaces of every script. -/

namespace ThreatWatch.Text

def blanks : CodePoints := ⟨[
  0x9, 0xE, 0x1C, 0x21, 0x85, 0x86, 0xA0, 0xA1, 0x1680, 0x1681, 0x2000, 0x200B, 0x2028,
  0x202A, 0x202F, 0x2030, 0x205F, 0x2060, 0x3000, 0x3001]⟩

def isBlank (character : Char) : Bool :=
  blanks.contains character

example : isBlank ' ' = true := rfl
example : isBlank '\u00a0' = true := rfl
example : isBlank 'x' = false := rfl

end ThreatWatch.Text
