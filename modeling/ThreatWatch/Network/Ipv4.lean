import ThreatWatch.Number.Numeral
import ThreatWatch.Text.Basic

/-! Version 4 network addresses and blocks of them. An address is written as
four decimal numbers without leading zeros; a block as an address and, after a
slash, the number of leading bits its members share, or a mask that says so. -/

namespace ThreatWatch.Network

structure Ipv4 where
  bits : BitVec 32
  deriving DecidableEq, Repr

namespace Ipv4

def readOctet? (digits : List Char) : Option Nat :=
  if digits.isEmpty || !digits.all Numeral.isPlainDigit then none
  else if digits.length > 3 then none
  else if digits.head? = some '0' ∧ digits ≠ ['0'] then none
  else
    let octet := Numeral.ofDigits digits
    if octet > 255 then none else some octet

def ofOctets (first second third fourth : Nat) : Ipv4 :=
  ⟨BitVec.ofNat 32 (((first * 256 + second) * 256 + third) * 256 + fourth)⟩

def readCharacters? (characters : List Char) : Option Ipv4 :=
  match Text.pieces '.' characters with
  | [first, second, third, fourth] => do
      return ofOctets (← readOctet? first) (← readOctet? second) (← readOctet? third)
        (← readOctet? fourth)
  | _ => none

def read? (text : String) : Option Ipv4 :=
  readCharacters? (Text.trimCharacters text.toList)

def octet (address : Ipv4) (position : Nat) : Nat :=
  (address.bits >>> (8 * (3 - position))).toNat % 256

def written (address : Ipv4) : String :=
  Text.join "." ((List.range 4).map fun position => toString (address.octet position))

def leading (address : Ipv4) (count : Nat) : BitVec 32 :=
  address.bits >>> (32 - count)

end Ipv4

structure Ipv4Block where
  base : Ipv4
  length : Nat
  deriving DecidableEq, Repr

namespace Ipv4Block

/-- The number of leading ones, if no one follows a zero. -/
def onesLength? (bits : BitVec 32) : (length : Nat) → Option Nat
  | 0 => if bits = 0 then some 0 else none
  | length + 1 =>
      if bits = BitVec.allOnes 32 <<< (32 - (length + 1)) then some (length + 1)
      else onesLength? bits length

/-- A length in digits, of which there may not be too many, or a mask with ones
in front, or one with zeros in front. -/
def readLength? (characters : List Char) : Option Nat :=
  if !characters.isEmpty && characters.all Numeral.isPlainDigit then
    let length := Numeral.ofDigits characters
    if characters.length ≤ Numeral.digitLimit ∧ length ≤ 32 then some length else none
  else do
    let mask ← Ipv4.readCharacters? characters
    match onesLength? mask.bits 32 with
    | some length => return length
    | none => onesLength? (~~~mask.bits) 32

def ofAddress (address : Ipv4) (length : Nat) : Ipv4Block :=
  ⟨⟨(address.leading length) <<< (32 - length)⟩, length⟩

/-- Reads a block from a text, between blanks; an address alone is a block of
one. -/
def read? (text : String) : Option Ipv4Block :=
  match Text.pieces '/' (Text.trimCharacters text.toList) with
  | [address] => do return ofAddress (← Ipv4.readCharacters? address) 32
  | [address, length] => do
      return ofAddress (← Ipv4.readCharacters? address) (← readLength? length)
  | _ => none

def contains (block : Ipv4Block) (address : Ipv4) : Bool :=
  address.leading block.length == block.base.leading block.length

def written (block : Ipv4Block) : String :=
  block.base.written ++ "/" ++ toString block.length

example : (read? "10.1.2.3/8").map written = some "10.0.0.0/8" := by decide +kernel
example : (read? "10.0.0.0/255.255.0.0").map Ipv4Block.length = some 16 := by decide +kernel
example : (read? "10.0.0.0/0.0.255.255").map Ipv4Block.length = some 16 := by decide +kernel

end Ipv4Block

end ThreatWatch.Network
