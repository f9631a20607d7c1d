import ThreatWatch.Text.Hexadecimal
import ThreatWatch.Text.Printable

/-! Quoted texts: the form in which messages show a text. Single quotes stand
around it, unless it holds a single quote and no double quote; the quote in
use, the backslash and whatever cannot be printed are escaped. -/

namespace ThreatWatch.Text

def singleQuote : Char := '\x27'
def doubleQuote : Char := '\x22'

def quoteFor (holdsSingle holdsDouble : Bool) : Char :=
  if holdsSingle && !holdsDouble then doubleQuote else singleQuote

def letterEscape? (character : Char) : Option Char :=
  if character = '\n' then some 'n'
  else if character = '\r' then some 'r'
  else if character = '\t' then some 't'
  else none

def pointEscape (point : Nat) : List Char :=
  if point < 0x100 then '\\' :: 'x' :: hexDigits 2 point
  else if point < 0x10000 then '\\' :: 'u' :: hexDigits 4 point
  else '\\' :: 'U' :: hexDigits 8 point

def escapeCharacter (quote : Char) (character : Char) : List Char :=
  if character = quote ∨ character = '\\' then ['\\', character]
  else
    match letterEscape? character with
    | some letter => ['\\', letter]
    | none => if isPrintable character then [character] else pointEscape character.toNat

def quotedCharacters (characters : List Char) : List Char :=
  let quote := quoteFor (characters.contains singleQuote) (characters.contains doubleQuote)
  quote :: characters.flatMap (escapeCharacter quote) ++ [quote]

def quoted (text : String) : String :=
  String.ofList (quotedCharacters text.toList)

/-- Octets are quoted like the text of the same code points, except that only
the printable characters of the first half stand for themselves. -/
def escapeOctet (quote : Char) (octet : UInt8) : List Char :=
  let character := Char.ofNat octet.toNat
  if octet.toNat < 0x7f then escapeCharacter quote character
  else pointEscape octet.toNat

def quotedOctets (octets : List UInt8) : String :=
  let quote := quoteFor (octets.contains 0x27) (octets.contains 0x22)
  String.ofList ('b' :: quote :: octets.flatMap (escapeOctet quote) ++ [quote])

example : quotedCharacters ['a', '\n'] = [singleQuote, 'a', '\\', 'n', singleQuote] := rfl

end ThreatWatch.Text
