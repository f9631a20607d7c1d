import ThreatWatch.Number.Numeral
import ThreatWatch.Text.Hexadecimal
import ThreatWatch.Text.Utf8
import ThreatWatch.Yaml.Cursor
import ThreatWatch.Yaml.Token

/-! Anchors, aliases, tags and directives: what a document says about its nodes
rather than in them. -/

namespace ThreatWatch.Yaml.Property

def refuse {α : Type} : Except Fault α :=
  .error .yaml

/-! ## Names -/

def readName (cursor : Cursor) : Except Fault (String × Cursor) :=
  let (name, after) := cursor.span isNameCharacter
  if name.isEmpty then refuse else .ok (String.ofList name, after)

def readMarkedName (cursor : Cursor) : Except Fault (String × Cursor) := do
  let (name, after) ← readName cursor.step
  let ends := after.peek?.all fun character =>
    endsWord (some character) || "?:,]\x7d%@\x60".toList.contains character
  if ends then return (name, after) else refuse

/-! ## Tags -/

def isUriCharacter (character : Char) : Bool :=
  isNameCharacter character || ";/?:@&=+$,.!~*\x27()[]".toList.contains character

def readHexPair (cursor : Cursor) : Except Fault (UInt8 × Cursor) :=
  match cursor.rest with
  | first :: second :: _ =>
      match Text.hexNumber? [first, second] with
      | some octet => .ok (UInt8.ofNat octet, cursor.skip 2)
      | none => refuse
  | _ => refuse

def readEscapes : (fuel : Nat) → Cursor → Except Fault (List UInt8 × Cursor)
  | 0, cursor => .ok ([], cursor)
  | fuel + 1, cursor =>
      if cursor.peek? == some '%' then do
        let (octet, next) ← readHexPair cursor.step
        let (others, after) ← readEscapes fuel next
        return (octet :: others, after)
      else .ok ([], cursor)

def readUriFrom : (fuel : Nat) → Cursor → Except Fault (List Char × Cursor)
  | 0, cursor => .ok ([], cursor)
  | fuel + 1, cursor =>
      let (plain, next) := cursor.span isUriCharacter
      if next.peek? == some '%' then do
        let (octets, next) ← readEscapes next.rest.length next
        match Text.decodeUtf8? octets with
        | none => refuse
        | some decoded =>
            let (others, after) ← readUriFrom fuel next
            return (plain ++ decoded ++ others, after)
      else .ok (plain, next)

def readUri (cursor : Cursor) : Except Fault (String × Cursor) := do
  let (characters, after) ← readUriFrom (cursor.rest.length + 1) cursor
  if after.index = cursor.index then refuse else return (String.ofList characters, after)

def readHandle (cursor : Cursor) : Except Fault (String × Cursor) :=
  if cursor.peek? != some '!' then refuse
  else
    let next := cursor.step
    if next.peek? == some ' ' then .ok ("!", next)
    else
      let (name, after) := next.span isNameCharacter
      if after.peek? == some '!' then
        .ok (String.ofList ('!' :: name ++ ['!']), after.step)
      else refuse

def hasHandle (cursor : Cursor) : Bool :=
  (cursor.step.rest.takeWhile fun character => !endsLineOrSpace (some character)).contains '!'

def readTagBody (cursor : Cursor) : Except Fault (Token × Cursor) := do
  let next := cursor.peekAt? 1
  if next == some '<' then
    let (uri, after) ← readUri (cursor.skip 2)
    if after.peek? == some '>' then return (.tag none uri, after.step) else refuse
  else if endsWord next then return (.tag none "!", cursor.step)
  else if hasHandle cursor then
    let (handle, next) ← readHandle cursor
    let (suffix, after) ← readUri next
    return (.tag (some handle) suffix, after)
  else
    let (suffix, after) ← readUri cursor.step
    return (.tag (some "!") suffix, after)

def readTag (cursor : Cursor) : Except Fault (Token × Cursor) := do
  let (token, after) ← readTagBody cursor
  if endsLineOrSpace after.peek? then return (token, after) else refuse

/-! ## Directives -/

def readNumber (cursor : Cursor) : Except Fault (Nat × Cursor) :=
  let (digits, after) := cursor.span isPlainDigit
  if digits.isEmpty then refuse
  else if digits.length > Numeral.digitLimit then .error .tooManyDigits
  else .ok (Numeral.ofDigits digits, after)

def readVersion (cursor : Cursor) : Except Fault (Directive × Cursor) := do
  let (major, next) ← readNumber (cursor.skipWhile isSpace)
  if next.peek? != some '.' then refuse
  else
    let (minor, after) ← readNumber next.step
    if endsLineOrSpace after.peek? then return (.version major minor, after) else refuse

def readHandleDirective (cursor : Cursor) : Except Fault (Directive × Cursor) := do
  let (handle, next) ← readHandle (cursor.skipWhile isSpace)
  if next.peek? != some ' ' then refuse
  else
    let (expansion, after) ← readUri (next.skipWhile isSpace)
    if endsLineOrSpace after.peek? then return (.handle handle expansion, after) else refuse

def readDirective (cursor : Cursor) : Except Fault (Directive × Cursor) := do
  let (name, next) ← readName cursor.step
  if !endsLineOrSpace next.peek? then refuse
  else
    let (directive, next) ←
      if name = "YAML" then readVersion next
      else if name = "TAG" then readHandleDirective next
      else pure (.other, next.skipWhile fun character => !isBreak character)
    let next := (next.skipWhile isSpace).skipComment
    if endsLine next.peek? then return (directive, next.lineBreak.2) else refuse

end ThreatWatch.Yaml.Property
