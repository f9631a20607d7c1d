import ThreatWatch.Pattern.Letter
import ThreatWatch.Text.Digit
import ThreatWatch.Text.Word
import ThreatWatch.Text.Blank

/-! Regular expressions as trees. Every leaf carries how it treats letter case
and which characters it knows, so the tree can be matched without further
settings. Code points are numbers, because an expression may name points that no
text holds. -/

namespace ThreatWatch.Pattern

inductive Folding where
  | exact
  | ascii
  | unicode
  deriving DecidableEq, Repr

inductive Category where
  | digit
  | blank
  | word
  deriving DecidableEq, Repr

inductive SetItem where
  | point (value : Nat)
  | range (first last : Nat)
  | category (kind : Category) (negated : Bool)
  deriving DecidableEq, Repr

inductive CharTest where
  | point (folding : Folding) (value : Nat)
  | notPoint (folding : Folding) (value : Nat)
  | any (lineBreaks : Bool)
  | set (folding : Folding) (asciiOnly negated : Bool) (items : List SetItem)
  deriving DecidableEq, Repr

inductive Anchor where
  | start
  | lineStart
  | stop
  | lineStop
  | textStop
  | boundary (asciiOnly negated : Bool)
  deriving DecidableEq, Repr

inductive Greed where
  | greedy
  | lazy
  | possessive
  deriving DecidableEq, Repr

inductive Expression where
  | empty
  | test (test : CharTest)
  | anchor (place : Anchor)
  | sequence (first second : Expression)
  | choice (first second : Expression)
  | group (index : Nat) (body : Expression)
  | atomic (body : Expression)
  | repeated (greed : Greed) (least : Nat) (most : Option Nat) (body : Expression)
  | reference (folding : Folding) (index : Nat) (width : Nat × Nat)
  | ahead (negated : Bool) (body : Expression)
  | behind (negated : Bool) (body : Expression)
  | ifGroup (index : Nat) (present missing : Expression)
  deriving DecidableEq, Repr, Inhabited

namespace Expression

def widthLimit : Nat := 0x10000000000000000

def width : Expression → Nat × Nat
  | .empty => (0, 0)
  | .test _ => (1, 1)
  | .anchor _ => (0, 0)
  | .sequence first second =>
      let (least, most) := first.width
      let (others, rest) := second.width
      (min (least + others) widthLimit, min (most + rest) widthLimit)
  | .choice first second =>
      let (least, most) := first.width
      let (others, rest) := second.width
      (min least others, max most rest)
  | .group _ body => body.width
  | .atomic body => body.width
  | .repeated _ least most body =>
      let (low, high) := body.width
      let top := match most with
        | some most => min (high * most) widthLimit
        | none => if high = 0 then 0 else widthLimit
      (min (low * least) widthLimit, top)
  | .reference _ _ width => width
  | .ahead _ _ => (0, 0)
  | .behind _ _ => (0, 0)
  | .ifGroup _ present missing =>
      let (least, most) := present.width
      let (others, rest) := missing.width
      (min least others, max most rest)

def fixedLookbehind : Expression → Bool
  | .sequence first second | .choice first second => first.fixedLookbehind && second.fixedLookbehind
  | .group _ body | .atomic body | .repeated _ _ _ body | .ahead _ body => body.fixedLookbehind
  | .behind _ body =>
      let (least, most) := body.width
      least == most && decide (least < 0x100000000) && body.fixedLookbehind
  | .ifGroup _ present missing => present.fixedLookbehind && missing.fixedLookbehind
  | _ => true

def hasRepeat : Expression → Bool
  | .repeated _ _ _ _ => true
  | .sequence first second | .choice first second => first.hasRepeat || second.hasRepeat
  | .group _ body | .atomic body | .ahead _ body | .behind _ body => body.hasRepeat
  | .ifGroup _ present missing => present.hasRepeat || missing.hasRepeat
  | _ => false

end Expression

/-! ## Testing a character -/

def asciiLowerPoint (point : Nat) : Nat :=
  if 65 ≤ point ∧ point ≤ 90 then point + 32 else point

def isAsciiLetter (point : Nat) : Bool :=
  decide (65 ≤ point ∧ point ≤ 90) || decide (97 ≤ point ∧ point ≤ 122)

def Folding.isCased : Folding → Nat → Bool
  | .exact, _ => false
  | .ascii, point => isAsciiLetter point
  | .unicode, point => isCasedPoint point

def Folding.lower : Folding → Nat → Nat
  | .exact, point => point
  | .ascii, point => asciiLowerPoint point
  | .unicode, point => lowerPoint point

def isWordIn (asciiOnly : Bool) (point : Nat) : Bool :=
  if asciiOnly then isAsciiLetter point || decide (48 ≤ point ∧ point ≤ 57) || point == 95
  else Text.isWord (Char.ofNat point)

def Category.holds (asciiOnly : Bool) (point : Nat) : Category → Bool
  | .digit =>
      if asciiOnly then decide (48 ≤ point ∧ point ≤ 57) else Text.isDecimal (Char.ofNat point)
  | .blank =>
      if asciiOnly then point == 32 || decide (9 ≤ point ∧ point ≤ 13)
      else Text.isBlank (Char.ofNat point)
  | .word => isWordIn asciiOnly point

def basicLimit : Nat := 0x10000

def rangeHolds (first last point : Nat) : Bool :=
  decide (first ≤ point ∧ point ≤ last)

def variantSources (point : Nat) : List Nat :=
  point :: (letterVariants.filter fun entry => entry.2.contains point).map Prod.fst

/-- Whether a letter of the basic plane inside a range has a given lower form,
or a variant of it. -/
def rangeReaches (folding : Folding) (first last point : Nat) : Bool :=
  let inside (source : Nat) := rangeHolds first last source && decide (source < basicLimit)
  match folding with
  | .exact => rangeHolds first last point
  | .ascii =>
      (inside point && asciiLowerPoint point == point) ||
        (decide (97 ≤ point ∧ point ≤ 122) && inside (point - 32))
  | .unicode => (variantSources point).any fun source => (lowerSources source).any inside

/-- Beyond the basic plane a set compares single points without folding them,
and ranges through the upper form. -/
def SetItem.holdsFolded (folding : Folding) (asciiOnly : Bool) (point : Nat) : SetItem → Bool
  | .point value =>
      let lower := folding.lower value
      if lower < basicLimit then
        lower == point || (folding == .unicode && (variantsOf lower).contains point)
      else value == point
  | .range first last =>
      rangeReaches folding first last point ||
        (decide (basicLimit ≤ last) &&
          (rangeHolds first last point || rangeHolds first last (upperPoint point)))
  | .category kind negated => kind.holds asciiOnly point != negated

def SetItem.holds (asciiOnly : Bool) (point : Nat) : SetItem → Bool
  | .point value => value == point
  | .range first last => rangeHolds first last point
  | .category kind negated => kind.holds asciiOnly point != negated

def rangeIsCased (folding : Folding) (first last : Nat) : Bool :=
  match folding with
  | .exact => false
  | .ascii =>
      decide (basicLimit ≤ last) || decide (first ≤ 90 ∧ 65 ≤ last) ||
        decide (first ≤ 122 ∧ 97 ≤ last)
  | .unicode =>
      decide (basicLimit ≤ last) ||
        (Text.lowerRuns.any fun run => decide (first ≤ run.last ∧ run.first ≤ last)) ||
        (Text.upperRuns.any fun run => decide (first ≤ run.last ∧ run.first ≤ last)) ||
        (Text.upperExpansions.any fun entry => rangeHolds first last entry.1)

def SetItem.isCased (folding : Folding) : SetItem → Bool
  | .point value =>
      folding.isCased value || (folding != .exact && decide (basicLimit ≤ value))
  | .range first last => rangeIsCased folding first last
  | .category _ _ => false

def CharTest.passes (point : Nat) : CharTest → Bool
  | .point folding value =>
      match folding with
      | .unicode => pointsAgree value point
      | .exact => value == point
      | .ascii => if isAsciiLetter value then asciiLowerPoint value == asciiLowerPoint point
          else value == point
  | .notPoint folding value =>
      match folding with
      | .unicode => !pointsAgree value point
      | .exact => value != point
      | .ascii => if isAsciiLetter value then asciiLowerPoint value != asciiLowerPoint point
          else value != point
  | .any lineBreaks => lineBreaks || point != 10
  | .set folding asciiOnly negated items =>
      if items.any (SetItem.isCased folding) then
        items.any (SetItem.holdsFolded folding asciiOnly (folding.lower point)) != negated
      else items.any (SetItem.holds asciiOnly point) != negated

end ThreatWatch.Pattern
