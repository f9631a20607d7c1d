import ThreatWatch.Pattern.Expression

/-! Matching by backtracking. A part is matched at a position and hands the
position after it to what follows; where that fails, the part offers its next
way to match. Groups remember where they began and ended last. -/

namespace ThreatWatch.Pattern

structure MatchState where
  position : Nat
  starts : List (Nat × Nat) := []
  stops : List (Nat × Nat) := []
  deriving Inhabited

namespace MatchState

def moveTo (state : MatchState) (position : Nat) : MatchState :=
  { state with position := position }

def span? (state : MatchState) (group : Nat) : Option (Nat × Nat) :=
  match state.starts.lookup group, state.stops.lookup group with
  | some start, some stop => if start ≤ stop then some (start, stop) else none
  | _, _ => none

def openGroup (state : MatchState) (group : Nat) : MatchState :=
  { state with starts := (group, state.position) :: state.starts.filter (·.1 != group) }

def closeGroup (state : MatchState) (group : Nat) : MatchState :=
  { state with stops := (group, state.position) :: state.stops.filter (·.1 != group) }

end MatchState

abbrev Rest := MatchState → Option MatchState

/-- A part: what it does at a state, given what follows it. -/
abbrev Matcher := MatchState → Rest → Option MatchState

abbrev Subject := Array Nat

def passesAt (subject : Subject) (test : CharTest) (position : Nat) : Bool :=
  match subject[position]? with
  | some point => test.passes point
  | none => false

def isBreakAt (subject : Subject) (position : Nat) : Bool :=
  subject[position]? == some 10

def Anchor.holds (subject : Subject) (position : Nat) : Anchor → Bool
  | .start => position == 0
  | .lineStart => position == 0 || isBreakAt subject (position - 1)
  | .stop => position == subject.size ||
      (position + 1 == subject.size && isBreakAt subject position)
  | .lineStop => position == subject.size || isBreakAt subject position
  | .textStop => position == subject.size
  | .boundary asciiOnly negated =>
      if subject.isEmpty then false
      else
        let wordAt (index : Nat) := (subject[index]?.map (isWordIn asciiOnly)).getD false
        let before := position != 0 && wordAt (position - 1)
        (before != wordAt position) != negated

/-! ## Repetition -/

/-- Repetition of a part, as often as possible first. An iteration that starts
where the one before it started is not tried. -/
def repeatGreedy (body : Matcher) (least : Nat) (most : Option Nat) (rest : Rest) :
    (fuel : Nat) → (count : Nat) → (last : Option Nat) → MatchState → Option MatchState
  | 0, _, _, _ => none
  | fuel + 1, count, last, state =>
      if count < least then
        body state (repeatGreedy body least most rest fuel (count + 1) last)
      else if (most.all fun limit => decide (count < limit)) && last != some state.position then
        match body state
            (repeatGreedy body least most rest fuel (count + 1) (some state.position)) with
        | some found => some found
        | none => rest state
      else rest state

def repeatLazy (body : Matcher) (least : Nat) (most : Option Nat) (rest : Rest) :
    (fuel : Nat) → (count : Nat) → (last : Option Nat) → MatchState → Option MatchState
  | 0, _, _, _ => none
  | fuel + 1, count, last, state =>
      if count < least then
        body state (repeatLazy body least most rest fuel (count + 1) last)
      else
        match rest state with
        | some found => some found
        | none =>
            if (most.all fun limit => decide (count < limit)) &&
                last != some state.position then
              body state (repeatLazy body least most rest fuel (count + 1) (some state.position))
            else none

def repeatPossessive (body : Matcher) (least : Nat) (most : Option Nat) :
    (fuel : Nat) → (count : Nat) → MatchState → Option MatchState
  | 0, _, _ => none
  | fuel + 1, count, state =>
      if count < least then
        match body state some with
        | some next => repeatPossessive body least most fuel (count + 1) next
        | none => none
      else if most.all fun limit => decide (count < limit) then
        match body state some with
        | some next =>
            if next.position = state.position then some next
            else repeatPossessive body least most fuel (count + 1) next
        | none => some state
      else some state

def runLength (subject : Subject) (test : CharTest) (position : Nat) : (limit : Nat) → Nat
  | 0 => 0
  | limit + 1 =>
      if passesAt subject test position then runLength subject test (position + 1) limit + 1
      else 0

def fromLongest (rest : Rest) (state : MatchState) (least : Nat) : (extra : Nat) →
    Option MatchState
  | 0 => rest (state.moveTo (state.position + least))
  | extra + 1 =>
      match rest (state.moveTo (state.position + least + extra + 1)) with
      | some found => some found
      | none => fromLongest rest state least extra

def fromShortest (rest : Rest) (state : MatchState) (longest : Nat) : (fuel : Nat) →
    (count : Nat) → Option MatchState
  | 0, _ => none
  | fuel + 1, count =>
      if longest < count then none
      else
        match rest (state.moveTo (state.position + count)) with
        | some found => some found
        | none => fromShortest rest state longest fuel (count + 1)

def repeatTest (subject : Subject) (test : CharTest) (greed : Greed) (least : Nat)
    (most : Option Nat) : Matcher := fun state rest =>
  let available := subject.size - state.position
  let longest := runLength subject test state.position (min available (most.getD available))
  if longest < least then none
  else
    match greed with
    | .greedy => fromLongest rest state least (longest - least)
    | .lazy => fromShortest rest state longest (longest + 1) least
    | .possessive => rest (state.moveTo (state.position + longest))

def sameSpan (subject : Subject) (folding : Folding) (first second : Nat) :
    (length : Nat) → Bool
  | 0 => true
  | length + 1 =>
      match subject[first]?, subject[second]? with
      | some left, some right =>
          folding.lower left == folding.lower right &&
            sameSpan subject folding (first + 1) (second + 1) length
      | _, _ => false

namespace Expression

def matcher (subject : Subject) : Expression → Matcher
  | .empty => fun state rest => rest state
  | .test single => fun state rest =>
      if passesAt subject single state.position then rest (state.moveTo (state.position + 1))
      else none
  | .anchor place => fun state rest =>
      if place.holds subject state.position then rest state else none
  | .sequence first second =>
      let head := matcher subject first
      let tail := matcher subject second
      fun state rest => head state fun next => tail next rest
  | .choice first second =>
      let left := matcher subject first
      let right := matcher subject second
      fun state rest =>
        match left state rest with
        | some found => some found
        | none => right state rest
  | .group index body =>
      let inner := matcher subject body
      fun state rest => inner (state.openGroup index) fun next => rest (next.closeGroup index)
  | .atomic body =>
      let inner := matcher subject body
      fun state rest => (inner state some).bind rest
  | .repeated greed least most (.test single) => repeatTest subject single greed least most
  | .repeated greed least most body =>
      let inner := matcher subject body
      fun state rest =>
        let fuel := least + (subject.size - state.position) + 3
        match greed with
        | .greedy => repeatGreedy inner least most rest fuel 0 none state
        | .lazy => repeatLazy inner least most rest fuel 0 none state
        | .possessive => (repeatPossessive inner least most fuel 0 state).bind rest
  | .reference folding index _ => fun state rest =>
      match state.span? index with
      | none => none
      | some (start, stop) =>
          if sameSpan subject folding start state.position (stop - start) then
            rest (state.moveTo (state.position + (stop - start)))
          else none
  | .ahead negated body =>
      let inner := matcher subject body
      fun state rest =>
        match inner state some, negated with
        | some found, false => rest (found.moveTo state.position)
        | none, true => rest state
        | _, _ => none
  | .behind negated body =>
      let inner := matcher subject body
      let back := body.width.1
      fun state rest =>
        let found := if back ≤ state.position then
            inner (state.moveTo (state.position - back)) some
          else none
        match found, negated with
        | some found, false => rest (found.moveTo state.position)
        | none, true => rest state
        | _, _ => none
  | .ifGroup index present missing =>
      let whenPresent := matcher subject present
      let whenMissing := matcher subject missing
      fun state rest =>
        if (state.span? index).isSome then whenPresent state rest else whenMissing state rest

def searchFrom (matcher : Matcher) : (remaining : Nat) → (position : Nat) → Bool
  | 0, position => (matcher { position := position } some).isSome
  | remaining + 1, position =>
      (matcher { position := position } some).isSome || searchFrom matcher remaining (position + 1)

def occursIn (expression : Expression) (text : String) : Bool :=
  let subject : Subject := (text.toList.map Char.toNat).toArray
  searchFrom (expression.matcher subject) subject.size 0

end Expression

end ThreatWatch.Pattern
