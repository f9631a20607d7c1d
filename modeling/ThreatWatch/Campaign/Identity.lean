import ThreatWatch.Calendar.Iso
import ThreatWatch.Digest.Sha256
import ThreatWatch.Sorting
import ThreatWatch.Value

/-! The identity of a campaign: the day on which it was found and a digest of
the numbers of its members, so that the same members found on one day give the
same campaign. -/

namespace ThreatWatch.Campaign

def memberText? (ids : List Int) : Option String :=
  ((sortBy (fun left right => decide (left ≤ right)) ids).mapM Numeral.writeInt?).map
    (Text.join ",")

def dayText (day : Calendar.Date) : String :=
  let civil := day.civil
  String.ofList (Calendar.padDigits 1 civil.year ++ Calendar.padDigits 2 civil.month ++
    Calendar.padDigits 2 civil.day)

def identity (day : Calendar.Date) (members : String) : String :=
  "C-" ++ dayText day ++ "-" ++ String.ofList ((Sha256.hexDigest members).toList.take 8)

/-- The text for members, one of which may be without a number only if it is
alone. -/
def membersOf (ids : List (Option Int)) : Except Fault String :=
  match ids with
  | [none] => .ok Value.missingText
  | _ =>
      if ids.all Option.isSome then
        match memberText? ids.reduceOption with
        | some members => .ok members
        | none => .error .tooManyDigits
      else .error .notOrdered

def identityOf (day : Calendar.Date) (ids : List (Option Int)) : Except Fault String :=
  (membersOf ids).map (identity day)

end ThreatWatch.Campaign
