import ThreatWatch.Proofs.Course
import ThreatWatch.Proofs.Scanning
import ThreatWatch.Proofs.Stamps

/-! Scans that fail. Whichever call of a scan meets an obstacle, the scan ends in the
fault of that call and leaves the correlator as it was, so that a later scan does all
that it would have done without the failed one. A scan asked for while another one is
under way is refused and changes nothing either. -/

namespace ThreatWatch

/-- Surroundings in which one call alone, counted from one, meets an obstacle. -/
def Surroundings.failingAt (written : Calendar.Moment) (position : Nat) (fault : Fault) :
    Surroundings where
  now := written
  obstacle calls := if calls.length = position then some fault else none

theorem Work.firstFault_failingAt (written : Calendar.Moment) (position : Nat) (fault : Fault)
    (made calls : List StoreCall) :
    firstFault (Surroundings.failingAt written position fault).obstacle made calls =
      if made.length < position ∧ position ≤ made.length + calls.length then some fault
      else none := by
  induction calls generalizing made with
  | nil =>
      rw [if_neg (by simp)]
      rfl
  | cons call rest induction =>
      simp only [firstFault, Surroundings.failingAt] at induction ⊢
      rw [induction (call :: made)]
      simp only [List.length_cons]
      by_cases here : made.length + 1 = position
      · rw [if_pos here]
        exact (if_pos (by omega)).symm
      · rw [if_neg here]
        refine if_congr ?_ rfl rfl
        omega

/-- The calls of a scan that completes with a report: it reads, keeps one campaign after
another and commits. -/
def Scan.callsOf (report : ScanReport) : List StoreCall :=
  .fetch :: keepingCalls (report.created + report.updated) ++ [.commit]

namespace Correlator

variable {correlator : Correlator} {now : Calendar.Moment}

theorem scan_of_scanning (busy : correlator.scanning = true) (surroundings : Surroundings) :
    correlator.scan surroundings now = (.error .scanInProgress, correlator) := by
  simp [scan, beginScan, busy]

theorem scan_of_failed_run (free : correlator.scanning = false) {surroundings : Surroundings}
    {fault : Fault}
    (failed : (Scan.work correlator.settings now).run surroundings correlator.store =
      .error fault) :
    correlator.scan surroundings now = (.error fault, correlator) := by
  simp only [scan, beginScan, endScan, free, Bool.false_eq_true, if_false, failed]
  rw [← free]

theorem scan_congr {surroundings others : Surroundings}
    (same : (Scan.work correlator.settings now).run surroundings correlator.store =
      (Scan.work correlator.settings now).run others correlator.store) :
    correlator.scan surroundings now = correlator.scan others now := by
  unfold scan beginScan
  cases correlator.scanning <;> simp [same]

/-- A scan that is let in makes certain calls. Where it fails at one of them it ends in
the fault of that call and nothing has changed; a failure beyond them is never met. -/
theorem exists_calls (free : correlator.scanning = false) (written : Calendar.Moment) :
    ∃ calls : List StoreCall,
      (∀ report, (correlator.scan { now := written } now).1 = .ok report →
        calls = Scan.callsOf report) ∧
      ∀ position fault,
        correlator.scan (.failingAt written position fault) now =
          if 1 ≤ position ∧ position ≤ calls.length then (.error fault, correlator)
          else correlator.scan { now := written } now := by
  rcases (Scan.makes_work correlator.settings now).exists_calls correlator.store with
    ⟨calls, among, completed⟩
  refine ⟨calls, fun report completes => ?_, fun position fault => ?_⟩
  · rcases completed _ _ (run_of_scan completes) with ⟨before, kept, all⟩
    rw [all, kept]
    rfl
  · have ends := among (Surroundings.failingAt written position fault).obstacle
    rw [Work.firstFault_failingAt] at ends
    simp only [List.length_nil, Nat.zero_add] at ends
    split
    · next met =>
        rw [if_pos (by omega)] at ends
        exact scan_of_failed_run free ends
    · next passed =>
        rw [if_neg (by omega)] at ends
        exact scan_congr ends

/-- Scans by the same reading of the clock report the same and leave the same store but
for its stamps, whenever they write. -/
theorem scan_unstamped (correlator : Correlator) (written rewritten now : Calendar.Moment) :
    (correlator.scan { now := rewritten } now).1 = (correlator.scan { now := written } now).1 ∧
      (correlator.scan { now := rewritten } now).2.store.unstamped =
        (correlator.scan { now := written } now).2.store.unstamped := by
  cases free : correlator.scanning with
  | true => simp [scan_of_scanning free]
  | false =>
      have same : correlator.store.unstamped = correlator.store.unstamped := rfl
      have ends := (Scan.parallels_work correlator.settings now).run (fun _ => none)
        rewritten written same
      cases first : (Scan.work correlator.settings now).run { now := rewritten }
          correlator.store with
      | error fault =>
          cases second : (Scan.work correlator.settings now).run { now := written }
              correlator.store with
          | error again =>
              rw [first, second] at ends
              cases ends
              rw [scan_of_failed_run free first, scan_of_failed_run free second]
              exact ⟨rfl, rfl⟩
          | ok reached => rw [first, second] at ends; cases ends
      | ok reached =>
          cases second : (Scan.work correlator.settings now).run { now := written }
              correlator.store with
          | error fault => rw [first, second] at ends; cases ends
          | ok again =>
              rw [first, second] at ends
              have same := Prod.mk.inj (Except.ok.inj ends)
              rw [scan_of_run free first, scan_of_run free second]
              exact ⟨congrArg Except.ok same.1, same.2⟩

theorem scan_eq_self_of_error {surroundings : Surroundings} {fault : Fault}
    (failed : (correlator.scan surroundings now).1 = .error fault) :
    (correlator.scan surroundings now).2 = correlator := by
  rw [scan_snd, store_of_failed_scan failed]

/-- A scan that fails leaves no trace. One that is refused while another is under way
changes neither the store nor who may scan. One that is let in ends in the fault of
whichever of its calls fails and leaves the store as it was and the right to scan free.
After a failure of either kind a scan that nothing hinders comes to the same report, the
same threats and the same campaigns but for their stamps as if the failed one had never
been made. -/
theorem failed_scan_leaves_no_trace (correlator : Correlator) (now : Calendar.Moment) :
    (correlator.scanning = true → ∀ surroundings,
      correlator.scan surroundings now = (.error .scanInProgress, correlator)) ∧
    (correlator.scanning = false → ∀ written, ∃ calls : List StoreCall,
      (∀ report, (correlator.scan { now := written } now).1 = .ok report →
        calls = Scan.callsOf report) ∧
      ∀ position fault,
        correlator.scan (.failingAt written position fault) now =
          if 1 ≤ position ∧ position ≤ calls.length then (.error fault, correlator)
          else correlator.scan { now := written } now) ∧
    ∀ surroundings fault, (correlator.scan surroundings now).1 = .error fault →
      (correlator.scan surroundings now).2 = correlator ∧
      ∀ written rewritten,
        ((correlator.scan surroundings now).2.scan { now := rewritten } now).1 =
          (correlator.scan { now := written } now).1 ∧
        ((correlator.scan surroundings now).2.scan { now := rewritten } now).2.store.unstamped =
          (correlator.scan { now := written } now).2.store.unstamped := by
  refine ⟨scan_of_scanning, exists_calls, fun surroundings fault failed => ?_⟩
  rw [scan_eq_self_of_error failed]
  exact ⟨rfl, fun written rewritten => scan_unstamped correlator written rewritten now⟩

/-- The scan of three attacks fails while it tags the two that make a campaign, with the
campaign saved already. Nothing has changed, and an hour later they are found again. -/
theorem failed_tag_leaves_no_trace :
    afterThreeAttacks.scan (.failingAt (History.reading 200) 4 (.storeFailure "disk full"))
        (History.reading 200) = (.error (.storeFailure "disk full"), afterThreeAttacks) ∧
      ((afterThreeAttacks.scan (.failingAt (History.reading 200) 4 (.storeFailure "disk full"))
        (History.reading 200)).2.scan (History.unhindered 260) (History.reading 200)).1 =
          .ok ⟨1, 0, 2⟩ := by
  have completes : (afterThreeAttacks.scan { now := History.reading 200 } (History.reading 200)).1 =
      .ok ⟨1, 0, 2⟩ := by decide +kernel
  rcases failed_scan_leaves_no_trace afterThreeAttacks (History.reading 200) with ⟨_, letIn, after⟩
  rcases letIn rfl (History.reading 200) with ⟨calls, isCalls, fails⟩
  have failed := fails 4 (.storeFailure "disk full")
  rw [isCalls _ completes, if_pos (by decide)] at failed
  refine ⟨failed, ?_⟩
  have again := (after _ _ (congrArg Prod.fst failed)).2 (History.reading 200)
    (History.reading 260)
  exact again.1.trans completes

end Correlator

end ThreatWatch
