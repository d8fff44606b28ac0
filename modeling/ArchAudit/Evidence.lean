import ArchAudit.Issue

/-!
# Evidence about a file

Some issues show only in a file as a whole: a branch for another architecture matters if no branch
for AArch64 stands anywhere in the file, and tuning for one vendor matters if tuning for the other
is missing.  The evidence collects what has been seen; the verdict is drawn when the file ends.
-/

namespace ArchAudit

/-- What one file has shown so far. -/
structure Evidence where
  /-- The most recent condition on another architecture. -/
  otherCondition : Option String
  /-- Whether the file knows about AArch64. -/
  aarch64 : Bool
  /-- Whether the file tunes for Neoverse cores. -/
  neoverse : Bool
  /-- Whether the file tunes for AmpereOne cores. -/
  ampereOne : Bool
deriving DecidableEq, Repr

namespace Evidence

/-- Nothing has been seen. -/
def empty : Evidence :=
  ⟨none, false, false, false⟩

/-- Remembers a condition on another architecture in place of any earlier one. -/
def recordOtherCondition (evidence : Evidence) (condition : String) : Evidence :=
  { evidence with otherCondition := some condition }

/-- Notes that the file branches on AArch64. -/
def markAarch64 (evidence : Evidence) : Evidence :=
  { evidence with aarch64 := true }

/-- Notes a tuning flag.  All tuned cores are AArch64 cores, so the file knows about AArch64. -/
def markTuning (evidence : Evidence) : Vendor → Evidence
  | .neoverse => { evidence with aarch64 := true, neoverse := true }
  | .ampereOne => { evidence with aarch64 := true, ampereOne := true }

/-- The issue of a condition on another architecture in a file that does not know AArch64. -/
def conditionVerdict (evidence : Evidence) : List Issue :=
  match evidence.otherCondition with
  | some condition => if evidence.aarch64 then [] else [.otherArchCondition condition]
  | none => []

/-- The issue of tuning for Neoverse cores and not for AmpereOne cores. -/
def tuningVerdict (evidence : Evidence) : List Issue :=
  if evidence.neoverse && !evidence.ampereOne then
    [.counterpartTuningMissing .neoverse .ampereOne]
  else []

/-- The issues of the file as a whole, conditions first. -/
def verdict (evidence : Evidence) : List Issue :=
  evidence.conditionVerdict ++ evidence.tuningVerdict

end Evidence

end ArchAudit
