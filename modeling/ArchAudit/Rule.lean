import ArchAudit.Severity

/-!
# The rule catalogue

Every finding belongs to one of five rules.  A rule has a stable identifier, a severity and advice
on what to do.
-/

namespace ArchAudit

/-- What a finding can be about. -/
inductive Rule where
  | archSpecificLibrary
  | archSpecificBuildOption
  | vendorTuningFlag
  | counterpartTuningMissing
  | otherArchCondition
deriving DecidableEq, Repr

namespace Rule

/-- All rules in the order of their identifiers. -/
def all : List Rule :=
  [archSpecificLibrary, archSpecificBuildOption, vendorTuningFlag, counterpartTuningMissing,
    otherArchCondition]

/-- The stable identifier of a rule. -/
def id : Rule → String
  | archSpecificLibrary => "A001"
  | archSpecificBuildOption => "A002"
  | vendorTuningFlag => "A003"
  | counterpartTuningMissing => "A004"
  | otherArchCondition => "A005"

/-- The name of a rule in running text. -/
def name : Rule → String
  | archSpecificLibrary => "Architecture-Specific Library"
  | archSpecificBuildOption => "Architecture-Specific Build Option"
  | vendorTuningFlag => "Vendor-Specific Tuning Flag"
  | counterpartTuningMissing => "Counterpart Tuning Missing"
  | otherArchCondition => "Other-Architecture Condition Without AArch64"

/-- What a rule looks for. -/
def description : Rule → String
  | archSpecificLibrary =>
    "Detects find_package/find_library lookups of libraries that "
      ++ "only exist for another architecture."
  | archSpecificBuildOption =>
    "Detects -m<option> compiler flags that only exist for x86 targets."
  | vendorTuningFlag =>
    "Detects -mcpu=/-mtune= values naming Arm Neoverse cores."
  | counterpartTuningMissing =>
    "Detects files that tune for Neoverse cores but never for AmpereOne."
  | otherArchCondition =>
    "Detects CMAKE_SYSTEM_PROCESSOR branches for other architectures "
      ++ "in files that never branch on AArch64."

/-- How much a finding of the rule matters. -/
def severity : Rule → Severity
  | archSpecificLibrary => .high
  | archSpecificBuildOption => .medium
  | vendorTuningFlag => .low
  | counterpartTuningMissing => .info
  | otherArchCondition => .medium

/-- What to do about a finding of the rule. -/
def remediation : Rule → String
  | archSpecificLibrary =>
    "Guard the lookup with an architecture check and provide an AArch64 "
      ++ "alternative (e.g. OpenBLAS or Arm Performance Libraries instead of MKL)."
  | archSpecificBuildOption =>
    "Only pass x86 options when targeting x86, and add the AArch64 "
      ++ "equivalent (e.g. -march=armv8.2-a+simd) for ARM builds."
  | vendorTuningFlag =>
    "Make sure the tuning flag is only applied on AArch64 builds and "
      ++ "matches the cores you deploy on."
  | counterpartTuningMissing =>
    "Add -mcpu=ampere1 (or -mtune=ampere1) alongside the Neoverse tuning "
      ++ "when AmpereOne servers are a deployment target."
  | otherArchCondition =>
    "Add a CMAKE_SYSTEM_PROCESSOR branch for aarch64/arm64 so ARM builds "
      ++ "do not silently fall through."

/-- The rule with a given identifier, whatever the case of its ASCII letters. -/
def ofId? (id : String) : Option Rule :=
  all.find? fun rule => rule.id.map Char.toLower == id.map Char.toLower

/-- The identifier and the name of a rule. -/
def display (rule : Rule) : String :=
  rule.id ++ " " ++ rule.name

theorem mem_all (rule : Rule) : rule ∈ all := by
  cases rule <;> decide

end Rule

end ArchAudit
