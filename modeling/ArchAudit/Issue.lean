import ArchAudit.Rule
import ArchAudit.Text.Blank

/-!
# Issues

What was detected, with the words that were matched, and the title and description under which it
is reported.
-/

namespace ArchAudit

/-- A family of processor cores named by a tuning flag. -/
inductive Vendor where
  | neoverse
  | ampereOne
deriving DecidableEq, Repr

namespace Vendor

/-- All vendors. -/
def all : List Vendor :=
  [neoverse, ampereOne]

/-- The name of a vendor in running text. -/
def name : Vendor → String
  | neoverse => "Neoverse"
  | ampereOne => "AmpereOne"

/-- The name of a vendor in structured data. -/
def key : Vendor → String
  | neoverse => "neoverse"
  | ampereOne => "ampereone"

/-- The vendor with a given name in structured data. -/
def ofKey? (key : String) : Option Vendor :=
  all.find? fun vendor => vendor.key == key

end Vendor

/-- What was detected. -/
inductive Issue where
  /-- A lookup of a library that is tied to another architecture. -/
  | archSpecificLibrary (library : String)
  /-- A `-m` option that exists for x86 only. -/
  | archSpecificBuildOption (option : String)
  /-- A `-mcpu=` or `-mtune=` flag that names a core of a vendor. -/
  | vendorTuningFlag (vendor : Vendor) (flag value : String)
  /-- Tuning for one vendor without tuning for the other. -/
  | counterpartTuningMissing (present missing : Vendor)
  /-- A branch for another architecture in a file with none for AArch64. -/
  | otherArchCondition (condition : String)
deriving DecidableEq, Repr

namespace Issue

/-- The rule that an issue falls under. -/
def rule : Issue → Rule
  | archSpecificLibrary .. => .archSpecificLibrary
  | archSpecificBuildOption .. => .archSpecificBuildOption
  | vendorTuningFlag .. => .vendorTuningFlag
  | counterpartTuningMissing .. => .counterpartTuningMissing
  | otherArchCondition .. => .otherArchCondition

/-- One line that says what was detected. -/
def title : Issue → String
  | archSpecificLibrary library => "Architecture-specific library: " ++ library
  | archSpecificBuildOption option => "x86-only build option: -m" ++ option
  | vendorTuningFlag vendor flag value =>
    vendor.name ++ " tuning flag: -m" ++ flag ++ "=" ++ value
  | counterpartTuningMissing present missing =>
    present.name ++ " tuning without " ++ missing.name ++ " tuning"
  | otherArchCondition _ => "Other-architecture branch without AArch64 branch"

/-- Why the issue is a hazard. -/
def description : Issue → String
  | archSpecificLibrary library =>
    "The build looks up '" ++ library ++ "', which is not available for AArch64. "
      ++ "The configure step will fail or pick up an unusable library."
  | archSpecificBuildOption option =>
    "'-m" ++ option ++ "' is only understood by compilers targeting x86. "
      ++ "AArch64 compilers reject it."
  | vendorTuningFlag vendor flag value =>
    "'-m" ++ flag ++ "=" ++ value ++ "' tunes code generation for " ++ vendor.name
      ++ " cores. Code built this way may run sub-optimally, or not at all, "
      ++ "on other AArch64 servers."
  | counterpartTuningMissing present missing =>
    "This file tunes for " ++ present.name ++ " cores but never for " ++ missing.name ++ " cores."
  | otherArchCondition condition =>
    "The file branches on CMAKE_SYSTEM_PROCESSOR for another architecture "
      ++ "but never for AArch64, so ARM builds take the default path.\n"
      ++ "Last condition seen: " ++ Text.trimmed condition

end Issue

end ArchAudit
