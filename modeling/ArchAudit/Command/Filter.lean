import ArchAudit.Finding
import ArchAudit.Text.UpperCase

/-!
# Choosing findings

A run can be limited to findings of a least severity, to findings of some rules, or to findings of
all rules but some.  Rules are named by their identifiers in upper or lower case.
-/

namespace ArchAudit

/-- Which findings of a run are wanted. -/
structure FindingFilter where
  /-- The least severity, as the user named it. -/
  severity : Option String
  /-- The identifiers of unwanted rules. -/
  exclude : List String
  /-- The identifiers of the only wanted rules; none of them means all rules. -/
  only : List String
deriving DecidableEq, Repr

namespace FindingFilter

/-- Whether a list of identifiers names the rule of a finding. -/
def names (ids : List String) (finding : Finding) : Bool :=
  ids.any fun id => Text.upperCase id = Text.upperCase finding.ruleId

/-- Whether a finding is severe enough. -/
def isSevere (filter : FindingFilter) (finding : Finding) : Bool :=
  match filter.severity with
  | none => true
  | some text => Severity.ofText text ≤ finding.severity

/-- Whether a finding is wanted. -/
def wants (filter : FindingFilter) (finding : Finding) : Bool :=
  filter.isSevere finding && !names filter.exclude finding
    && (filter.only.isEmpty || names filter.only finding)

/-- The wanted findings, in their order. -/
def select (filter : FindingFilter) (findings : List Finding) : List Finding :=
  findings.filter filter.wants

/-- The identifiers that name no rule. -/
def unknownIds (filter : FindingFilter) : List String :=
  (filter.exclude ++ filter.only).filter fun id => (Rule.ofId? id).isNone

end FindingFilter

end ArchAudit
