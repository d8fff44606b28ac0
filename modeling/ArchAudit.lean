import ArchAudit.Json.Parser
import ArchAudit.Main
import ArchAudit.Proofs.Annotations
import ArchAudit.Proofs.BrokenReads
import ArchAudit.Proofs.Composition
import ArchAudit.Proofs.FileFindings
import ArchAudit.Proofs.FileScans
import ArchAudit.Proofs.FindingIds
import ArchAudit.Proofs.LineEndings
import ArchAudit.Proofs.KeywordPlaces
import ArchAudit.Proofs.Places
import ArchAudit.Proofs.ReportReading
import ArchAudit.Proofs.SourceText
import ArchAudit.Proofs.VocabularyReading
import ArchAudit.Proofs.WordChoice
import ArchAudit.Proofs.PathFollowing
import ArchAudit.Proofs.DirectoryWalk
import ArchAudit.Proofs.FileAccess
import ArchAudit.Proofs.ArgumentChecks
import ArchAudit.Proofs.ScanReports
import ArchAudit.Proofs.FileIndependence
import ArchAudit.Proofs.RunOutcomes
import ArchAudit.Proofs.RowMatches
import ArchAudit.Proofs.DetectableWords
import ArchAudit.Proofs.ContainedSnippets
import ArchAudit.Proofs.PartialVocabulary
import ArchAudit.Proofs.CollectedScripts
import ArchAudit.Proofs.CommandSpelling
import ArchAudit.Proofs.RuleFilters
import ArchAudit.Proofs.FolderCalls
import ArchAudit.Proofs.Replacements
import ArchAudit.Proofs.StableOrder
import ArchAudit.Proofs.PatternReading
