import TemplateLint.Cli.Run
import TemplateLint.Host
import TemplateLint.Main
import TemplateLint.Proofs.Acts
import TemplateLint.Proofs.AkinCourses
import TemplateLint.Proofs.AkinEvents
import TemplateLint.Proofs.AkinSettings
import TemplateLint.Proofs.AkinTurns
import TemplateLint.Proofs.AkinWork
import TemplateLint.Proofs.AlikeFiles
import TemplateLint.Proofs.Ancestors
import TemplateLint.Proofs.Answering
import TemplateLint.Proofs.Attempts
import TemplateLint.Proofs.Callers
import TemplateLint.Proofs.Changes
import TemplateLint.Proofs.CheckedFiles
import TemplateLint.Proofs.Chronicles
import TemplateLint.Proofs.CommandLines
import TemplateLint.Proofs.Courses
import TemplateLint.Proofs.DelimitedPattern
import TemplateLint.Proofs.DelimitedReports
import TemplateLint.Proofs.Diagnostics
import TemplateLint.Proofs.EffectiveSettings
import TemplateLint.Proofs.Ensuring
import TemplateLint.Proofs.Files
import TemplateLint.Proofs.FormattedDocuments
import TemplateLint.Proofs.FormattedFiles
import TemplateLint.Proofs.Frames
import TemplateLint.Proofs.History
import TemplateLint.Proofs.InnermostFolder
import TemplateLint.Proofs.JobSettings
import TemplateLint.Proofs.LegacyEntries
import TemplateLint.Proofs.LegacyReports
import TemplateLint.Proofs.LintActs
import TemplateLint.Proofs.LintedFiles
import TemplateLint.Proofs.Lints
import TemplateLint.Proofs.Lists
import TemplateLint.Proofs.NearestEnvironment
import TemplateLint.Proofs.NewestLint
import TemplateLint.Proofs.ObeyedChoices
import TemplateLint.Proofs.OneAfterTheOther
import TemplateLint.Proofs.OneSetup
import TemplateLint.Proofs.PassedNumbers
import TemplateLint.Proofs.Patterns
import TemplateLint.Proofs.Phrases
import TemplateLint.Proofs.PipedPrograms
import TemplateLint.Proofs.PrintedBytes
import TemplateLint.Proofs.PrintedEdits
import TemplateLint.Proofs.Questions
import TemplateLint.Proofs.Relints
import TemplateLint.Proofs.Remarks
import TemplateLint.Proofs.RepairedText
import TemplateLint.Proofs.RepeatedPopups
import TemplateLint.Proofs.Restarts
import TemplateLint.Proofs.SettingsInForce
import TemplateLint.Proofs.SharedFile
import TemplateLint.Proofs.ShownFolders
import TemplateLint.Proofs.Shutdown
import TemplateLint.Proofs.Strides
import TemplateLint.Proofs.Tags
import TemplateLint.Proofs.ToldErrors
import TemplateLint.Proofs.UnsupportedFlags
import TemplateLint.Proofs.Verdicts
import TemplateLint.Proofs.WholeEdits
import TemplateLint.Proofs.WorkingDirectories
import TemplateLint.Proofs.WorkspaceFolders
import TemplateLint.Proofs.WrittenChoices
import TemplateLint.Proofs.WrittenValues
import TemplateLint.Rpc.Framing
import TemplateLint.Server.Step
import TemplateLint.Settings.File
import TemplateLint.Suppression.Store
