import Occupancy.CommandLine.Run
import Occupancy.FileTree.Build
import Occupancy.Proofs.BucketHistory
import Occupancy.Proofs.LogAccounting
import Occupancy.Proofs.LogText
import Occupancy.Proofs.RunTotals
import Occupancy.Proofs.SampleSpread
import Occupancy.Proofs.StandardLine
import Occupancy.Proofs.TreeEntries
import Occupancy.Proofs.FolderName
import Occupancy.Proofs.PathFootprint
import Occupancy.Proofs.PlanEntries
import Occupancy.Proofs.CollectionReads
import Occupancy.Proofs.EntryRemoval
import Occupancy.Proofs.Noninterference
import Occupancy.Proofs.PlanText
import Occupancy.Proofs.ReportAgreement
import Occupancy.Proofs.TreeChanges
import Occupancy.Proofs.RunEffects
import Occupancy.Proofs.RunAgain
import Occupancy.Proofs.DecimalText
import Occupancy.Proofs.JsonTokens
import Occupancy.Proofs.JsonDocument
import Occupancy.Proofs.DoubleRounding
import Occupancy.Proofs.ShortestDigits
import Occupancy.Proofs.TimestampText
import Occupancy.Proofs.DoubleText
import Occupancy.Proofs.ReportRoundTrip
import Occupancy.Proofs.SummaryEntries
import Occupancy.Proofs.SampleCapacity
import Occupancy.Proofs.ColumnLabel
import Occupancy.Proofs.SheetPlaces
import Occupancy.Proofs.WorkbookCells
import Occupancy.Proofs.ReportCounts
import Occupancy.Proofs.WorkbookPath
import Occupancy.Proofs.IgnoreList
import Occupancy.Proofs.PathNames
import Occupancy.Proofs.SettingsSearch
import Occupancy.Proofs.TrialMerging
