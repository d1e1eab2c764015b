import RaceOverlay.Main
import RaceOverlay.Order.Index
import RaceOverlay.Proofs.Numerals
import RaceOverlay.Proofs.Pieces
import RaceOverlay.Proofs.SlotForms
import RaceOverlay.Proofs.Kept
import RaceOverlay.Proofs.Scan
import RaceOverlay.Proofs.Reading
import RaceOverlay.Proofs.NamedRendering
import RaceOverlay.Proofs.CacheTransparency
import RaceOverlay.Proofs.Closings
import RaceOverlay.Proofs.Splicing
import RaceOverlay.Proofs.LiteralResults
import RaceOverlay.Proofs.ClassRanks
import RaceOverlay.Proofs.EngineRuns
import RaceOverlay.Proofs.LabelOffsets
import RaceOverlay.Proofs.SnapshotKeys
import RaceOverlay.Proofs.GapSigns
import RaceOverlay.Proofs.PointsTable
import RaceOverlay.Proofs.ReplaySchedules
import RaceOverlay.Proofs.ListingOrder
import RaceOverlay.Proofs.SingleClass
import RaceOverlay.Proofs.PointsOrder
import RaceOverlay.Proofs.CompiledFragments
import RaceOverlay.Proofs.ResolvedLabels
import RaceOverlay.Proofs.OtherCars
import RaceOverlay.Proofs.CacheRuns
import RaceOverlay.Proofs.RetiredCars
import RaceOverlay.Proofs.TickCounts
import RaceOverlay.Proofs.SessionOrders
import RaceOverlay.Proofs.CarsAhead
import RaceOverlay.Proofs.FrozenGaps
import RaceOverlay.Proofs.FlaggedLabels
import RaceOverlay.Proofs.ClockReading
import RaceOverlay.Proofs.Countdowns
import RaceOverlay.Proofs.PointsRanks
import RaceOverlay.Proofs.ClassGains
import RaceOverlay.Proofs.VerbatimText
import RaceOverlay.Proofs.LapStages
import RaceOverlay.Proofs.WrittenTables
import RaceOverlay.Proofs.WrittenRows
import RaceOverlay.Proofs.ScriptCalls
import RaceOverlay.Proofs.ServedCalls
import RaceOverlay.Proofs.SnapshotChecks
import RaceOverlay.Proofs.ConsoleRows
import RaceOverlay.Proofs.Registrations
import RaceOverlay.Proofs.SortedIndices
import RaceOverlay.Proofs.WrappedColumns
