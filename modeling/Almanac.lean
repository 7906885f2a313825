import Almanac.CommandLine
import Almanac.Main
import Almanac.Proofs.Batches
import Almanac.Proofs.CanonicalBoundaries
import Almanac.Proofs.ChangedValue
import Almanac.Proofs.Civil.WeekNumber
import Almanac.Proofs.Completion
import Almanac.Proofs.DateOnly
import Almanac.Proofs.DayArgument
import Almanac.Proofs.DayBuckets
import Almanac.Proofs.InstanceFragments
import Almanac.Proofs.InstanceKeys
import Almanac.Proofs.InstanceWindow
import Almanac.Proofs.OncePerEntity
import Almanac.Proofs.Outcome
import Almanac.Proofs.Restriction
import Almanac.Proofs.Segments
import Almanac.Proofs.SettingsRuns
import Almanac.Proofs.SlotRuns
import Almanac.Proofs.StoredForms
import Almanac.Proofs.Week.Bands
import Almanac.Proofs.Week.CellIds
import Almanac.Proofs.Week.DateBoxes
import Almanac.Proofs.Week.Links
import Almanac.Proofs.Week.MaxItems
import Almanac.Proofs.Week.MonthFlags
import Almanac.Proofs.Week.Run
import Almanac.Proofs.Week.Shown
import Almanac.Proofs.Week.Views
import Almanac.SettingsFile
