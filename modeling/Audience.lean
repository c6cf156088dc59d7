import Audience.Definition.Merge
import Audience.Main
import Audience.Program
import Audience.Proofs.AccentFolding
import Audience.Proofs.AllOrNothing
import Audience.Proofs.BlankText
import Audience.Proofs.CodeSpelling
import Audience.Proofs.Contribution
import Audience.Proofs.DecimalText
import Audience.Proofs.Description
import Audience.Proofs.Destinations
import Audience.Proofs.DistinctLists
import Audience.Proofs.DocumentGrammar
import Audience.Proofs.DocumentRoundTrip
import Audience.Proofs.FolderListing
import Audience.Proofs.JsonScalar
import Audience.Proofs.JsonText
import Audience.Proofs.KeyedOrder
import Audience.Proofs.KeywordBlanks
import Audience.Proofs.ListText
import Audience.Proofs.MergedForm
import Audience.Proofs.PercentText
import Audience.Proofs.Pooling
import Audience.Proofs.QueryShape
import Audience.Proofs.QueryWire
import Audience.Proofs.RecordRoundTrip
import Audience.Proofs.Refusals
import Audience.Proofs.RepeatedMerge
import Audience.Proofs.RosterLaws
import Audience.Proofs.RosterSet
import Audience.Proofs.RunInputs
import Audience.Proofs.SameSignals
import Audience.Proofs.SeedQuery
import Audience.Proofs.SeedReferences
import Audience.Proofs.SeedRollUp
import Audience.Proofs.SegmentEntries
import Audience.Proofs.SettingFields
import Audience.Proofs.SettingNames
import Audience.Proofs.SettingOrigins
import Audience.Proofs.SettingValues
import Audience.Proofs.SignalBranches
import Audience.Proofs.SlugEncoding
import Audience.Proofs.Substance
import Audience.Proofs.WholeWords
import Audience.Proofs.Widening
import Audience.Proofs.WordGaps
import Audience.Text.Casing
import Audience.Workbench
