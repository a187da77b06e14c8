import SyntaxQuery.Config.Run
import SyntaxQuery.Parsing
import SyntaxQuery.Provider.Shared
import SyntaxQuery.Provider.Slice
import SyntaxQuery.Provider.Window
import SyntaxQuery.Proofs.Transcript
import SyntaxQuery.Proofs.AssemblyTraffic
import SyntaxQuery.Proofs.FilterSearch
import SyntaxQuery.Proofs.Steps
import SyntaxQuery.Proofs.FilterSteps
import SyntaxQuery.Proofs.FilterHistory
import SyntaxQuery.Proofs.StreamSchedule
import SyntaxQuery.Proofs.ReaderHistory
import SyntaxQuery.Proofs.FaithfulProvider
import SyntaxQuery.Proofs.FilterMeaning
import SyntaxQuery.Proofs.Inquiry
import SyntaxQuery.Proofs.CheckInquiry
import SyntaxQuery.Proofs.QueryVisits
import SyntaxQuery.Proofs.QueryTraffic
import SyntaxQuery.Proofs.MovedPredicate
import SyntaxQuery.Proofs.QueryMeaning
import SyntaxQuery.Proofs.TruncatedText
import SyntaxQuery.Proofs.CapturePairs
import SyntaxQuery.Proofs.SharedHandles
import SyntaxQuery.Proofs.Reentry
import SyntaxQuery.Proofs.BufferReuse
import SyntaxQuery.Proofs.Screening
import SyntaxQuery.Proofs.Laziness
import SyntaxQuery.Proofs.QuantifierDuality
import SyntaxQuery.Proofs.BuilderCalls
import SyntaxQuery.Proofs.CacheHistory
import SyntaxQuery.Proofs.FailedLookup
import SyntaxQuery.Proofs.LoadedTexts
import SyntaxQuery.Proofs.ValidConfig
import SyntaxQuery.Proofs.RowsAndColumns
import SyntaxQuery.Proofs.ExactText
import SyntaxQuery.Proofs.CursorSettings
import SyntaxQuery.Proofs.EntriesAsCalls
import SyntaxQuery.Proofs.Repairs
import SyntaxQuery.Proofs.ForeignKeys
import SyntaxQuery.Proofs.RangeEnds
import SyntaxQuery.Proofs.CoveringRange
import SyntaxQuery.Proofs.Utf8Decoding
import SyntaxQuery.Proofs.LoadedFiles
