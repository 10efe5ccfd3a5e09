import Monitor8080.CallChain
import Monitor8080.Main
import Monitor8080.Proofs.AwaitedAccesses
import Monitor8080.Proofs.BareRuns
import Monitor8080.Proofs.Countdown
import Monitor8080.Proofs.ExcusedFetches
import Monitor8080.Proofs.ExecutionStops
import Monitor8080.Proofs.PowerOff
import Monitor8080.Proofs.Quiescence
import Monitor8080.Proofs.WatchBalance
import Monitor8080.Proofs.RunTargets
import Monitor8080.Proofs.HistoryGating
import Monitor8080.Proofs.FetchLogs
import Monitor8080.Proofs.RunLimit
import Monitor8080.Proofs.ChunkSize
import Monitor8080.Proofs.MutedScripts
import Monitor8080.Proofs.DecodedFlow
import Monitor8080.Proofs.TracedRuns
import Monitor8080.Proofs.AtomicSteps
import Monitor8080.Proofs.RoundTrips
import Monitor8080.Proofs.ExpressionValues
import Monitor8080.Proofs.CommandSplitting
import Monitor8080.Proofs.BreakpointListing
import Monitor8080.Proofs.Restarts
import Monitor8080.Proofs.ScriptSegments
import Monitor8080.Proofs.SymbolIndexes
import Monitor8080.Proofs.EntryLedger
import Monitor8080.Proofs.RunToAddress
import Monitor8080.Proofs.SymbolSearch
import Monitor8080.Proofs.CallFrames
import Monitor8080.Proofs.StackPasses
import Monitor8080.Proofs.CallRecovery
import Monitor8080.Proofs.PendingCalls
import Monitor8080.Proofs.SteppingPast
import Monitor8080.Proofs.LiveNotes
import Monitor8080.Proofs.AddressArguments
import Monitor8080.Proofs.SymbolVicinity
import Monitor8080.Proofs.SymbolNames
import Monitor8080.Proofs.RangeHits
import Monitor8080.Proofs.HistoryLog
import Monitor8080.Proofs.LicensedLaws
import Monitor8080.Proofs.ProtectedMemory
import Monitor8080.Proofs.DecimalAddition
import Monitor8080.Proofs.InterruptDelivery
import Monitor8080.Proofs.MemoryDumps
import Monitor8080.Proofs.WrittenTokens
import Monitor8080.Proofs.JoinedLines
import Monitor8080.Proofs.DecodedBytes
import Monitor8080.Proofs.BlockMap
import Monitor8080.Proofs.WordArithmetic
import Monitor8080.Proofs.RememberedLines
import Monitor8080.Proofs.ListingLines
