import LinearDispatch.Model.Building
import LinearDispatch.Dispatch.History
import LinearDispatch.Proofs.Shaping
import LinearDispatch.Proofs.Ledger
import LinearDispatch.Proofs.Within
import LinearDispatch.Proofs.EnvironmentSource
import LinearDispatch.Proofs.EnvironmentTurns
import LinearDispatch.Proofs.EnvironmentLives
import LinearDispatch.Proofs.EnvironmentHolders
import LinearDispatch.Proofs.GurobiEnvironment
import LinearDispatch.Proofs.SharedAdapters
import LinearDispatch.Proofs.EnvironmentBalance
import LinearDispatch.Proofs.Conversation
import LinearDispatch.Proofs.Course
import LinearDispatch.Proofs.CallOrder
import LinearDispatch.Proofs.FirstFailure
import LinearDispatch.Proofs.Handover
import LinearDispatch.Proofs.LetThrough
import LinearDispatch.Proofs.Consistency
import LinearDispatch.Proofs.Assembly
import LinearDispatch.Proofs.HighsModel
import LinearDispatch.Proofs.NumberNegation
import LinearDispatch.Proofs.ScalarOrder
import LinearDispatch.Proofs.NativeReading
import LinearDispatch.Proofs.OrToolsModel
import LinearDispatch.Proofs.OrToolsAssembly
import LinearDispatch.Proofs.OrToolsStart
import LinearDispatch.Proofs.BoundOrder
import LinearDispatch.Proofs.GurobiModel
import LinearDispatch.Proofs.GurobiStart
import LinearDispatch.Proofs.GurobiAssembly
import LinearDispatch.Proofs.Edits
import LinearDispatch.Proofs.Defects
import LinearDispatch.Proofs.StoreGrowth
import LinearDispatch.Proofs.UnreadableValues
import LinearDispatch.Proofs.Respects
import LinearDispatch.Proofs.BuildingSteps
import LinearDispatch.Proofs.UnorderedBounds
import LinearDispatch.Proofs.InStep
import LinearDispatch.Proofs.SolveInStep
import LinearDispatch.Proofs.HistoryIndependence
import LinearDispatch.Proofs.Translation
import LinearDispatch.Proofs.LastAnswer
import LinearDispatch.Proofs.ReadBack
import LinearDispatch.Proofs.Accumulation
import LinearDispatch.Proofs.LiveTerms
import LinearDispatch.Proofs.SecondAttempt
import LinearDispatch.Proofs.NativeInfinities
import LinearDispatch.Proofs.NameFolding
import LinearDispatch.Proofs.Registrations
import LinearDispatch.Proofs.Availability
import LinearDispatch.Proofs.AskThenSolve
import LinearDispatch.Proofs.NumberOverflow
import LinearDispatch.Proofs.TimeLimits
import LinearDispatch.Proofs.Requests
import LinearDispatch.Proofs.OptionText
import LinearDispatch.Proofs.Reopening
import LinearDispatch.Proofs.Sessions
import LinearDispatch.Proofs.StrandedEnvironments
import LinearDispatch.Proofs.Categories
import LinearDispatch.Proofs.OptionMerging
import LinearDispatch.Proofs.OptionDelivery
