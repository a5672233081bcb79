import Cadence.Controls.KeyName
import Cadence.Main
import Cadence.Scenario.Run
import Cadence.Proofs.Contract
import Cadence.Proofs.Handovers
import Cadence.Proofs.Frame
import Cadence.Proofs.DriverFrame
import Cadence.Proofs.RefreshFrame
import Cadence.Proofs.UnderWay
import Cadence.Proofs.OrderFrame
import Cadence.Proofs.FiringRate
import Cadence.Proofs.HeldDebouncer
import Cadence.Proofs.ActionBatches
import Cadence.Proofs.DebouncedActions
import Cadence.Proofs.GreedyFirings
import Cadence.Proofs.AlikeTimings
import Cadence.Proofs.GentleRuns
import Cadence.Proofs.LoopPacing
import Cadence.Proofs.RefreshProtocol
import Cadence.Proofs.RefreshLedger
import Cadence.Proofs.RefreshTurns
import Cadence.Proofs.PanickedRefresh
import Cadence.Proofs.OutstandingTurns
import Cadence.Proofs.TurnOrder
import Cadence.Proofs.RefreshCourse
import Cadence.Proofs.RecurringTurns
import Cadence.Proofs.Queues
import Cadence.Proofs.FrameRequests
import Cadence.Proofs.KeptFacts
import Cadence.Proofs.StandingTasks
import Cadence.Proofs.ServedBatches
import Cadence.Proofs.FrameDelivery
import Cadence.Proofs.MailProtocol
import Cadence.Proofs.MessageQueues
import Cadence.Proofs.Registrations
import Cadence.Proofs.HandledMessages
import Cadence.Proofs.MessageDelivery
import Cadence.Proofs.IssuedTags
import Cadence.Proofs.PaceProtocol
import Cadence.Proofs.PaceLedger
import Cadence.Proofs.Invocations
import Cadence.Proofs.Announcements
import Cadence.Proofs.SetterAnswers
import Cadence.Proofs.RenderCap
import Cadence.Proofs.TurnInterval
import Cadence.Proofs.PacedRenders
import Cadence.Proofs.Seclusion
import Cadence.Proofs.SecludedOrders
import Cadence.Proofs.Exclusion
import Cadence.Proofs.RenderCount
import Cadence.Proofs.DrainedKeys
import Cadence.Proofs.Veils
import Cadence.Proofs.WatchedDrivers
import Cadence.Proofs.BlindOrders
import Cadence.Proofs.BlindTurns
import Cadence.Proofs.PausedTurns
import Cadence.Proofs.FinalStop
import Cadence.Proofs.PaceRange
import Cadence.Proofs.RateIntervals
import Cadence.Proofs.WholeFrameTimes
import Cadence.Proofs.ObligingCode
import Cadence.Proofs.ScheduledTurns
import Cadence.Proofs.SteeringCode
import Cadence.Proofs.StepCourse
import Cadence.Proofs.SingleRenders
import Cadence.Proofs.StepTempo
import Cadence.Proofs.TurnCourse
import Cadence.Proofs.TakenTurns
import Cadence.Proofs.SteppedRuns
import Cadence.Proofs.References
import Cadence.Proofs.LiveDrivers
import Cadence.Proofs.SettledRefreshes
import Cadence.Proofs.Subscriptions
import Cadence.Proofs.DriverSubscriptions
import Cadence.Proofs.EndedSubscriptions
import Cadence.Proofs.BitPlanes
import Cadence.Proofs.DrawnFrames
import Cadence.Proofs.ScrollingCard
import Cadence.Proofs.MeasuringWindows
import Cadence.Proofs.RefreshMeasurement
