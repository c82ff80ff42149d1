import Calendrics.Session
import Calendrics.Proofs.Succession
import Calendrics.Proofs.Targets
import Calendrics.Proofs.Brackets
import Calendrics.Proofs.BareDate
import Calendrics.Proofs.Runs
import Calendrics.Proofs.Orders
import Calendrics.Proofs.Conversions
import Calendrics.Proofs.StrictReading
import Calendrics.Proofs.Words.Arithmetic
import Calendrics.Proofs.Words.Year
import Calendrics.Proofs.Words.Dates
import Calendrics.Proofs.Words.Moves
import Calendrics.Proofs.PeriodBounds
import Calendrics.Proofs.Words.Gaps
import Calendrics.Proofs.Words.Operations
import Calendrics.Proofs.Words.MonthWalk
import Calendrics.Proofs.FieldRanges
import Calendrics.Proofs.Edits
import Calendrics.Proofs.ReadBack
import Calendrics.Proofs.EditFailures
import Calendrics.Proofs.NormalForm
import Calendrics.Proofs.Sequences
import Calendrics.Proofs.MonthSequences
import Calendrics.Proofs.Cycles
import Calendrics.Proofs.CountedMoves
import Calendrics.Proofs.CountLaws
import Calendrics.Proofs.Monotonicity
import Calendrics.Proofs.ThirtyDayMonths
import Calendrics.Proofs.LenientDates
import Calendrics.Proofs.FieldValues
import Calendrics.Proofs.Identification
import Calendrics.Proofs.JulianLag
import Calendrics.Proofs.HashWords
import Calendrics.Proofs.MovedDays
import Calendrics.Proofs.Texts.Periods
import Calendrics.Proofs.Texts.Names
