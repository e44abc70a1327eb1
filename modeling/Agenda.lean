import Agenda.DateWord.Mend
import Agenda.File.Tree
import Agenda.Main
import Agenda.Proofs.ErrorKind
import Agenda.Proofs.Grammar
import Agenda.Proofs.Reference
import Agenda.Proofs.Nesting
import Agenda.Proofs.Memory
import Agenda.Proofs.ExecutionOrder
import Agenda.Proofs.DateText
import Agenda.Proofs.Words
import Agenda.Proofs.TagValues
import Agenda.Proofs.MainTags
import Agenda.Proofs.Gaps
import Agenda.Proofs.Report
import Agenda.Proofs.NamedTags
import Agenda.Proofs.Rewriting
import Agenda.Proofs.Interruption
import Agenda.Proofs.FilterFault
import Agenda.Proofs.Fields
import Agenda.Proofs.Ranges
import Agenda.Proofs.Negation
import Agenda.Proofs.Agreement
import Agenda.Proofs.TaskTable
import Agenda.Proofs.Combination
import Agenda.Proofs.Presence
import Agenda.Proofs.SearchNames
import Agenda.Proofs.WrittenDays
import Agenda.Proofs.WrittenTask
import Agenda.Proofs.MainTagDays
import Agenda.Proofs.SavedFilters
import Agenda.Proofs.SavedSettings
import Agenda.Proofs.DueSearch
import Agenda.Proofs.DayCount
import Agenda.Proofs.MonthMoves
import Agenda.Proofs.Moves
import Agenda.Proofs.Steps
import Agenda.Proofs.OffsetChain
import Agenda.Proofs.CompoundOffset
import Agenda.Proofs.OffsetParts
import Agenda.Proofs.MonthEnds
import Agenda.Proofs.ComingDays
import Agenda.Proofs.Weekdays
import Agenda.Proofs.Places
import Agenda.Proofs.Mending
import Agenda.Proofs.TypedOrder
import Agenda.Proofs.SmallForms
import Agenda.Proofs.ValueForms
import Agenda.Proofs.CaseContext
import Agenda.Proofs.Wildcards
import Agenda.Proofs.DurationParts
import Agenda.Proofs.ClockTimes
import Agenda.Proofs.TaskLines
import Agenda.Proofs.RecurrenceForms
import Agenda.Proofs.WordReplacement
import Agenda.Proofs.ListedTasks
import Agenda.Proofs.LoadedSettings
import Agenda.Proofs.BareUnits
