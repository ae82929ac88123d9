import DatePartition.Main
import DatePartition.Predicate.Condition
import DatePartition.Predicate.Grouping
import DatePartition.Proofs.Calendar.DayNumber
import DatePartition.Proofs.Calendar.Successor
import DatePartition.Proofs.Range.Enumeration
import DatePartition.Proofs.Predicate.Coverage
import DatePartition.Proofs.Predicate.Pieces
import DatePartition.Proofs.Predicate.Partition
import DatePartition.Proofs.Predicate.Minimal
import DatePartition.Proofs.Predicate.Grouped
import DatePartition.Proofs.Predicate.Refusal
import DatePartition.Proofs.Predicate.Sets
import DatePartition.Proofs.Predicate.Injective
import DatePartition.Proofs.Predicate.Spelling
import DatePartition.Proofs.Predicate.Meaning
import DatePartition.Proofs.Json.Token
import DatePartition.Proofs.Json.Grammar
import DatePartition.Proofs.Json.Written
import DatePartition.Proofs.Json.Record
import DatePartition.Proofs.Json.Predicate
import DatePartition.Proofs.Json.Request
import DatePartition.Proofs.Json.PredicateText
import DatePartition.Proofs.Json.Options
import DatePartition.Proofs.Calendar.DateText
import DatePartition.Proofs.Calendar.Grammar
import DatePartition.Proofs.Range.Text
import DatePartition.Proofs.Range.Grammar
import DatePartition.Proofs.Range.TextOrder
import DatePartition.Proofs.CommandLine.Run
import DatePartition.Proofs.Toml.Keys
import DatePartition.Proofs.CommandLine.Settings
import DatePartition.Proofs.Bare.Attempt
import DatePartition.Proofs.Bare.Calendar
import DatePartition.Proofs.Bare.Predicate
import DatePartition.Proofs.Bare.Compile
import DatePartition.Proofs.Bare.Call
import DatePartition.Proofs.Bare.Session
