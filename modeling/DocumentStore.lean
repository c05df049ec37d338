import DocumentStore.Json.Printer
import DocumentStore.Json.Reader
import DocumentStore.Text.CharClass
import DocumentStore.Text.Quoted
import DocumentStore.Text.Case.Lower
import DocumentStore.Text.Case.Fold
import DocumentStore.Instant.Text
import DocumentStore.Instant.Iso
import DocumentStore.Value.Json
import DocumentStore.Filter.Basic
import DocumentStore.Predicate.Compile
import DocumentStore.Predicate.Text
import DocumentStore.Predicate.QueryDocument
import DocumentStore.Sort
import DocumentStore.Evaluation.Matching
import DocumentStore.Value.KeyMarkers
import DocumentStore.Service.Basic
import DocumentStore.Settings
import DocumentStore.Proofs.Filter.Compilation
import DocumentStore.Proofs.Filter.Vacuity
import DocumentStore.Proofs.Filter.Search
import DocumentStore.Proofs.Filter.Urlized
import DocumentStore.Proofs.Filter.Membership
import DocumentStore.Proofs.Filter.Bounds
import DocumentStore.Proofs.Filter.Absence
import DocumentStore.Proofs.Filter.Integers
import DocumentStore.Proofs.Filter.Violations
import DocumentStore.Proofs.Filter.Typing
import DocumentStore.Proofs.Value.Date
import DocumentStore.Proofs.Value.Conversion
import DocumentStore.Proofs.Evaluation.Preorder
import DocumentStore.Proofs.Evaluation.Agreement
import DocumentStore.Proofs.Service.History
import DocumentStore.Proofs.Service.Lookup
import DocumentStore.Proofs.Service.WriteBack
import DocumentStore.Proofs.Service.Insertion
import DocumentStore.Proofs.Service.Membership
import DocumentStore.Proofs.Service.Failure
import DocumentStore.Proofs.Service.Payload
import DocumentStore.Proofs.Predicate.Masking
import DocumentStore.Proofs.Predicate.QueryDocument
import DocumentStore.Proofs.Predicate.Wildcards
import DocumentStore.Proofs.Predicate.Recovery
import DocumentStore.Proofs.Value.Sanitizing
import DocumentStore.Proofs.Sort.Repetition
import DocumentStore.Proofs.Sort.Reading
import DocumentStore.Proofs.Store.SharedCache
