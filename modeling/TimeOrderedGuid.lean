import TimeOrderedGuid.Bytes.Number
import TimeOrderedGuid.Guid.Encoding
import TimeOrderedGuid.Guid.Listing
import TimeOrderedGuid.Guid.Reading
import TimeOrderedGuid.Guid.Uuid
import TimeOrderedGuid.Issue.Concurrent
import TimeOrderedGuid.Issue.Environment
import TimeOrderedGuid.Issue.Request
import TimeOrderedGuid.Proofs.Chronology
import TimeOrderedGuid.Proofs.History
import TimeOrderedGuid.Proofs.Interleaving
import TimeOrderedGuid.Proofs.Layout
import TimeOrderedGuid.Proofs.Order
import TimeOrderedGuid.Proofs.Steps
import TimeOrderedGuid.Proofs.Timeline
import TimeOrderedGuid.Proofs.Conversion
import TimeOrderedGuid.Proofs.RealTime
import TimeOrderedGuid.Proofs.Admission
import TimeOrderedGuid.Proofs.Reading
import TimeOrderedGuid.Proofs.Emission
import TimeOrderedGuid.Proofs.Misreading
import TimeOrderedGuid.Proofs.Mirroring
import TimeOrderedGuid.Proofs.Separation
import TimeOrderedGuid.Proofs.TextForm
import TimeOrderedGuid.Proofs.Formats
import TimeOrderedGuid.Proofs.MisreadCount
import TimeOrderedGuid.Proofs.Rejection
import TimeOrderedGuid.Proofs.Advance
import TimeOrderedGuid.Proofs.Sorting
import TimeOrderedGuid.Proofs.Comparison
import TimeOrderedGuid.Proofs.Views
import TimeOrderedGuid.Proofs.Assignment
import TimeOrderedGuid.Proofs.Codec
import TimeOrderedGuid.Proofs.Zones
import TimeOrderedGuid.Proofs.Completion
