import FileClerk.Disk.Scripted
import FileClerk.Main
import FileClerk.Proofs.Cutting
import FileClerk.Proofs.Walk
import FileClerk.Proofs.NormalForm
import FileClerk.Proofs.Resolution
import FileClerk.Proofs.Law
import FileClerk.Proofs.Confinement
import FileClerk.Proofs.Language
import FileClerk.Proofs.Priority
import FileClerk.Proofs.Padding
import FileClerk.Proofs.Folding
import FileClerk.Proofs.Slicing
import FileClerk.Proofs.Ending
import FileClerk.Proofs.Rejection
import FileClerk.Proofs.Runs
import FileClerk.Proofs.History
import FileClerk.Proofs.Octets
import FileClerk.Proofs.Payload
import FileClerk.Proofs.FileTree
import FileClerk.Proofs.Effect
import FileClerk.Proofs.Preservation
import FileClerk.Proofs.Course
import FileClerk.Proofs.Guarding
import FileClerk.Proofs.Stability
import FileClerk.Proofs.Spelling
import FileClerk.Proofs.Accounting
import FileClerk.Proofs.Debouncing
import FileClerk.Proofs.Schedule
import FileClerk.Proofs.RunLoop
import FileClerk.Proofs.Settling
import FileClerk.Proofs.Building
import FileClerk.Proofs.Overflow
import FileClerk.Proofs.Sessions
import FileClerk.Proofs.Rendering
import FileClerk.Proofs.Reporting
import FileClerk.Proofs.Calendar
import FileClerk.Proofs.Contents
import FileClerk.Proofs.Repetition
import FileClerk.Proofs.Numerals
import FileClerk.Proofs.Document
import FileClerk.Proofs.Listing
import FileClerk.Proofs.Loading
import FileClerk.Proofs.Names
import FileClerk.Proofs.Saving
import FileClerk.Proofs.Layering
import FileClerk.Proofs.Ordering
import FileClerk.Proofs.Schema
import FileClerk.Proofs.Overriding
import FileClerk.Proofs.Replacing
import FileClerk.Proofs.TextSettings
import FileClerk.Proofs.PlainValues
