import DeliveryStore.Log.Program
import DeliveryStore.Main
import DeliveryStore.Session
import DeliveryStore.Proofs.Calendar
import DeliveryStore.Proofs.Arguments
import DeliveryStore.Proofs.Checks
import DeliveryStore.Proofs.Storage.Channels
import DeliveryStore.Proofs.Storage.Connections
import DeliveryStore.Proofs.Storage.Sites
import DeliveryStore.Proofs.Invariants
import DeliveryStore.Proofs.Reachable
import DeliveryStore.Proofs.Errands
import DeliveryStore.Proofs.Mailbox
import DeliveryStore.Proofs.Delivery
import DeliveryStore.Proofs.FanOut
import DeliveryStore.Proofs.Commuting
import DeliveryStore.Proofs.Packages
import DeliveryStore.Proofs.Publication
import DeliveryStore.Proofs.StoredData
import DeliveryStore.Proofs.Listing
import DeliveryStore.Proofs.Masking
import DeliveryStore.Proofs.Storage.Masking
import DeliveryStore.Proofs.Noninterference
import DeliveryStore.Proofs.Failures
import DeliveryStore.Proofs.PlainFiles
import DeliveryStore.Proofs.ManyHandles
import DeliveryStore.Proofs.Bystanders
import DeliveryStore.Proofs.Rotation
import DeliveryStore.Proofs.SharedFiles
import DeliveryStore.Proofs.WellFormed
import DeliveryStore.Proofs.Accounting
import DeliveryStore.Proofs.Exits
import DeliveryStore.Proofs.Storage.Entering
import DeliveryStore.Proofs.Places
import DeliveryStore.Proofs.Commands
import DeliveryStore.Proofs.Words
import DeliveryStore.Proofs.Agreement
import DeliveryStore.Proofs.Scopes
import DeliveryStore.Proofs.Timestamps
import DeliveryStore.Proofs.Overruns
import DeliveryStore.Proofs.Draining
import DeliveryStore.Proofs.Storage.WrittenPaths
import DeliveryStore.Proofs.Directories
import DeliveryStore.Proofs.Storage.FileAddresses
import DeliveryStore.Proofs.MemoryFlag
import DeliveryStore.Proofs.Demands
import DeliveryStore.Proofs.Spellings
import DeliveryStore.Proofs.Endings
import DeliveryStore.Proofs.Histories
import DeliveryStore.Proofs.AuditTrail
import DeliveryStore.Proofs.EntryLines
import DeliveryStore.Proofs.GroupPaths
import DeliveryStore.Proofs.HeaderTree
import DeliveryStore.Proofs.ThreadMemory
import DeliveryStore.Proofs.BranchStrokes
