import SharedPages.Context
import SharedPages.Errno.Basic
import SharedPages.Errno.Catalogue
import SharedPages.Errno.Text
import SharedPages.File.Candidate
import SharedPages.File.CloseOnExec
import SharedPages.File.Config
import SharedPages.File.Error
import SharedPages.File.Provider
import SharedPages.File.Provisional
import SharedPages.File.Record
import SharedPages.File.Request
import SharedPages.Flag
import SharedPages.Gateway.Call
import SharedPages.Gateway.Injection
import SharedPages.Gateway.Layer
import SharedPages.Gateway.Program
import SharedPages.Host.Machine
import SharedPages.Host.Numbering
import SharedPages.Host.Paged
import SharedPages.Host.Scripted
import SharedPages.Journal
import SharedPages.Mapping.Error
import SharedPages.Mapping.LiveSet
import SharedPages.Mapping.Registry
import SharedPages.ObjectName
import SharedPages.Outcome
import SharedPages.Proofs.Bytes
import SharedPages.Proofs.Context.Blame
import SharedPages.Proofs.Context.Extent
import SharedPages.Proofs.Context.Rejection
import SharedPages.Proofs.Context.Run
import SharedPages.Proofs.Context.WholeFile
import SharedPages.Proofs.Cuts
import SharedPages.Proofs.File.Attempts
import SharedPages.Proofs.File.Balance
import SharedPages.Proofs.File.Client
import SharedPages.Proofs.File.Created
import SharedPages.Proofs.File.Custody
import SharedPages.Proofs.File.Ends
import SharedPages.Proofs.File.Entropy
import SharedPages.Proofs.File.Events
import SharedPages.Proofs.File.HandingOn
import SharedPages.Proofs.File.Interchange
import SharedPages.Proofs.File.Naming
import SharedPages.Proofs.File.Orderly
import SharedPages.Proofs.File.Ownership
import SharedPages.Proofs.File.Portable
import SharedPages.Proofs.File.Records
import SharedPages.Proofs.File.Requests
import SharedPages.Proofs.File.RollBack
import SharedPages.Proofs.File.Search
import SharedPages.Proofs.File.Serials
import SharedPages.Proofs.File.Undo
import SharedPages.Proofs.File.World
import SharedPages.Proofs.Gateway.Chronicle
import SharedPages.Proofs.Gateway.Rehearsal
import SharedPages.Proofs.Mapping.History
import SharedPages.Proofs.Mapping.Kernel
import SharedPages.Proofs.Mapping.Layout
import SharedPages.Proofs.Mapping.Pages
import SharedPages.Proofs.Mapping.Refusal
import SharedPages.Proofs.Mapping.Replacement
import SharedPages.Proofs.Mapping.Run
import SharedPages.Proofs.Mapping.Stopped
import SharedPages.Proofs.Mapping.Subject
import SharedPages.Proofs.Moments
import SharedPages.Proofs.ObjectName
import SharedPages.Proofs.Paged
import SharedPages.Proofs.Play
import SharedPages.Proofs.Rules
import SharedPages.Proofs.Surroundings
import SharedPages.Proofs.Table
import SharedPages.Proofs.Text.Layout
import SharedPages.Proofs.Text.Refill
import SharedPages.Proofs.Text.Words
import SharedPages.Range
import SharedPages.Session.Command
import SharedPages.Session.Mask
import SharedPages.Session.Run
import SharedPages.Session.State
import SharedPages.Table
import SharedPages.Text.Blank
import SharedPages.Text.Extender
import SharedPages.Text.Fill
import SharedPages.Text.Fnv
import SharedPages.Text.Hex
import SharedPages.Text.Quoted
import SharedPages.Text.Range
import SharedPages.Text.Unprintable
