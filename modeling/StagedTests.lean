import StagedTests.Archive.Bits
import StagedTests.Archive.Extraction
import StagedTests.Archive.Gzip
import StagedTests.Archive.Huffman
import StagedTests.Archive.Inflate
import StagedTests.Archive.Lzh
import StagedTests.Archive.Lzw
import StagedTests.Archive.Packed
import StagedTests.Archive.Packing
import StagedTests.Archive.Tar
import StagedTests.Archive.Tar.Header
import StagedTests.Archive.Tar.Number
import StagedTests.Archive.Tar.Record
import StagedTests.Archive.Tar.Sparse
import StagedTests.Artifact.Collector
import StagedTests.Cancellation.Scope
import StagedTests.Cancellation.Session
import StagedTests.Cancellation.Token
import StagedTests.Cluster.Address
import StagedTests.Cluster.Client
import StagedTests.Cluster.Http
import StagedTests.Cluster.Memory
import StagedTests.Cluster.Object
import StagedTests.Cluster.Response
import StagedTests.Cluster.Schema
import StagedTests.Cluster.Script
import StagedTests.Cluster.Selector
import StagedTests.Cluster.Shape
import StagedTests.ClusterProfile
import StagedTests.Config
import StagedTests.Container.Event
import StagedTests.Container.Tracker
import StagedTests.Definition
import StagedTests.Digest.Crc32
import StagedTests.Digest.Md5
import StagedTests.Disk
import StagedTests.Disk.Listing
import StagedTests.Disk.Path
import StagedTests.DryRun
import StagedTests.Error
import StagedTests.Image
import StagedTests.Job
import StagedTests.Json.Basic
import StagedTests.Json.Decode
import StagedTests.Json.Printer
import StagedTests.Json.Reader
import StagedTests.Json.Source
import StagedTests.Link
import StagedTests.Log
import StagedTests.Log.Filter
import StagedTests.Number.Binary64
import StagedTests.Number.Decimal
import StagedTests.Parameter
import StagedTests.Parameter.Answers
import StagedTests.Pattern
import StagedTests.Pattern.CharClass
import StagedTests.Pattern.Escape
import StagedTests.Pattern.Mode
import StagedTests.Phase
import StagedTests.Pod.Synthesis
import StagedTests.Proofs.Cluster.Honest
import StagedTests.Proofs.Cluster.Obliging
import StagedTests.Proofs.Cluster.Selector
import StagedTests.Proofs.Cluster.Store
import StagedTests.Proofs.Container.Event
import StagedTests.Proofs.Container.Tracker
import StagedTests.Proofs.Pod.Synthesis
import StagedTests.Proofs.Run.Attempt
import StagedTests.Proofs.Run.Cancellation
import StagedTests.Proofs.Run.Cleanup
import StagedTests.Proofs.Run.Deletion
import StagedTests.Proofs.Run.Frame
import StagedTests.Proofs.Run.Halt
import StagedTests.Proofs.Run.Journal
import StagedTests.Proofs.Run.Layers
import StagedTests.Proofs.Run.Log
import StagedTests.Proofs.Run.Neighbour
import StagedTests.Proofs.Run.Observation
import StagedTests.Proofs.Run.Phase
import StagedTests.Proofs.Run.Preparation
import StagedTests.Proofs.Run.Rerun
import StagedTests.Proofs.Run.Secret
import StagedTests.Proofs.Run.Success
import StagedTests.Proofs.Run.Sweep
import StagedTests.Proofs.Run.Task
import StagedTests.Proofs.Run.Test
import StagedTests.Proofs.TestCase.Record
import StagedTests.Requirement
import StagedTests.Resource.Quantity
import StagedTests.Resource.Request
import StagedTests.Run.Observation
import StagedTests.Run.Phase
import StagedTests.Run.Pod
import StagedTests.Run.Rehearsal
import StagedTests.Run.Task
import StagedTests.Run.Test
import StagedTests.Run.World
import StagedTests.Table
import StagedTests.TestCase
import StagedTests.TestCase.Record
import StagedTests.Text.Alphanumeric
import StagedTests.Text.Base64
import StagedTests.Text.Blank
import StagedTests.Text.Form
import StagedTests.Text.Printable
import StagedTests.Text.Quoted
import StagedTests.Text.Ranges
import StagedTests.Text.Utf8
import StagedTests.Time.Instant
import StagedTests.Time.Rfc3339
import StagedTests.Proofs.Run.Plan
import StagedTests.Proofs.Run.Dry
import StagedTests.Proofs.TestCase.History
import StagedTests.Proofs.TestCase.Account
import StagedTests.Proofs.Cancellation.Signal
import StagedTests.Proofs.Cancellation.Watching
import StagedTests.Proofs.Json.Written
import StagedTests.Proofs.Json.Decoding
import StagedTests.Proofs.Time.Calendar
import StagedTests.Proofs.Time.Rfc3339
import StagedTests.Proofs.Document
import StagedTests.Proofs.Container.Looks
import StagedTests.Proofs.Run.Projection
import StagedTests.Proofs.Run.Transcript
import StagedTests.Proofs.Run.Interruption
import StagedTests.Proofs.Run.Heeding
import StagedTests.Proofs.Run.Course
import StagedTests.Proofs.Run.Collection
import StagedTests.Proofs.Run.Lateness
import StagedTests.Proofs.Error
import StagedTests.Proofs.Pod.Assembly
import StagedTests.Proofs.Pod.Distinct
import StagedTests.Proofs.Requirement
import StagedTests.Proofs.Text.ByteOrder
import StagedTests.Proofs.Text.Trim
import StagedTests.Proofs.Resource.Quantity
import StagedTests.Proofs.Resource.Request
import StagedTests.Proofs.Parameter
import StagedTests.Proofs.Run.Requirement
import StagedTests.Proofs.Json.Record
import StagedTests.Proofs.Config
import StagedTests.Proofs.Parameter.Slot
import StagedTests.Proofs.Parameter.History
import StagedTests.Proofs.Parameter.Links
import StagedTests.Proofs.Cluster.Deletion
import StagedTests.Proofs.Parameter.Sharing
import StagedTests.Proofs.Pod.Outcome
import StagedTests.Proofs.Run.Recount
import StagedTests.Proofs.TestCase.Failure
import StagedTests.Proofs.Container.Lasting
import StagedTests.Proofs.Run.Failure
import StagedTests.Proofs.Run.Trial
import StagedTests.Proofs.Json.Blind
import StagedTests.Proofs.Json.Skipping
import StagedTests.Proofs.Json.Members
import StagedTests.Proofs.Config.Fieldwise
import StagedTests.Proofs.Pod.Annotation
import StagedTests.Proofs.Error.Place
import StagedTests.Proofs.Config.Interval
