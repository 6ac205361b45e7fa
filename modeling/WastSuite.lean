import WastSuite.AllowList
import WastSuite.Catalogue
import WastSuite.Decimal.Shortest
import WastSuite.Deflate.Bits
import WastSuite.Deflate.Code
import WastSuite.Deflate.Inflate
import WastSuite.Discovery
import WastSuite.Failure
import WastSuite.Json.Fault
import WastSuite.Json.Number
import WastSuite.Json.Strings
import WastSuite.Log
import WastSuite.NameSet
import WastSuite.Proofs.AllowList
import WastSuite.Proofs.Derivation
import WastSuite.Proofs.Discovery.AbsentOracle
import WastSuite.Proofs.Discovery.Bystanders
import WastSuite.Proofs.Discovery.ListedFiles
import WastSuite.Proofs.Discovery.LogAccount
import WastSuite.Proofs.Discovery.Narrowing
import WastSuite.Proofs.Discovery.Outcome
import WastSuite.Proofs.Discovery.RootSlashes
import WastSuite.Proofs.Discovery.SameAnswers
import WastSuite.Proofs.Discovery.Transparency
import WastSuite.Proofs.Json.StringLiteral
import WastSuite.Proofs.NameSet
import WastSuite.Proofs.Resource.Archive
import WastSuite.Proofs.Resource.ArchiveRoots
import WastSuite.Proofs.Resource.DeclaredSize
import WastSuite.Proofs.Resource.Detection
import WastSuite.Proofs.Resource.Directory
import WastSuite.Proofs.Resource.EntryContents
import WastSuite.Proofs.Resource.Listing
import WastSuite.Proofs.Resource.RootSpelling
import WastSuite.Proofs.Resource.Snapshot
import WastSuite.Proofs.Resource.StoreFailures
import WastSuite.Proofs.SExpr.Literal
import WastSuite.Proofs.SExpr.Reader
import WastSuite.Proofs.Store.EntryNames
import WastSuite.Proofs.Store.FilePaths
import WastSuite.Proofs.Store.LastName
import WastSuite.Proofs.Store.OpenFiles
import WastSuite.Proofs.Store.Spelling
import WastSuite.Proofs.Store.Walk
import WastSuite.Proofs.Text.ByteOrder
import WastSuite.Proofs.Tolerance
import WastSuite.Report
import WastSuite.Resource.Archive
import WastSuite.Resource.Base
import WastSuite.Resource.Directory
import WastSuite.Resource.Error
import WastSuite.Resource.Tree
import WastSuite.SExpr.Basic
import WastSuite.SExpr.Printer
import WastSuite.Script
import WastSuite.Store.Basic
import WastSuite.Store.Change
import WastSuite.Store.Path
import WastSuite.Store.Resolve
import WastSuite.TestUnit
import WastSuite.Text.Cut
import WastSuite.Text.Quoted
import WastSuite.Text.Unprintable
import WastSuite.Tolerance
import WastSuite.Zip.Archive
import WastSuite.Zip.Checksum
import WastSuite.Zip.Directory
import WastSuite.Zip.EndRecord
import WastSuite.Zip.Entry
import WastSuite.Zip.EntryName
import WastSuite.Zip.ExtraField
import WastSuite.Zip.Field
