import ContractDrift.CommandLine.Run
import ContractDrift.Drift.Detector
import ContractDrift.Files.Writing
import ContractDrift.Json.Equality
import ContractDrift.Schema.Registry
import ContractDrift.Settings.Basic
import ContractDrift.Soap.Envelope
import ContractDrift.Soap.Validation
import ContractDrift.Wsdl.Model
import ContractDrift.Main
import ContractDrift.Proofs.Text.Order
import ContractDrift.Proofs.Text.Split
import ContractDrift.Proofs.Text.Utf8
import ContractDrift.Proofs.Files.Reader
import ContractDrift.Proofs.Files.Containment
import ContractDrift.Proofs.Files.Listing
import ContractDrift.Proofs.Wsdl.Model
import ContractDrift.Proofs.Xml.CharacterSet
import ContractDrift.Proofs.Xml.Names
import ContractDrift.Proofs.Xml.Walk
import ContractDrift.Proofs.Xml.CharacterData
import ContractDrift.Proofs.Xml.PrefixDeclaration
import ContractDrift.Proofs.Xml.Tags
import ContractDrift.Proofs.Xml.WrittenElement
import ContractDrift.Proofs.Xml.WrittenDocument
import ContractDrift.Proofs.Xml.RenderedDocument
import ContractDrift.Proofs.Outcome
import ContractDrift.Proofs.Soap.Content
import ContractDrift.Proofs.Soap.Prefixes
import ContractDrift.Proofs.Soap.EnvelopeRoundTrip
import ContractDrift.Proofs.Soap.Verdict
import ContractDrift.Proofs.Soap.Reporting
import ContractDrift.Proofs.Soap.BuildValidate
import ContractDrift.Proofs.Drift.Decision
import ContractDrift.Proofs.Drift.Isolation
import ContractDrift.Proofs.Schema.History
import ContractDrift.Proofs.Schema.Directory
import ContractDrift.Proofs.Drift.Unchanged
import ContractDrift.Proofs.CommandLine.Commands
import ContractDrift.Proofs.CommandLine.Ending
import ContractDrift.Proofs.Wsdl.Declarations
import ContractDrift.Proofs.Xml.SameTree
import ContractDrift.Proofs.Xml.WellFormed
import ContractDrift.Proofs.Drift.SameDocument
import ContractDrift.Proofs.Drift.Namespaces
import ContractDrift.Proofs.Xml.ScannedNames
import ContractDrift.Proofs.Xml.AttributeOrder
import ContractDrift.Proofs.Xml.Reordered
import ContractDrift.Proofs.Drift.AttributeOrder
import ContractDrift.Proofs.Xml.Declaration
import ContractDrift.Proofs.Xml.DeclaredEncoding
import ContractDrift.Proofs.Soap.TextOrOctets
import ContractDrift.Proofs.Xml.PrologNames
import ContractDrift.Proofs.Xml.LocalParts
import ContractDrift.Proofs.Json.WrittenText
import ContractDrift.Proofs.Json.WrittenValue
import ContractDrift.Proofs.Drift.Record
import ContractDrift.Proofs.Files.Writing
import ContractDrift.Proofs.CommandLine.SavedReport
import ContractDrift.Proofs.Schema.Pointer
import ContractDrift.Proofs.Schema.Location
import ContractDrift.Proofs.CommandLine.Agreement
import ContractDrift.Proofs.Schema.Causes
import ContractDrift.Proofs.Schema.Stopping
import ContractDrift.Proofs.Schema.Usable
import ContractDrift.Proofs.Schema.Acceptance
import ContractDrift.Proofs.Schema.Checked
import ContractDrift.Proofs.Drift.Policies
import ContractDrift.Proofs.Drift.Exchanged
import ContractDrift.Proofs.Drift.Requests
import ContractDrift.Proofs.Soap.Skeleton
import ContractDrift.Proofs.Xml.LeadingText
import ContractDrift.Proofs.CommandLine.SavedSkeleton
import ContractDrift.Proofs.Wsdl.Fields
import ContractDrift.Proofs.Drift.Required
import ContractDrift.Proofs.Schema.Account
import ContractDrift.Proofs.Schema.Loading
import ContractDrift.Proofs.Soap.OtherCalls
import ContractDrift.Proofs.Drift.FileName
import ContractDrift.Proofs.Files.Join
import ContractDrift.Proofs.CommandLine.ReportFiles
import ContractDrift.Proofs.Drift.StatusLines
import ContractDrift.Proofs.Files.Reach
import ContractDrift.Proofs.Drift.BaselineRead
import ContractDrift.Proofs.Xml.Paths
import ContractDrift.Proofs.Schema.Spelling
