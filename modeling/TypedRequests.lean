import TypedRequests.Command.Arguments
import TypedRequests.Command.Machine
import TypedRequests.Command.Run
import TypedRequests.Config.Settings
import TypedRequests.Disk
import TypedRequests.FileSystem
import TypedRequests.FileWriter
import TypedRequests.Json.Basic
import TypedRequests.Json.Printer
import TypedRequests.Json.Reader
import TypedRequests.Json.Token
import TypedRequests.Layout
import TypedRequests.Main
import TypedRequests.Names
import TypedRequests.Naming
import TypedRequests.Node
import TypedRequests.Number.Binary64
import TypedRequests.Number.Decimal
import TypedRequests.Number.Layout
import TypedRequests.Number.Shortest
import TypedRequests.OpenApi.Document
import TypedRequests.OpenApi.Document.Reading
import TypedRequests.OpenApi.Method
import TypedRequests.OpenApi.Schema
import TypedRequests.OpenApi.Schema.Reading
import TypedRequests.OpenApi.Schema.Typing
import TypedRequests.OrderedMap
import TypedRequests.Path
import TypedRequests.PathTemplate
import TypedRequests.Proofs.Addresses
import TypedRequests.Proofs.BareReading
import TypedRequests.Proofs.BoundNames
import TypedRequests.Proofs.BrokenSchemas
import TypedRequests.Proofs.Calls
import TypedRequests.Proofs.CaseTables
import TypedRequests.Proofs.Casing
import TypedRequests.Proofs.Changes
import TypedRequests.Proofs.ClaimedNames
import TypedRequests.Proofs.CodeHook
import TypedRequests.Proofs.CommentEnds
import TypedRequests.Proofs.Commuting
import TypedRequests.Proofs.Comparisons
import TypedRequests.Proofs.Containment
import TypedRequests.Proofs.DataNumbers
import TypedRequests.Proofs.Declarations
import TypedRequests.Proofs.DeclaredTypes
import TypedRequests.Proofs.DiskFiles
import TypedRequests.Proofs.DiskRuns
import TypedRequests.Proofs.DistinctNames
import TypedRequests.Proofs.Documentation
import TypedRequests.Proofs.EarlyFailures
import TypedRequests.Proofs.Emission
import TypedRequests.Proofs.Emptying
import TypedRequests.Proofs.Extraction
import TypedRequests.Proofs.FieldValues
import TypedRequests.Proofs.Files
import TypedRequests.Proofs.FirstUse
import TypedRequests.Proofs.Footprints
import TypedRequests.Proofs.HookedChanges
import TypedRequests.Proofs.Identifiers
import TypedRequests.Proofs.ImportSources
import TypedRequests.Proofs.Imports
import TypedRequests.Proofs.Independence
import TypedRequests.Proofs.Initials
import TypedRequests.Proofs.JsonData
import TypedRequests.Proofs.LiteralValues
import TypedRequests.Proofs.MergedParameters
import TypedRequests.Proofs.NamedTypes
import TypedRequests.Proofs.NamesOnly
import TypedRequests.Proofs.Numerals
import TypedRequests.Proofs.NumericMembers
import TypedRequests.Proofs.Openings
import TypedRequests.Proofs.Outputs
import TypedRequests.Proofs.ParameterEntries
import TypedRequests.Proofs.Parameters
import TypedRequests.Proofs.PathItems
import TypedRequests.Proofs.Paths
import TypedRequests.Proofs.Placeholders
import TypedRequests.Proofs.Places
import TypedRequests.Proofs.PrintedJson
import TypedRequests.Proofs.PrintedScalars
import TypedRequests.Proofs.QueryTypes
import TypedRequests.Proofs.RangedNumbers
import TypedRequests.Proofs.References
import TypedRequests.Proofs.Regeneration
import TypedRequests.Proofs.RenderFailures
import TypedRequests.Proofs.Replacing
import TypedRequests.Proofs.Resolution
import TypedRequests.Proofs.Runs
import TypedRequests.Proofs.SanitizedNames
import TypedRequests.Proofs.SavedDocuments
import TypedRequests.Proofs.Scans
import TypedRequests.Proofs.SchemaFields
import TypedRequests.Proofs.ShortestDecimals
import TypedRequests.Proofs.SkippedNames
import TypedRequests.Proofs.Skipping
import TypedRequests.Proofs.Telling
import TypedRequests.Proofs.TellingDocuments
import TypedRequests.Proofs.TemplateLiterals
import TypedRequests.Proofs.Undocumented
import TypedRequests.Proofs.UniqueReading
import TypedRequests.Proofs.UnusedEntries
import TypedRequests.Proofs.ValidNames
import TypedRequests.Proofs.YamlData
import TypedRequests.Readers
import TypedRequests.Reading
import TypedRequests.Request.Assembly
import TypedRequests.Request.Context
import TypedRequests.Request.Endpoint
import TypedRequests.Request.Function
import TypedRequests.Request.Generate
import TypedRequests.Request.Report
import TypedRequests.Source
import TypedRequests.Template.Basic
import TypedRequests.Template.Expression
import TypedRequests.Template.Fault
import TypedRequests.Template.Meaning
import TypedRequests.Template.Reader
import TypedRequests.Template.Render
import TypedRequests.Text.Blank
import TypedRequests.Text.Casing
import TypedRequests.Text.Letters
import TypedRequests.Text.Printable
import TypedRequests.Text.Replace
import TypedRequests.Text.Scan
import TypedRequests.Text.Words
import TypedRequests.Toml.Basic
import TypedRequests.Toml.Quoted
import TypedRequests.Toml.Reader
import TypedRequests.Toml.Scalar
import TypedRequests.Toml.Table
import TypedRequests.TypeScript.Comment
import TypedRequests.TypeScript.Literal
import TypedRequests.TypeScript.Statement
import TypedRequests.TypeScript.Type
import TypedRequests.Yaml.Block
import TypedRequests.Yaml.Flow
import TypedRequests.Yaml.Place
import TypedRequests.Yaml.Reader
import TypedRequests.Yaml.Scalar
import TypedRequests.Yaml.Token
