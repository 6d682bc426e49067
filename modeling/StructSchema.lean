import StructSchema.Main
import StructSchema.Run
import StructSchema.Proofs.Acceptance
import StructSchema.Proofs.Accounting
import StructSchema.Proofs.Address
import StructSchema.Proofs.Artifact
import StructSchema.Proofs.Assembly
import StructSchema.Proofs.Clean
import StructSchema.Proofs.Coherence
import StructSchema.Proofs.Config
import StructSchema.Proofs.Denotation
import StructSchema.Proofs.Discovery
import StructSchema.Proofs.Division
import StructSchema.Proofs.Editing
import StructSchema.Proofs.Encoding
import StructSchema.Proofs.EntityTag
import StructSchema.Proofs.Fallible
import StructSchema.Proofs.Fault
import StructSchema.Proofs.FieldOrder
import StructSchema.Proofs.FileSystem
import StructSchema.Proofs.FileTree
import StructSchema.Proofs.Grouping
import StructSchema.Proofs.HiddenField
import StructSchema.Proofs.Host
import StructSchema.Proofs.Identifier
import StructSchema.Proofs.Json
import StructSchema.Proofs.JsonNumber
import StructSchema.Proofs.JsonReading
import StructSchema.Proofs.JsonString
import StructSchema.Proofs.KeyAlphabet
import StructSchema.Proofs.KeyGrammar
import StructSchema.Proofs.Layers
import StructSchema.Proofs.Literal
import StructSchema.Proofs.LiteralSearch
import StructSchema.Proofs.Log
import StructSchema.Proofs.Mapping
import StructSchema.Proofs.Name
import StructSchema.Proofs.NameTable
import StructSchema.Proofs.Offence
import StructSchema.Proofs.Opening
import StructSchema.Proofs.Payload
import StructSchema.Proofs.Placement
import StructSchema.Proofs.PrimaryKey
import StructSchema.Proofs.Readable
import StructSchema.Proofs.Reading
import StructSchema.Proofs.Recorder
import StructSchema.Proofs.Recording
import StructSchema.Proofs.Rejection
import StructSchema.Proofs.Rendering
import StructSchema.Proofs.Run
import StructSchema.Proofs.Scan
import StructSchema.Proofs.SchemaTag
import StructSchema.Proofs.Search
import StructSchema.Proofs.Settings
import StructSchema.Proofs.SourceOrder
import StructSchema.Proofs.Splitting
import StructSchema.Proofs.StructTag
import StructSchema.Proofs.TagOptions
import StructSchema.Proofs.TagPairs
import StructSchema.Proofs.Token
import StructSchema.Proofs.Trimmed
import StructSchema.Proofs.Utf8
import StructSchema.Proofs.Validity
import StructSchema.Proofs.Walk
