import Retrieval.Api.Service
import Retrieval.Compilation.Document
import Retrieval.Credentials
import Retrieval.Envelope.Normal
import Retrieval.Execution.Batch
import Retrieval.Execution.Replay
import Retrieval.Http.Client
import Retrieval.Json.Decode
import Retrieval.Log.Logger
import Retrieval.Proofs.Agreement
import Retrieval.Proofs.Attribution
import Retrieval.Proofs.Authorization
import Retrieval.Proofs.Backoff
import Retrieval.Proofs.Bodies
import Retrieval.Proofs.Compiling
import Retrieval.Proofs.Conjunctions
import Retrieval.Proofs.Declarations
import Retrieval.Proofs.Documents
import Retrieval.Proofs.Doubles
import Retrieval.Proofs.Exhaustion
import Retrieval.Proofs.Fetching
import Retrieval.Proofs.FilterArguments
import Retrieval.Proofs.Grammar
import Retrieval.Proofs.Isolation
import Retrieval.Proofs.KnownFields
import Retrieval.Proofs.Literals
import Retrieval.Proofs.Merging
import Retrieval.Proofs.Overflow
import Retrieval.Proofs.Ownership
import Retrieval.Proofs.PathTexts
import Retrieval.Proofs.PerRecord
import Retrieval.Proofs.Placing
import Retrieval.Proofs.Policies
import Retrieval.Proofs.Regaining
import Retrieval.Proofs.Reordering
import Retrieval.Proofs.ResponseKeys
import Retrieval.Proofs.Sections
import Retrieval.Proofs.Shapes
import Retrieval.Proofs.SharedDocument
import Retrieval.Proofs.Stages
import Retrieval.Proofs.Statistics
import Retrieval.Proofs.ValueTypes
import Retrieval.Proofs.Weights
import Retrieval.Query.Call
import Retrieval.Selection.Fold
import Retrieval.Selection.Render
import Retrieval.Settings.Lookup
import Retrieval.Template
