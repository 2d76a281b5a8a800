import SurfaceStudio.Files.Tree
import SurfaceStudio.Main
import SurfaceStudio.Proofs.Json.Members
import SurfaceStudio.Proofs.Json.Values
import SurfaceStudio.Proofs.Json.Reads
import SurfaceStudio.Proofs.Json.Strings
import SurfaceStudio.Proofs.Json.Numerals
import SurfaceStudio.Proofs.Json.Numbers
import SurfaceStudio.Proofs.Json.Integers
import SurfaceStudio.Proofs.Json.RoundTrip
import SurfaceStudio.Proofs.Json.Yields
import SurfaceStudio.Proofs.Surface.Documents
import SurfaceStudio.Proofs.Surface.RoundTrip
import SurfaceStudio.Proofs.Studio.Requests
import SurfaceStudio.Proofs.Surface.Templates
import SurfaceStudio.Proofs.Studio.Coherence
import SurfaceStudio.Proofs.Render.Strategies
import SurfaceStudio.Proofs.Render.Diagnostics
import SurfaceStudio.Proofs.Surface.Lossless
import SurfaceStudio.Proofs.Render.Frames
import SurfaceStudio.Proofs.Render.Mirror
import SurfaceStudio.Proofs.Surface.Replacement
import SurfaceStudio.Proofs.Render.Locality
import SurfaceStudio.Proofs.Json.Stages
import SurfaceStudio.Proofs.Wire.Agreement
import SurfaceStudio.Proofs.Wire.RoundTrip
import SurfaceStudio.Proofs.Surface.Agreement
import SurfaceStudio.Proofs.Studio.Transcript
import SurfaceStudio.Proofs.Studio.Preview
import SurfaceStudio.Proofs.Chat.Attachments
import SurfaceStudio.Proofs.Studio.Relay
import SurfaceStudio.Proofs.Backend.Workload
import SurfaceStudio.Proofs.Console.Moves
import SurfaceStudio.Proofs.Console.InStep
import SurfaceStudio.Proofs.Studio.Independence
import SurfaceStudio.Proofs.Studio.News
import SurfaceStudio.Proofs.Render.Same
import SurfaceStudio.Proofs.Console.Screen
import SurfaceStudio.Proofs.Console.Ledger
import SurfaceStudio.Proofs.Console.Conclusion
import SurfaceStudio.Proofs.Chat.RoundTrip
import SurfaceStudio.Proofs.Console.Directives
import SurfaceStudio.Proofs.Console.Lines
import SurfaceStudio.Proofs.Backend.Answers
import SurfaceStudio.Proofs.Studio.Submission
import SurfaceStudio.Proofs.Surface.Edits
import SurfaceStudio.Proofs.Json.Grammar
import SurfaceStudio.Proofs.Json.Soundness
import SurfaceStudio.Proofs.Render.Schema
import SurfaceStudio.Proofs.Json.Completeness
import SurfaceStudio.Proofs.Surface.Classification
import SurfaceStudio.Proofs.Surface.Redecoding
import SurfaceStudio.Proofs.Console.Layout
import SurfaceStudio.Proofs.Binary64.Rounding
import SurfaceStudio.Proofs.Console.Bars
import SurfaceStudio.Proofs.Console.SingleLines
import SurfaceStudio.Proofs.Studio.Rounds
import SurfaceStudio.Proofs.Surface.Histories
import SurfaceStudio.Proofs.Render.Records
import SurfaceStudio.Proofs.Settings.Layering
