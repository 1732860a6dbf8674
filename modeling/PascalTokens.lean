import PascalTokens.Grammar.Gap
import PascalTokens.Grammar.Spelling
import PascalTokens.Host.World
import PascalTokens.Main
import PascalTokens.Scan.Items
import PascalTokens.Proofs.Excerpt
import PascalTokens.Proofs.Flaws
import PascalTokens.Proofs.Horizon
import PascalTokens.Proofs.LongestMatch
import PascalTokens.Proofs.Memory
import PascalTokens.Proofs.Relayout
import PascalTokens.Proofs.Tiling
import PascalTokens.Proofs.TokenStream
import PascalTokens.Proofs.Reader
import PascalTokens.Proofs.Stepwise
import PascalTokens.Json.Grammar
import PascalTokens.Json.Reading
import PascalTokens.Proofs.Commands
import PascalTokens.Proofs.Interleaving
import PascalTokens.Proofs.JsonReading
import PascalTokens.Proofs.JsonReport
import PascalTokens.Proofs.LexCommand
import PascalTokens.Proofs.Casing
import PascalTokens.Proofs.Recasing
import PascalTokens.Proofs.ConfigDocument
import PascalTokens.Proofs.Directories
import PascalTokens.Proofs.ConfigStore
import PascalTokens.Proofs.Setup
import PascalTokens.Proofs.SetupCommand
import PascalTokens.Grammar.Incomplete
import PascalTokens.Proofs.Ending
import PascalTokens.Proofs.Incomplete
import PascalTokens.Proofs.Exchange
import PascalTokens.Proofs.TextReport
import PascalTokens.Proofs.Rendering
import PascalTokens.Proofs.Trace
