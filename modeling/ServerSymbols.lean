import ServerSymbols.Main
import ServerSymbols.Proofs.Symbol.Transparent
import ServerSymbols.Proofs.Table.Alike
import ServerSymbols.Proofs.Table.Content
import ServerSymbols.Proofs.Identifier.Border
import ServerSymbols.Proofs.Impact
import ServerSymbols.Proofs.Locality
import ServerSymbols.Proofs.Services
import ServerSymbols.Proofs.Model.Clash
import ServerSymbols.Proofs.Cache
import ServerSymbols.Proofs.Symbol.Exempt
import ServerSymbols.Proofs.Model.Preorder
import ServerSymbols.Proofs.Model.Build
import ServerSymbols.Proofs.Groups
import ServerSymbols.Proofs.Symbol.Expansion
import ServerSymbols.Proofs.Symbol.Calls
import ServerSymbols.Proofs.Table.Failure
import ServerSymbols.Proofs.Document.Faithful
import ServerSymbols.Proofs.Settings
import ServerSymbols.Proofs.Document.Sources
import ServerSymbols.Proofs.Document.Enumeration
import ServerSymbols.Proofs.Document.Traits
import ServerSymbols.Proofs.Model.Conflict
import ServerSymbols.Proofs.Model.Nesting
import ServerSymbols.Proofs.Digraph.Rounds
import ServerSymbols.Proofs.Digraph.FinishOrder
import ServerSymbols.Proofs.Identifier.Spelling
import ServerSymbols.Proofs.Identifier.Letters
import ServerSymbols.Proofs.TypeExpr
import ServerSymbols.Proofs.Symbol.ModulePath
import ServerSymbols.Proofs.Table.Layout
