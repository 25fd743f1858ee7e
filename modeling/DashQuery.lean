import DashQuery.Main
import DashQuery.Settings.Files
import DashQuery.Proofs.Lexing
import DashQuery.Proofs.Grammar
import DashQuery.Proofs.Typing
import DashQuery.Proofs.Blocks
import DashQuery.Proofs.BlockPlaces
import DashQuery.Proofs.Dispatch
import DashQuery.Proofs.FilterTokens
import DashQuery.Proofs.RoundTrip
import DashQuery.Proofs.WildcardLabels
import DashQuery.Proofs.WildcardPattern
import DashQuery.Proofs.WildcardPlaces
import DashQuery.Proofs.WildcardFilters
import DashQuery.Proofs.GroupSources
import DashQuery.Proofs.Quoting
import DashQuery.Proofs.BlankMetrics
import DashQuery.Proofs.Bounds
import DashQuery.Proofs.EndAnchor
import DashQuery.Proofs.WholeNames
import DashQuery.Proofs.Batches
import DashQuery.Proofs.Unambiguous
import DashQuery.Proofs.Rollups
import DashQuery.Proofs.Layers
import DashQuery.Proofs.JsonText
import DashQuery.Proofs.Dump
import DashQuery.Proofs.Renaming
import DashQuery.Proofs.ByteOrder
import DashQuery.Proofs.TableRuns
import DashQuery.Proofs.EntryPoints
import DashQuery.Proofs.Outcomes
import DashQuery.Proofs.Titles
import DashQuery.Proofs.Separators
import DashQuery.Proofs.PrintedLines
import DashQuery.Proofs.Respacing
import DashQuery.Proofs.Alternatives
import DashQuery.Proofs.Coverage
import DashQuery.Proofs.Exceptions
import DashQuery.Proofs.Globs
