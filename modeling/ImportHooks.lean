import ImportHooks.Jsonc
import ImportHooks.Tsconfig.Config
import ImportHooks.Tsconfig.Target
import ImportHooks.Load.Kind
import ImportHooks.Load.Format
import ImportHooks.Load.Options
import ImportHooks.Text.Fold
import ImportHooks.Text.Word
import ImportHooks.Pattern.Charset
import ImportHooks.Pattern.Expr
import ImportHooks.Pattern.Named
import ImportHooks.Pattern.Reader
import ImportHooks.Pattern.Search
import ImportHooks.Pattern.Footprint
import ImportHooks.Resolve.Rule
import ImportHooks.Disk
import ImportHooks.Tsconfig.Search
import ImportHooks.Url.Basic
import ImportHooks.Url.File
import ImportHooks.Hooks.Error
import ImportHooks.Hooks.Exchange
import ImportHooks.Hooks.Stack
import ImportHooks.Settings
import ImportHooks.Proofs.Text.Parts
import ImportHooks.Proofs.Text.Utf8
import ImportHooks.Proofs.Path.Names
import ImportHooks.Proofs.Path.Ancestors
import ImportHooks.Proofs.Disk.Places
import ImportHooks.Proofs.Disk.Walk
import ImportHooks.Proofs.Pattern.Search
import ImportHooks.Proofs.Pattern.Layout
import ImportHooks.Proofs.Pattern.Words
import ImportHooks.Proofs.Url.Escape
import ImportHooks.Proofs.Url.Host
import ImportHooks.Proofs.Url.Made
import ImportHooks.Proofs.Url.Authority
import ImportHooks.Proofs.Url.Reading
import ImportHooks.Proofs.Url.FilePath
import ImportHooks.Proofs.Url.DotSegments
import ImportHooks.Proofs.Tsconfig.Reference
import ImportHooks.Proofs.Tsconfig.Visits
import ImportHooks.Proofs.Tsconfig.Inheritance
import ImportHooks.Proofs.Tsconfig.Steps
import ImportHooks.Proofs.Tsconfig.Once
import ImportHooks.Proofs.Tsconfig.Ending
import ImportHooks.Proofs.Tsconfig.Packages
import ImportHooks.Proofs.Hooks.LoadStack
import ImportHooks.Proofs.Hooks.ResolveStack
import ImportHooks.Proofs.Resolve.History
import ImportHooks.Proofs.Resolve.Remote
import ImportHooks.Proofs.Resolve.Verified
import ImportHooks.Proofs.Resolve.Endings
import ImportHooks.Proofs.Resolve.Handover
import ImportHooks.Proofs.Resolve.OnDisk
import ImportHooks.Proofs.Json.Grammar
import ImportHooks.Proofs.Json.Layout
import ImportHooks.Proofs.Json.Reading
import ImportHooks.Proofs.Json.Value
import ImportHooks.Proofs.Jsonc.Decoration
import ImportHooks.Proofs.Jsonc.Lookahead
import ImportHooks.Proofs.Jsonc.Strict
import ImportHooks.Proofs.Jsonc.Recut
import ImportHooks.Proofs.Jsonc.Recovery
import ImportHooks.Proofs.Jsonc.Acceptance
import ImportHooks.Proofs.Jsonc.HeldComma
import ImportHooks.Proofs.Tsconfig.Fields
