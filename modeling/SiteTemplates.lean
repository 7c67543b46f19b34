import SiteTemplates.Fingerprint.Key
import SiteTemplates.Main
import SiteTemplates.Proofs.Template.Grammar
import SiteTemplates.Proofs.Template.Reading
import SiteTemplates.Proofs.Template.Balance
import SiteTemplates.Proofs.Template.References
import SiteTemplates.Proofs.Render.Levels
import SiteTemplates.Proofs.Render.Simulation
import SiteTemplates.Proofs.Render.Recursion
import SiteTemplates.Proofs.Render.Expansion
import SiteTemplates.Proofs.Render.Stability
import SiteTemplates.Proofs.Cache.Command
import SiteTemplates.Proofs.Cache.Incremental
import SiteTemplates.Proofs.Render.Steps
import SiteTemplates.Proofs.Render.Termination
import SiteTemplates.Proofs.Render.Inheritance
import SiteTemplates.Proofs.Render.Guards
import SiteTemplates.Proofs.Render.Concatenation
import SiteTemplates.Proofs.Cache.Eviction
import SiteTemplates.Proofs.Cache.RenderRun
import SiteTemplates.Proofs.Cache.Provenance
import SiteTemplates.Proofs.Cache.PlainTemplates
import SiteTemplates.Proofs.Cache.DependencyHistory
import SiteTemplates.Proofs.Cache.Retention
import SiteTemplates.Proofs.Template.RoundTrip
import SiteTemplates.Proofs.Value.Scope
import SiteTemplates.Proofs.Value.Index
import SiteTemplates.Proofs.Value.Simple
import SiteTemplates.Proofs.Render.Relevance
import SiteTemplates.Proofs.Render.Adequacy
import SiteTemplates.Proofs.Render.SimpleContexts
import SiteTemplates.Proofs.Cache.Footprint
import SiteTemplates.Proofs.Cache.Reuse
import SiteTemplates.Proofs.Fingerprint.Quotation
import SiteTemplates.Proofs.Fingerprint.Reading
import SiteTemplates.Proofs.Fingerprint.Separation
import SiteTemplates.Proofs.Fingerprint.Seam
import SiteTemplates.Proofs.Cache.Recency
import SiteTemplates.Proofs.Template.Closure
import SiteTemplates.Proofs.Cache.Pattern
import SiteTemplates.Proofs.Calendar.Ordinal
import SiteTemplates.Proofs.Calendar.Reading
import SiteTemplates.Proofs.Cache.Instants
import SiteTemplates.Proofs.Template.Asked
import SiteTemplates.Proofs.Render.Origin
import SiteTemplates.Proofs.Lists
import SiteTemplates.Proofs.Value.Parts
import SiteTemplates.Proofs.Value.Closing
import SiteTemplates.Proofs.Calendar.Notation
import SiteTemplates.Proofs.Text.Excerpt
import SiteTemplates.Proofs.Text.Emphasis
import SiteTemplates.Proofs.Text.Nesting
import SiteTemplates.Proofs.Text.Slug
import SiteTemplates.Proofs.Text.TagFree
import SiteTemplates.Proofs.Value.Entries
import SiteTemplates.Proofs.Yaml.Mapping
import SiteTemplates.Proofs.Project.Folder
import SiteTemplates.Proofs.Project.Discovery
import SiteTemplates.Proofs.Project.Data
import SiteTemplates.Proofs.Text.Parts
import SiteTemplates.Proofs.Project.Listing
import SiteTemplates.Proofs.Text.OutsideQuotes
import SiteTemplates.Proofs.Value.NestedScopes
import SiteTemplates.Proofs.Number.Nearest
import SiteTemplates.Proofs.Cache.Operation
import SiteTemplates.Proofs.Cache.Accounting
