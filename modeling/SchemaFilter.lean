import SchemaFilter.Command.Directory
import SchemaFilter.Command.Session
import SchemaFilter.Filter.Policy
import SchemaFilter.Main
import SchemaFilter.Proofs.Text.Pieces
import SchemaFilter.Proofs.Text.Trim
import SchemaFilter.Proofs.Text.Utf8
import SchemaFilter.Proofs.Text.Replacement
import SchemaFilter.Proofs.Rule.Content
import SchemaFilter.Proofs.Rule.Form
import SchemaFilter.Proofs.Rule.Canonical
import SchemaFilter.Proofs.Rule.Refusal
import SchemaFilter.Proofs.Filter.Compile
import SchemaFilter.Proofs.Filter.Parse
import SchemaFilter.Proofs.Filter.Blame
import SchemaFilter.Proofs.Filter.Verdicts
import SchemaFilter.Proofs.Filter.Events
import SchemaFilter.Proofs.Filter.Report
import SchemaFilter.Proofs.Json.Forms
import SchemaFilter.Proofs.Command.ObjectArgument
import SchemaFilter.Proofs.Command.Work
import SchemaFilter.Proofs.Command.Loading
import SchemaFilter.Proofs.Command.Outcome
import SchemaFilter.Proofs.Command.Building
import SchemaFilter.Proofs.Command.Options
import SchemaFilter.Proofs.Command.RulesFile
import SchemaFilter.Proofs.Command.InlineRules
import SchemaFilter.Proofs.Command.Relisting
import SchemaFilter.Proofs.Command.Table
import SchemaFilter.Proofs.Command.Session
import SchemaFilter.Proofs.Command.Reports
import SchemaFilter.Proofs.Command.Interleaving
import SchemaFilter.Proofs.Filter.Dependence
import SchemaFilter.Proofs.Filter.Negation
import SchemaFilter.Proofs.Pattern.Literal
import SchemaFilter.Proofs.Pattern.Search
import SchemaFilter.Proofs.Filter.Literal
import SchemaFilter.Proofs.Command.Logging
