import UseSites.Main
import UseSites.Proofs.Category.Domain
import UseSites.Proofs.Command.Misuse
import UseSites.Proofs.Command.Output
import UseSites.Proofs.Files.Copies
import UseSites.Proofs.Files.Discovery
import UseSites.Proofs.Files.Pruning
import UseSites.Proofs.Project.Arrival
import UseSites.Proofs.Project.Faults
import UseSites.Proofs.Project.Groups
import UseSites.Proofs.Project.Loading
import UseSites.Proofs.Project.Outcome
import UseSites.Proofs.Project.Relocation
import UseSites.Proofs.Project.Scope
import UseSites.Proofs.Project.Shown
import UseSites.Proofs.Project.SourceNames
import UseSites.Proofs.Project.Strictness
import UseSites.Proofs.Settings.Explicit
import UseSites.Proofs.Settings.Variables
import UseSites.Proofs.Syntax.Faithful
import UseSites.Proofs.Syntax.FirstError
import UseSites.Proofs.Syntax.Identifiers
import UseSites.Proofs.Syntax.Introduced
import UseSites.Proofs.Syntax.Postorder
import UseSites.Proofs.Syntax.Required
import UseSites.Proofs.Syntax.Shape
import UseSites.Proofs.Syntax.Walk
import UseSites.Proofs.Terminal.Icons
import UseSites.Proofs.Text.Excerpt
import UseSites.Proofs.Text.Utf8
import UseSites.Proofs.Use.Mentions
