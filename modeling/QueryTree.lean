import QueryTree.Artifact.Document
import QueryTree.Main
import QueryTree.Proofs.Artifact.Declared
import QueryTree.Proofs.Build.Arguments
import QueryTree.Proofs.Build.Blame
import QueryTree.Proofs.Build.Conserved
import QueryTree.Proofs.Build.Numbered
import QueryTree.Proofs.Build.Plain
import QueryTree.Proofs.Build.Wrapped
import QueryTree.Proofs.Command.Format
import QueryTree.Proofs.Compile.Defaults
import QueryTree.Proofs.Compile.Joined
import QueryTree.Proofs.Compile.Recency
import QueryTree.Proofs.Compile.Reported
import QueryTree.Proofs.Document.Layout
import QueryTree.Proofs.Node.Disguise
import QueryTree.Proofs.Normal.Rewritten
import QueryTree.Proofs.Scope.Place
