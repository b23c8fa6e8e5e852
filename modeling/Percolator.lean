import Percolator.Matching
import Percolator.Recorder
import Percolator.Expr.Evaluation
import Percolator.Tree.Graphviz
import Percolator.Proofs.Regex.Reach
import Percolator.Proofs.Tree.Layout
import Percolator.Proofs.Expr.Places
import Percolator.Proofs.Expr.Verdict
import Percolator.Proofs.Evaluation.Sweep
import Percolator.Proofs.Evaluation.Tracking
import Percolator.Proofs.Evaluation.Run
import Percolator.Proofs.Evaluation.Duality
import Percolator.Proofs.Index.Store
import Percolator.Proofs.Index.History
import Percolator.Proofs.Workspace.Views
import Percolator.Proofs.Workspace.Subscriptions
import Percolator.Proofs.Workspace.Bookkeeping
import Percolator.Proofs.Workspace.Matching
import Percolator.Proofs.Workspace.Inheritance
import Percolator.Proofs.Workspace.Moves
import Percolator.Proofs.Tree.Preorder
import Percolator.Proofs.Tree.Acceptance
import Percolator.Proofs.Tree.Ancestry
import Percolator.Proofs.Evaluation.Counting
import Percolator.Proofs.Pattern.Like
import Percolator.Proofs.Pattern.Anchored
import Percolator.Proofs.Predicate.Equality
import Percolator.Proofs.Workspace.Interference
import Percolator.Proofs.Evaluation.Finality
import Percolator.Proofs.Workspace.Finality
import Percolator.Proofs.Evaluation.Shadow
import Percolator.Proofs.Evaluation.Damage
import Percolator.Proofs.Evaluation.Progress
import Percolator.Proofs.Evaluation.ShortCircuit
import Percolator.Proofs.Workspace.Recording
import Percolator.Proofs.Workspace.Redelivery
import Percolator.Proofs.Value.Order
import Percolator.Proofs.Schema.Resolution
import Percolator.Proofs.Workspace.Recycling
import Percolator.Proofs.Session.Keys
import Percolator.Proofs.Drawing.Escaping
import Percolator.Proofs.Drawing.Labels
import Percolator.Proofs.Evaluation.Resweep
import Percolator.Proofs.Drawing.Contents
import Percolator.Proofs.Drawing.Negations
