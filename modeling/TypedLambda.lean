import TypedLambda.Main
import TypedLambda.Proofs.Counter
import TypedLambda.Proofs.Explorer.Grammar
import TypedLambda.Proofs.Explorer.Session
import TypedLambda.Proofs.Expr.Comparison
import TypedLambda.Proofs.Expr.Iteration
import TypedLambda.Proofs.Expr.Lists
import TypedLambda.Proofs.Expr.Unbounded
import TypedLambda.Proofs.Input.Joining
import TypedLambda.Proofs.Input.Sending
import TypedLambda.Proofs.Named.Sharing
import TypedLambda.Proofs.Named.Surroundings
import TypedLambda.Proofs.Output.Tours
import TypedLambda.Proofs.Output.Transcript
import TypedLambda.Proofs.Plain.Adequacy
import TypedLambda.Proofs.Skeleton.Depth
import TypedLambda.Proofs.Skeleton.Reader
import TypedLambda.Proofs.Text.Quoted
import TypedLambda.Proofs.Untyped.Annotations
import TypedLambda.Proofs.Workspace
