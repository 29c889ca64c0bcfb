import PullComment.Main
import PullComment.Session.Step
import PullComment.Proofs.Text.Titled
import PullComment.Proofs.Comment.Isolation
import PullComment.Proofs.Comment.Log
import PullComment.Proofs.Comment.Details
import PullComment.Proofs.Comment.Header
import PullComment.Proofs.Comment.Single
import PullComment.Proofs.Schema.RoundTrip
import PullComment.Proofs.Schema.Lossless
import PullComment.Proofs.Schema.Composition
import PullComment.Proofs.Schema.Media
import PullComment.Proofs.Schema.Memory
import PullComment.Proofs.Schema.Agreement
import PullComment.Proofs.Schema.Omission
import PullComment.Proofs.Schema.Given
import PullComment.Proofs.Session.Change
import PullComment.Proofs.Session.Idle
import PullComment.Proofs.Session.Roles
import PullComment.Proofs.Session.Origin
import PullComment.Proofs.Session.Sharing
import PullComment.Proofs.Session.Validity
import PullComment.Proofs.Session.GivenFields
import PullComment.Proofs.CommandLine.Ending
import PullComment.Proofs.CommandLine.Output
import PullComment.Proofs.CommandLine.Problems
