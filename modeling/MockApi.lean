import MockApi.Json.Reader
import MockApi.Json.Printer
import MockApi.Path.Read
import MockApi.Path.Write
import MockApi.Template.Placeholder
import MockApi.Template.Content
import MockApi.Cast
import MockApi.Repeat
import MockApi.HeaderMap
import MockApi.Predicate.Evaluation
import MockApi.Contract.Rejection
import MockApi.Contract.Starter
import MockApi.Response.Build
import MockApi.Sample.Fill
import MockApi.Console.Run
import MockApi.Text.Base64
import MockApi.Main
import MockApi.Proofs.Substitution
import MockApi.Proofs.FieldAccess
import MockApi.Proofs.Generation
import MockApi.Proofs.Language
import MockApi.Proofs.Rejecting
import MockApi.Proofs.Resolving
import MockApi.Proofs.Lawfulness
import MockApi.Proofs.Scanning
import MockApi.Proofs.Collecting
import MockApi.Proofs.Mounting
import MockApi.Proofs.Selection
import MockApi.Proofs.Handing
import MockApi.Proofs.Leaves
import MockApi.Proofs.Locating
import MockApi.Proofs.Addressing
import MockApi.Proofs.Stopping
import MockApi.Proofs.Fusing
import MockApi.Proofs.Gathering
import MockApi.Proofs.Labelling
import MockApi.Proofs.Merging
import MockApi.Proofs.Registering
import MockApi.Proofs.Commuting
import MockApi.Proofs.Restoring
import MockApi.Proofs.Sending
import MockApi.Proofs.Shaping
import MockApi.Proofs.Repeating
import MockApi.Proofs.Missing
import MockApi.Proofs.Mentioning
import MockApi.Proofs.Guarding
import MockApi.Proofs.Chaining
import MockApi.Proofs.HeaderMaps
import MockApi.Proofs.Receiving
import MockApi.Proofs.Querying
import MockApi.Proofs.Capturing
import MockApi.Proofs.Filling
import MockApi.Proofs.Listing
import MockApi.Proofs.Attributing
