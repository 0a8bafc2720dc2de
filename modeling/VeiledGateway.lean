import VeiledGateway.Command.ServerProgram
import VeiledGateway.Gateway.Traffic
import VeiledGateway.Log.Template
import VeiledGateway.Main
import VeiledGateway.Proofs.Asset.Containment
import VeiledGateway.Proofs.Rewriting.Resolving
import VeiledGateway.Proofs.Style.Showing
import VeiledGateway.Proofs.Asset.Serving
import VeiledGateway.Proofs.Gateway.Enforcement
import VeiledGateway.Proofs.Session.Codec
import VeiledGateway.Proofs.Session.Keeping
import VeiledGateway.Proofs.Session.Records
import VeiledGateway.Proofs.Gateway.Leaving
import VeiledGateway.Proofs.Gateway.Effect
import VeiledGateway.Proofs.Gateway.History
import VeiledGateway.Proofs.Context.Faithful
import VeiledGateway.Proofs.Context.Repeating
import VeiledGateway.Proofs.Context.Ordering
import VeiledGateway.Proofs.Gateway.Failing
import VeiledGateway.Proofs.Gateway.Persisting
import VeiledGateway.Proofs.Script.Agreeing
import VeiledGateway.Proofs.Script.Renaming
import VeiledGateway.Proofs.Gateway.Isolation
import VeiledGateway.Proofs.Session.Recalling
import VeiledGateway.Proofs.Session.Sweeping
import VeiledGateway.Proofs.Config.Layering
import VeiledGateway.Proofs.Markup.Veiling
import VeiledGateway.Proofs.Rewriting.Matching
import VeiledGateway.Proofs.Rewriting.Recognising
import VeiledGateway.Proofs.Script.Evaluating
import VeiledGateway.Proofs.Script.Justifying
import VeiledGateway.Proofs.Script.Accessing
import VeiledGateway.Proofs.Style.Keeping
import VeiledGateway.Proofs.Edits.Splicing
import VeiledGateway.Proofs.Script.Strings
import VeiledGateway.Proofs.Script.Leaves
import VeiledGateway.Proofs.Script.Rereading
import VeiledGateway.Proofs.Script.Coinciding
import VeiledGateway.Proofs.Script.Meeting
import VeiledGateway.Proofs.Gateway.Submitting
import VeiledGateway.Proofs.Session.Returning
import VeiledGateway.Proofs.Style.Escaping
import VeiledGateway.Proofs.Style.Selecting
import VeiledGateway.Proofs.Context.Indexing
import VeiledGateway.Proofs.Context.Counting
import VeiledGateway.Proofs.Gateway.Addressing
import VeiledGateway.Proofs.Markup.Verbatim
