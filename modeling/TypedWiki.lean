import TypedWiki.ErrorReport
import TypedWiki.Inspect
import TypedWiki.Schema.Install
import TypedWiki.Selection.Edit
import TypedWiki.Store.Transaction
import TypedWiki.Proofs.Run
import TypedWiki.Proofs.Store.Interleaving
import TypedWiki.Proofs.Store.LostUpdate
import TypedWiki.Proofs.Document.Reachable
import TypedWiki.Proofs.Document.Representation
import TypedWiki.Proofs.Identifier.Unique
import TypedWiki.Proofs.Selection.Answer
import TypedWiki.Proofs.Reference.RoundTrip
import TypedWiki.Proofs.Object.ReadBack
import TypedWiki.Proofs.Selection.Creation
import TypedWiki.Proofs.Selection.FailedCreation
import TypedWiki.Proofs.Object.CustomField
import TypedWiki.Proofs.Identifier.Lossless
import TypedWiki.Proofs.Store.Atomicity
import TypedWiki.Proofs.Query.Findable
import TypedWiki.Proofs.Mapping.RoundTrip
import TypedWiki.Proofs.Identifier.Uid
import TypedWiki.Proofs.Reference.Grammar
import TypedWiki.Proofs.Reference.ShortForm
import TypedWiki.Proofs.Schema.ByName
import TypedWiki.Proofs.Query.Collection
import TypedWiki.Proofs.Store.Exclusion
import TypedWiki.Proofs.Schema.Installation
import TypedWiki.Proofs.Selection.Localized
import TypedWiki.Proofs.Object.Declared
import TypedWiki.Proofs.Object.WriteBack
import TypedWiki.Proofs.Access.Reports
import TypedWiki.Proofs.Selection.BulkEdit
import TypedWiki.Proofs.Selection.Deletion
import TypedWiki.Proofs.Selection.Narrowing
import TypedWiki.Proofs.Identifier.FirstFree
import TypedWiki.Proofs.Mapping.Skipping
import TypedWiki.Proofs.Reference.Acceptance
import TypedWiki.Proofs.Object.Typed
import TypedWiki.Proofs.Selection.GivenObjects
import TypedWiki.Proofs.Field.Label
import TypedWiki.Proofs.Field.Validation
import TypedWiki.Proofs.Schema.FirstDefinitions
