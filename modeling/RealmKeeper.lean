import RealmKeeper.Text.Separated
import RealmKeeper.Text.Utf8
import RealmKeeper.Number.Shortest
import RealmKeeper.Text.Quoted
import RealmKeeper.Json.Basic
import RealmKeeper.Json.Document
import RealmKeeper.Json.Text
import RealmKeeper.Json.Decode
import RealmKeeper.Client.Information
import RealmKeeper.Url.Form
import RealmKeeper.Url.Punycode
import RealmKeeper.Url.Parse
import RealmKeeper.Duration
import RealmKeeper.Admission.Resource
import RealmKeeper.Admission.Review
import RealmKeeper.Report
import RealmKeeper.Dialog
import RealmKeeper.Context
import RealmKeeper.Instant
import RealmKeeper.Registration.Operations
import RealmKeeper.Registration.Renewal
import RealmKeeper.Admin.Client
import RealmKeeper.Settings.Basic
import RealmKeeper.Command.Run
import RealmKeeper.Admin.Operations
import RealmKeeper.Provider.World
import RealmKeeper.Provider.Layers
import RealmKeeper.Webhook.Router
import RealmKeeper.Server.Startup
import RealmKeeper.Main
import RealmKeeper.Proofs.Results
import RealmKeeper.Proofs.History
import RealmKeeper.Proofs.Awaiting
import RealmKeeper.Proofs.SingleRetry
import RealmKeeper.Proofs.Contacts
import RealmKeeper.Proofs.AdminToken
import RealmKeeper.Proofs.AdminRequests
import RealmKeeper.Proofs.RealmCreation
import RealmKeeper.Proofs.TokenRotation
import RealmKeeper.Proofs.RegistrationRequests
import RealmKeeper.Proofs.Escaping
import RealmKeeper.Proofs.Segments
import RealmKeeper.Proofs.RealmLookup
import RealmKeeper.Proofs.Members
import RealmKeeper.Proofs.WrittenValues
import RealmKeeper.Proofs.OpenRecords
import RealmKeeper.Proofs.ProviderEcho
import RealmKeeper.Proofs.RegistrationRecords
import RealmKeeper.Proofs.RoundTrip
import RealmKeeper.Proofs.WrittenRecords
import RealmKeeper.Proofs.WrittenWords
import RealmKeeper.Proofs.WrittenDocuments
import RealmKeeper.Proofs.PostedDocument
import RealmKeeper.Proofs.UpdateDocument
import RealmKeeper.Proofs.TokenLifetime
import RealmKeeper.Proofs.TokenExpiry
import RealmKeeper.Proofs.TokenCache
import RealmKeeper.Proofs.OptionalParts
import RealmKeeper.Proofs.ReviewAnswers
import RealmKeeper.Proofs.Stopping
import RealmKeeper.Proofs.Cancellation
import RealmKeeper.Proofs.HandedBack
import RealmKeeper.Proofs.RegistrationOutcomes
import RealmKeeper.Proofs.Classification
import RealmKeeper.Proofs.ExitCodes
import RealmKeeper.Proofs.MaskedTables
import RealmKeeper.Proofs.FirstChecks
import RealmKeeper.Proofs.LocalFailures
import RealmKeeper.Proofs.BodyReadings
import RealmKeeper.Proofs.InterruptedBodies
import RealmKeeper.Proofs.Interleaving
import RealmKeeper.Proofs.SearchPositions
import RealmKeeper.Proofs.SharedToken
import RealmKeeper.Proofs.FailedSearch
import RealmKeeper.Proofs.SingleFlight
import RealmKeeper.Proofs.OneAfterAnother
import RealmKeeper.Proofs.ContextHistory
import RealmKeeper.Proofs.LossyReading
import RealmKeeper.Proofs.Excerpts
import RealmKeeper.Proofs.KeptTexts
import RealmKeeper.Proofs.IndependentDecisions
import RealmKeeper.Proofs.TwinRuns
import RealmKeeper.Proofs.Secrecy
import RealmKeeper.Proofs.RetryCourses
import RealmKeeper.Proofs.RetriesAtOnce
import RealmKeeper.Proofs.ClosedRecords
import RealmKeeper.Proofs.RealmConfigs
import RealmKeeper.Proofs.FormPairs
import RealmKeeper.Proofs.OperationErrors
import RealmKeeper.Proofs.ClientLookup
import RealmKeeper.Proofs.DenyList
import RealmKeeper.Proofs.WrittenPaths
import RealmKeeper.Proofs.AdminPaths
import RealmKeeper.Proofs.BlankVariables
import RealmKeeper.Proofs.ReviewsReadBack
import RealmKeeper.Proofs.WireNames
import RealmKeeper.Proofs.SeparatedLists
