import OAuthGrant.App
import OAuthGrant.Log.AnyMessage
import OAuthGrant.Text.Base64Url
import OAuthGrant.Proofs.SingleUse
import OAuthGrant.Proofs.PruningInvisible
import OAuthGrant.Proofs.EndpointStatus
import OAuthGrant.Proofs.EndpointCourse
import OAuthGrant.Proofs.FailedRedemption
import OAuthGrant.Proofs.NamedCodes
import OAuthGrant.Proofs.PairedActions
import OAuthGrant.Proofs.ParameterRules
import OAuthGrant.Proofs.PairedRequests
import OAuthGrant.Proofs.Verdicts
import OAuthGrant.Proofs.HandledRequests
import OAuthGrant.Proofs.PairedReplies
import OAuthGrant.Proofs.LinkedStages
import OAuthGrant.Proofs.ClientIsolation
import OAuthGrant.Proofs.PlainForms
import OAuthGrant.Proofs.TwinServices
import OAuthGrant.Proofs.TwinRequests
import OAuthGrant.Proofs.JournalSecrecy
import OAuthGrant.Proofs.NamedEntries
import OAuthGrant.Proofs.WrittenRequests
import OAuthGrant.Proofs.WordsOfText
import OAuthGrant.Proofs.IssuedTokens
import OAuthGrant.Proofs.RedeemedCodes
import OAuthGrant.Proofs.IgnoredStores
import OAuthGrant.Proofs.EntitledScopes
import OAuthGrant.Proofs.AppRuns
import OAuthGrant.Proofs.UntrustedHeaders
import OAuthGrant.Proofs.NearestBinary
import OAuthGrant.Proofs.TokenLifetimes
import OAuthGrant.Proofs.EmittedScopes
import OAuthGrant.Proofs.StoredEntries
import OAuthGrant.Proofs.ParameterContainers
import OAuthGrant.Proofs.GrantDispatch
import OAuthGrant.Proofs.JsonReading
import OAuthGrant.Proofs.ToldErrors
import OAuthGrant.Proofs.SanitizedFields
import OAuthGrant.Proofs.MessageSecrecy
import OAuthGrant.Proofs.LinesOfText
import OAuthGrant.Proofs.RecordLines
