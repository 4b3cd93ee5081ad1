import ApiDoc.Main
import ApiDoc.Proofs.ArrayItems
import ApiDoc.Proofs.Bounds
import ApiDoc.Proofs.CommandEffects
import ApiDoc.Proofs.CommentText
import ApiDoc.Proofs.DocumentJson
import ApiDoc.Proofs.EmbeddingLoop
import ApiDoc.Proofs.EmbeddingVisits
import ApiDoc.Proofs.ErrorCause
import ApiDoc.Proofs.Expansion
import ApiDoc.Proofs.NestedTypes
import ApiDoc.Proofs.PathKeys
import ApiDoc.Proofs.PathRewriting
import ApiDoc.Proofs.QueryProperties
import ApiDoc.Proofs.References
import ApiDoc.Proofs.Required
import ApiDoc.Proofs.RouteAccount
import ApiDoc.Proofs.RouteInsertion
import ApiDoc.Proofs.SpecJson
import ApiDoc.Proofs.TagOrder
import ApiDoc.Proofs.TagText
import ApiDoc.Proofs.Transport
import ApiDoc.Proofs.TypeText
