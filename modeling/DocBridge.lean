import DocBridge.Http.FrontEnd
import DocBridge.Main
import DocBridge.Transport.Memory
import DocBridge.Transport.Faultless
import DocBridge.Grpc.Backend
import DocBridge.Rest.Backend
import DocBridge.Proofs.RequestEffects
import DocBridge.Proofs.LineLocality
import DocBridge.Proofs.NumberTexts
import DocBridge.Proofs.SingleHop
import DocBridge.Proofs.CompactTexts
import DocBridge.Proofs.ResponseStream
import DocBridge.Proofs.FailedWrites
import DocBridge.Proofs.SharedStore
import DocBridge.Proofs.Utf8Texts
import DocBridge.Proofs.JsonTexts
import DocBridge.Proofs.JsonRecords
import DocBridge.Proofs.MessageFields
import DocBridge.Proofs.StoreIdentity
import DocBridge.Proofs.GrpcExchanges
import DocBridge.Proofs.CollectionDeletion
import DocBridge.Proofs.QueryTexts
import DocBridge.Proofs.EncodedUrls
import DocBridge.Proofs.ResourceUrls
import DocBridge.Proofs.RestExchanges
import DocBridge.Proofs.LoopbackSites
import DocBridge.Proofs.WireAgreement
import DocBridge.Proofs.DeletionReports
import DocBridge.Proofs.StoreEdits
import DocBridge.Proofs.RequestEdits
import DocBridge.Proofs.CollectionIsolation
import DocBridge.Proofs.RequestAnswers
import DocBridge.Proofs.LastWrites
import DocBridge.Proofs.Rounding
import DocBridge.Proofs.ShortestDecimals
import DocBridge.Proofs.NumberParts
import DocBridge.Proofs.DecimalScaling
import DocBridge.Proofs.DoubleTexts
import DocBridge.Proofs.PrettyTexts
import DocBridge.Proofs.Rereading
import DocBridge.Proofs.ResultTexts
import DocBridge.Proofs.ResponseRecords
import DocBridge.Proofs.RequestLines
import DocBridge.Proofs.ToolArguments
import DocBridge.Proofs.ObjectTexts
import DocBridge.Proofs.InputFailures
import DocBridge.Proofs.FrontEndAgreement
import DocBridge.Proofs.ToolCatalog
import DocBridge.Proofs.FilledCalls
import DocBridge.Proofs.ExportForwarding
import DocBridge.Proofs.ClosingOnce
import DocBridge.Grpc.Sharing
import DocBridge.Proofs.EchoedIds
import DocBridge.Proofs.SilentChannels
import DocBridge.Proofs.ConfigLayers
import DocBridge.Proofs.EndpointUrls
import DocBridge.Proofs.ListenAddresses
import DocBridge.Proofs.BatchDocuments
import DocBridge.Proofs.HeededArguments
import DocBridge.Proofs.NormalMetadata
import DocBridge.Proofs.ClampedNumbers
