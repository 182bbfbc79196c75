import OpendalMbt.Transition.Run
import OpendalMbt.Transition.OnceMap
import OpendalMbt.Bridge.Handle
import OpendalMbt.Bridge.Arena
import OpendalMbt.Bridge.HandleSafety
import OpendalMbt.Transition.Custody
import OpendalMbt.Native.TaskLifecycle
import OpendalMbt.Native.Stability
import OpendalMbt.Native.AbortOwnership
import OpendalMbt.Native.DeliveryConverse
import OpendalMbt.Transition.Session
import OpendalMbt.Native.SyncReplies
import OpendalMbt.Native.SyncSession
import OpendalMbt.Native.SyncReplies
import OpendalMbt.Native.Writer
import OpendalMbt.Native.Copier
import OpendalMbt.Native.FailedAbsorbing
import OpendalMbt.Bridge.Lease
import OpendalMbt.Bridge.LeaseFrame
import OpendalMbt.Bridge.LeaseSystem
import OpendalMbt.Bridge.LeaseInvariant
import OpendalMbt.Bridge.LeaseProtocol
import OpendalMbt.Bridge.ErrorSnapshot
import OpendalMbt.Bridge.MetadataSnapshot
import OpendalMbt.Browser.SnapshotDecoder
import OpendalMbt.Browser.ErrorRoundTrip
import OpendalMbt.Browser.MetadataRoundTrip
import OpendalMbt.Browser.SnapshotFormats
import OpendalMbt.Native.MetadataView
import OpendalMbt.Bridge.Owned
import OpendalMbt.Bridge.Transfer
import OpendalMbt.Codec.Utf16
import OpendalMbt.Bridge.Replacement
import OpendalMbt.Bridge.TransferSafety
import OpendalMbt.Bridge.TransferSystem
import OpendalMbt.Bridge.Queries
import OpendalMbt.Browser.Facade
import OpendalMbt.Browser.BufferTransfer
import OpendalMbt.Browser.TextFidelity
import OpendalMbt.Codec.Chunking
import OpendalMbt.Native.ReadStream
import OpendalMbt.Browser.ReadStream
import OpendalMbt.Native.AsyncReadStream
import OpendalMbt.StreamAgreement
import OpendalMbt.Browser.Child
import OpendalMbt.Browser.EndOfStream
import OpendalMbt.Browser.ChildRuns
import OpendalMbt.Browser.CloseFinality
import OpendalMbt.MoonBit.Error
import OpendalMbt.MoonBit.Streaming
import OpendalMbt.MoonBit.CloseFinality
import OpendalMbt.Browser.ErasedCalls
import OpendalMbt.MoonBit.RefusedCalls
import OpendalMbt.Transition.Ledger
import OpendalMbt.Browser.HandleContract
import OpendalMbt.Browser.SettleTask
import OpendalMbt.Browser.Operations
import OpendalMbt.Browser.Operator
import OpendalMbt.Browser.OperatorClose
import OpendalMbt.Browser.RangeArgument
import OpendalMbt.Native.WholeRead
import OpendalMbt.Codec.Layout
import OpendalMbt.Native.ApiTable
import OpendalMbt.Bridge.Exports
import OpendalMbt.Bridge.Teardown
import OpendalMbt.Browser.Settlement
import OpendalMbt.Browser.SettlementRounds
import OpendalMbt.Stub.ValidUtf8
import OpendalMbt.Native.BytesView
import OpendalMbt.Native.Options
import OpendalMbt.Stub.Options
import OpendalMbt.Stub.OptionRoundTrip
import OpendalMbt.NativePackage.Error
import OpendalMbt.Stub.Metadata
import OpendalMbt.NativePackage.Metadata
import OpendalMbt.Native.Presign
import OpendalMbt.Stub.Presign
import OpendalMbt.Stub.PresignOwnership
import OpendalMbt.NativePackage.Presign
import OpendalMbt.NativePackage.PresignRoundTrip
import OpendalMbt.Native.S3
import OpendalMbt.Stub.S3
import OpendalMbt.NativePackage.S3
import OpendalMbt.NativePackage.S3RoundTrip
import OpendalMbt.Native.Outputs
import OpendalMbt.Native.OperatorEntries
import OpendalMbt.Native.ResourceEntries
import OpendalMbt.Native.AsyncEntries
import OpendalMbt.Native.ViewEntries
import OpendalMbt.Native.OutputAtomicity
import OpendalMbt.Native.SuffixReads
import OpendalMbt.NativePackage.Batch
import OpendalMbt.Native.Reader
import OpendalMbt.Native.ReaderProtocol
import OpendalMbt.Native.ReaderClose
import OpendalMbt.MoonBit.WriterRelease
import OpendalMbt.Bridge.SlotFrame
import OpendalMbt.Bridge.ErrorSlot
import OpendalMbt.Stub.LoadApi
import OpendalMbt.Stub.Result
import OpendalMbt.Stub.ResultOwnership
import OpendalMbt.Native.BufferCopy
import OpendalMbt.Stub.TakeBytes
import OpendalMbt.NativePackage.AsyncWrite
import OpendalMbt.Bridge.WriterWorld
import OpendalMbt.Browser.TextArgument
import OpendalMbt.ConfigAgreement
import OpendalMbt.Bridge.Listing
import OpendalMbt.Browser.WindowedTransfer
import OpendalMbt.Native.LayerStack
import OpendalMbt.Native.Lister
import OpendalMbt.Native.BatchDelete
import OpendalMbt.Stub.BatchDelete
import OpendalMbt.Bridge.WriterProtocol
import OpendalMbt.Browser.NewOperator
import OpendalMbt.Browser.BridgeCalls
import OpendalMbt.Browser.CompletionHandles
import OpendalMbt.Bridge.HandleHistory
import OpendalMbt.Browser.CallHistory
import OpendalMbt.Browser.CompletionDelivery
import OpendalMbt.Browser.Futures
import OpendalMbt.Browser.PromiseChanges
import OpendalMbt.Browser.PromiseEvents
import OpendalMbt.Browser.PromiseRuns
import OpendalMbt.NativePackage.AwaitProgress
import OpendalMbt.NativePackage.Blocking
import OpendalMbt.NativePackage.BlockingClient
import OpendalMbt.ErrorAgreement
import OpendalMbt.MetadataAgreement
