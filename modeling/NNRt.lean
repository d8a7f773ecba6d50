import NNRt.Core.Types
import NNRt.Cache.Crc16
import NNRt.Lib.Directory
import NNRt.Lib.Decimal
import NNRt.Cache.Json
import NNRt.Cache.CacheInfo
import NNRt.Cache.Store
import NNRt.Cache.Record
import NNRt.Cache.RoundTrip
import NNRt.Cache.SaveFaults
import NNRt.Cache.HasCache
import NNRt.Cache.Accepted
import NNRt.Cache.History
import NNRt.Lib.WhileLoop
import NNRt.Cache.FillLoop
import NNRt.Cache.Readers
import NNRt.Lib.OnesComplement
import NNRt.Cache.Corruption
import NNRt.Lib.JsonText
import NNRt.Cache.Isolation
import NNRt.Lib.LittleEndian
import NNRt.Core.Enums
import NNRt.Core.TensorDesc
import NNRt.Core.NNTensor
import NNRt.Compiler.Serialize
import NNRt.Lib.ReadLoop
import NNRt.Compiler.Framing
import NNRt.Compiler.NNCompiler
import NNRt.Compiler.SaveRestore
import NNRt.Compiler.NullSafety
import NNRt.Compiler.Rewrite
import NNRt.Compiler.OnlineBuild
import NNRt.Compiler.Looking
import NNRt.Compiler.Upgrade
import NNRt.Compiler.Provenance
import NNRt.Ops.Primitive
import NNRt.Ops.OpsBuilder
import NNRt.Ops.Setters
import NNRt.Ops.Plain
import NNRt.Ops.Scalars
import NNRt.Ops.Lists
import NNRt.Ops.Convolution
import NNRt.Ops.OpsRegistry
import NNRt.Model.LiteGraph
import NNRt.Model.InnerModel
import NNRt.Lib.Run
import NNRt.Lib.Ledger
import NNRt.Lib.Renumber
import NNRt.Ops.Marks
import NNRt.Model.OpParameter
import NNRt.Model.Calls
import NNRt.Model.Lookup
import NNRt.Model.Translate
import NNRt.Model.Atomic
import NNRt.Executor.State
import NNRt.Compiler.BuildState
import NNRt.Executor.Inputs
import NNRt.Executor.Outputs
import NNRt.Executor.Run
import NNRt.Executor.Calls
import NNRt.Executor.Deref
import NNRt.Executor.Ownership
import NNRt.Executor.Effects
import NNRt.Executor.CopyOut
import NNRt.Executor.Delivery
import NNRt.Executor.Unload
import NNRt.Executor.Timer
import NNRt.Executor.Agreement
import NNRt.Executor.Filled
import NNRt.Executor.Answers
import NNRt.Driver.TensorData
import NNRt.Driver.SharedBuffer
import NNRt.Executor.Bounds
import NNRt.Lib.Cells
import NNRt.Executor.Sync
import NNRt.Executor.Reload
import NNRt.Executor.Mappings
import NNRt.Executor.Sharing
import NNRt.Lib.UnorderedMap
import NNRt.Backend.BackendManager
import NNRt.Backend.Compilation
import NNRt.Model.Frozen
import NNRt.Model.QuantType
import NNRt.Driver.Converters
import NNRt.Driver.Convert
import NNRt.Lib.Packing
import NNRt.Driver.HDIModel
import NNRt.Core.Dimensions
import NNRt.Core.ShapeInvariant
import NNRt.Core.Descriptions
import NNRt.Driver.Room
import NNRt.Lib.Writes
import NNRt.Ops.Readings
import NNRt.Ops.LayerNormShape
import NNRt.Ops.BlockLayout
import NNRt.Ops.LSTMParams
import NNRt.Model.TensorSizes
import NNRt.Model.SetterReads
import NNRt.Ops.ParamOrder
import NNRt.Ops.BuilderOrders
import NNRt.Executor.InputRanges
import NNRt.Executor.RangeChecks
import NNRt.Model.Extensions
import NNRt.Driver.TensorMemory
import NNRt.Compiler.ModelID
import NNRt.Compiler.ModelSize
import NNRt.Lib.Dialogue
import NNRt.Service.Client
import NNRt.Service.Served
import NNRt.Service.Core
import NNRt.Service.System
import NNRt.Service.Session
import NNRt.Service.Protocol
import NNRt.Service.Preparation
import NNRt.Service.Running
import NNRt.Service.Runs
import NNRt.Service.Guarantees
import NNRt.Service.Plain
import NNRt.Executor.Transparent
import NNRt.Device.Functions
import NNRt.Device.Session
import NNRt.Device.Accounts
import NNRt.Device.Buffers
import NNRt.Device.Constants
import NNRt.Device.Prepared
import NNRt.Device.Runs
import NNRt.Device.Guarantees
import NNRt.Executor.Answers
