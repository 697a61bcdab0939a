import TensorPipe.Common.Defs
import TensorPipe.Common.StateMachine
import TensorPipe.Common.Nop
import TensorPipe.Common.Cuda
import TensorPipe.Channel.CudaIpc.Messages
import TensorPipe.Channel.CudaIpc.ChannelImpl
import TensorPipe.Channel.CudaIpc.Transitions
import TensorPipe.Channel.CudaIpc.Quiet
import TensorPipe.Channel.CudaIpc.Tasks
import TensorPipe.Channel.CudaIpc.Directions
import TensorPipe.Channel.CudaIpc.Invariant
import TensorPipe.Channel.CudaIpc.Callbacks
import TensorPipe.Channel.CudaIpc.Effects
import TensorPipe.Channel.CudaIpc.ControlStreams
import TensorPipe.Channel.CudaIpc.Frame
import TensorPipe.Channel.CudaIpc.Pair
import TensorPipe.Channel.CudaIpc.Exchange
import TensorPipe.Channel.CudaIpc.Trace
import TensorPipe.Channel.CudaIpc.DeviceOrder
import TensorPipe.Channel.CudaIpc.Handles
import TensorPipe.Channel.CudaIpc.Drain
import TensorPipe.Channel.CudaIpc.AfterError
import TensorPipe.Channel.CudaIpc.Progress
import TensorPipe.Channel.CudaIpc.Interprocess
import TensorPipe.Channel.CudaIpc.Copies
import TensorPipe.Channel.CudaIpc.Lifetimes
import TensorPipe.Transport.ListenerImplBoilerplate
