import RootTaskDemo.Net.Handshake
import RootTaskDemo.Net.Binding
import RootTaskDemo.Net.Connecting
import RootTaskDemo.Net.Readiness
import RootTaskDemo.Net.PortDraws
import RootTaskDemo.Kernel.Heap
import RootTaskDemo.Kernel.Stack
import RootTaskDemo.Kernel.Loading
import RootTaskDemo.Kernel.ElfLoader
import RootTaskDemo.Kernel.ListCopies
import RootTaskDemo.Kernel.Granting
import RootTaskDemo.Ipc.Payload
import RootTaskDemo.Common.Wire
import RootTaskDemo.Root.Dma
import RootTaskDemo.Root.Device
import RootTaskDemo.Root.Boot
import RootTaskDemo.Kernel.ChildVSpace
import RootTaskDemo.Shim.Transport
