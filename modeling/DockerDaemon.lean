import DockerDaemon.Go.Stdlib
import DockerDaemon.Go.Path
import DockerDaemon.Iptables.Chain
import DockerDaemon.Bridge.Allocators
import DockerDaemon.Bridge.Interfaces
import DockerDaemon.Bridge.AddressOrder
import DockerDaemon.Bridge.Link
import DockerDaemon.Bridge.SetupIPTables
import DockerDaemon.Bridge.CreateBridge
import DockerDaemon.Bridge.InitDriver
import DockerDaemon.Signal.Trap
import DockerDaemon.Execdriver.Native
import DockerDaemon.Daemon.Store
import DockerDaemon.Daemon.Create
import DockerDaemon.Daemon.Links
import DockerDaemon.Daemon.Restore
import DockerDaemon.Daemon.Mount
import DockerDaemon.Daemon.ImageCache
import DockerDaemon.Daemon.Lifecycle
import DockerDaemon.Daemon.Boot
import DockerDaemon.Daemon.Shutdown
import DockerDaemon.Serve.ListenBuffer
