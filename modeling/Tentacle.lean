import Tentacle.Basic
import Tentacle.Config
import Tentacle.Service.Basic
import Tentacle.Service.Session
import Tentacle.Service.Handle
import Tentacle.Service.Poll
import Tentacle.World
import Tentacle.Properties.Frame
import Tentacle.Properties.Step
import Tentacle.Properties.Pairing
import Tentacle.Properties.Sessions
import Tentacle.Properties.Shutdown
import Tentacle.Properties.CrossDial
import Tentacle.Properties.Allocation
import Tentacle.Properties.Message
import Tentacle.Properties.PeerId
import Tentacle.Properties.Listens
import Tentacle.Properties.Tables
import Tentacle.Properties.Futures
import Tentacle.Properties.Buffers
import Tentacle.Properties.Spawns
import Tentacle.Properties.Runtime
import Tentacle.Properties.Completion
import Tentacle.Properties.Reports
