import IpaHelper.Framework.Identity
import IpaHelper.Framework.Registry
import IpaHelper.Processor.Operations
import IpaHelper.Processor.Interleaving
import IpaHelper.Properties.LockedSections
import IpaHelper.Properties.Lifecycle
import IpaHelper.Properties.SetupRace
import IpaHelper.Properties.Installed
import IpaHelper.Properties.Failures
import IpaHelper.Protocol.Handshake
import IpaHelper.Protocol.Routing
import IpaHelper.Protocol.Registered
