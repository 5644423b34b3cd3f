import Barevisor.Basic
import Barevisor.Epts
import Barevisor.EptWalk
import Barevisor.PagingStructures
import Barevisor.ApicId
import Barevisor.Vmcs
import Barevisor.Capabilities
import Barevisor.Guest
import Barevisor.GuestInvariants
import Barevisor.Enable
import Barevisor.EntryState
import Barevisor.VmxOperation
import Barevisor.SipiProtocol
