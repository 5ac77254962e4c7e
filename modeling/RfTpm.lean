import RfTpm.Exec.PowerCycle
import RfTpm.Sbi.Bridge
import RfTpm.Da.Lockout
import RfTpm.Platform.DiskIo
import RfTpm.Platform.NvMem
import RfTpm.Auth.Latch
import RfTpm.Crypt.SymSpec
import RfTpm.Sequence.Tickets
import RfTpm.Marshal.Bounds
import RfTpm.Crypt.CommitSpec
import RfTpm.Auth.Timeout
import RfTpm.X509.Extensions
import RfTpm.X509.Der
import RfTpm.Crypt.Hmac
import RfTpm.Crypt.Derive
import RfTpm.Crypt.RsaSign
import RfTpm.Crypt.RsaOaep
import RfTpm.Crypt.Convert
import RfTpm.Capability.HandlesSpec
import RfTpm.Session.Failures
import RfTpm.Platform.Timer
import RfTpm.Exec.FailureResponse
import RfTpm.Auth.SessionArea
import RfTpm.Pcr.Read
import RfTpm.Nv.DefineSpace
import RfTpm.Crypt.InRange
