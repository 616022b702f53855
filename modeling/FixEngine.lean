import FixEngine.RoundTrip
import FixEngine.Receivable
import FixEngine.Neighbours
import FixEngine.Builder
import FixEngine.FieldList
import FixEngine.FileStoreLog
import FixEngine.FileStoreMutations
import FixEngine.Migration
import FixEngine.SessionCrash
import FixEngine.Replay
import FixEngine.LogonRace
import FixEngine.Delivery
import FixEngine.ErrorSink
import FixEngine.Judgement
import FixEngine.GapThrottle
import FixEngine.FileNames
import FixEngine.ParseLoop
import FixEngine.Disconnect
import FixEngine.AuditTrail
import FixEngine.Conversation
import FixEngine.PeerLoss
import FixEngine.Rejections
import FixEngine.IoProgram
import FixEngine.EngineErrors
import FixEngine.FileStoreContents
