import CppSim.Common.Protocol
import CppSim.Server.Traffic

/-!
# Server constants

The members of `config` that the session, the connection manager, the server and the
runtime configuration use.
-/

namespace CppSim.Server.Config

/-- `HANDSHAKE_TIMEOUT`, in seconds. -/
def handshakeTimeout : Int64 := 10

/-- `MAX_MESSAGE_SIZE`, in bytes. -/
def maxMessageSize : UInt64 := 64 * 1024

/-- `MAX_WRITE_QUEUE_SIZE`. -/
def maxWriteQueueSize : ℕ := 100

/-- `MAX_MESSAGES_PER_WINDOW`. -/
def maxMessagesPerWindow : UInt64 := 10

/-- `RATE_LIMIT_WINDOW`, in seconds. -/
def rateLimitWindow : Int64 := 1

/-- `MAX_CONNECTIONS`. -/
def maxConnections : ℕ := 1000

/-- `MAX_SESSION_ID_LENGTH`, which refers to the constant of the protocol. -/
def maxSessionIdLength : ℕ := Protocol.maxSessionIdLength

/-- `MAX_BACKOFF`, in seconds. -/
def maxBackoff : ℕ := 30

/-- `WS_IDLE_TIMEOUT`, 24 hours in seconds. -/
def wsIdleTimeout : Int64 := 24 * 3600

/-- `MAX_SEQUENCE_GAP`. -/
def maxSequenceGap : Int64 := 10000

/-- `PLACEHOLDER_SEAT`. -/
def placeholderSeat : Int32 := -1

/-- `PLACEHOLDER_STACK`. -/
def placeholderStack : Int64 := 0

end CppSim.Server.Config
