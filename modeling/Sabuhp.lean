import Sabuhp.Strings
import Sabuhp.SSE.Basic
import Sabuhp.SSE.Run
import Sabuhp.SSE.Frames
import Sabuhp.SSE.Client
import Sabuhp.SSE.Lifecycle
import Sabuhp.SSE.Reconnect
import Sabuhp.SSE.Resume
import Sabuhp.SSE.Stream
