import SipMedia.Net
import SipMedia.ReadLoop
import SipMedia.Watchdog
import SipMedia.Pipeline
import SipMedia.Port
import SipMedia.Lifecycle
import SipMedia.Routing
import SipMedia.CloseOnce
import SipMedia.Server
import SipMedia.ReceivePath
import SipMedia.Concurrent
