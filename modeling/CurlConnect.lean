import CurlConnect.Basic
import CurlConnect.Fields
import CurlConnect.Curl.Impl
import CurlConnect.Curl.Headers
import CurlConnect.Curl.Options
import CurlConnect.Curl.Timeout
import CurlConnect.Url
import CurlConnect.Http
import CurlConnect.Shared.FrontEnd
import CurlConnect.Shared.Registry
import CurlConnect.Shared.Tls
import CurlConnect.Shared.Invariant
import CurlConnect.Shared.Preservation
import CurlConnect.Shared.Locks
import CurlConnect.Shared.Safety
import CurlConnect.Shared.Connections
