import Tram.Accounting
import Tram.Agreement
import Tram.Appending
import Tram.CameraStats
import Tram.Deviation
import Tram.Drain
import Tram.DropCount
import Tram.Foreign
import Tram.FrameAccount
import Tram.Freshness
import Tram.Geometry
import Tram.Lateness
import Tram.Playback
import Tram.RecorderErrors
import Tram.Rejection
import Tram.Releases
import Tram.Reported
import Tram.Sentinel
import Tram.Shutdown
import Tram.SoundCard
import Tram.StoredTimes
import Tram.Survival
import Tram.Sync
import Tram.Teardown
import Tram.VideoStart
