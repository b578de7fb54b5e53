import Termpane.Snapshot
import Termpane.ByteParser
import Termpane.Core
import Termpane.Screens
import Termpane.Policy
import Termpane.Retention
import Termpane.Replay
import Termpane.Keyboard
import Termpane.Inert
import Termpane.Text
import Termpane.Reset
import Termpane.SgrDiff
import Termpane.Shifts
import Termpane.Printing
import Termpane.SavedCursor
import Termpane.Provenance
import Termpane.Osc
import Termpane.Reconstruct
import Termpane.QueueDepth
import Termpane.Bounds
import Termpane.Revisions
import Termpane.Sync
import Termpane.Child
import Termpane.Sharing
import Termpane.Views
import Termpane.Resize
import Termpane.Spellings
import Termpane.Hyperlinks
import Termpane.Tracker
import Termpane.Sizes
import Termpane.Mirror
import Termpane.Viewers
import Termpane.Rendezvous
import Termpane.Teardown
import Termpane.Spawn
import Termpane.Piped
