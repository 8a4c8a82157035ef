import LSTAndroid.RangeQueries
import LSTAndroid.TableCreation
import LSTAndroid.StopTracking
import LSTAndroid.Library.FirstOccurrences
import LSTAndroid.Mediator
import LSTAndroid.Registration
import LSTAndroid.Engine
import LSTAndroid.Cabs
import LSTAndroid.StartOrder
import LSTAndroid.Familiarity
import LSTAndroid.IndexWindow
import LSTAndroid.LocationApi
import LSTAndroid.Library.MinimumScan
import LSTAndroid.Library.RetryLoop
import LSTAndroid.LocalStores
import LSTAndroid.NearestNeighbor
import LSTAndroid.SearchGrowth
import LSTAndroid.NearestExact
import LSTAndroid.Backends
import LSTAndroid.Sequences
import LSTAndroid.Streams
import LSTAndroid.GridSweep
import LSTAndroid.Library.SignificantBits
import LSTAndroid.RecordedOrder
import LSTAndroid.Library.OpenLoop
import LSTAndroid.MobilitySweep
import LSTAndroid.AbstractLocation
import LSTAndroid.Activity
import LSTAndroid.Proximity
import LSTAndroid.Library.ClampedQuotient
import LSTAndroid.Safety
import LSTAndroid.FamiliarityScore
import LSTAndroid.DBPrepare
import LSTAndroid.ContentHelper
import LSTAndroid.GridFactorSweep
import LSTAndroid.PacoReceiver
import LSTAndroid.ConnectionPool
import LSTAndroid.Library.ResourceLedger
import LSTAndroid.PoolSystem
import LSTAndroid.PoolGrants
import LSTAndroid.Library.StampedObjects
import LSTAndroid.PoolExclusion
import LSTAndroid.PoolClosing
import LSTAndroid.PoolFairness
import LSTAndroid.Library.NestedTransactions
import LSTAndroid.SQLiteSession
import LSTAndroid.SessionRuns
import LSTAndroid.SessionSafety
import LSTAndroid.CancellationSignals
import LSTAndroid.OpenHelper
import LSTAndroid.OpenHelperRuns
import LSTAndroid.OpenHelperMigrations
import LSTAndroid.CursorRuns
import LSTAndroid.PlainCursor
