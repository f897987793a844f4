import HybridDataSvc.Relational.Table
import HybridDataSvc.Transition.Runs
import HybridDataSvc.Transaction.ReadCommitted
import HybridDataSvc.Cache.Schema
import HybridDataSvc.Cache.BarCache
import HybridDataSvc.Cache.InsertBars
import HybridDataSvc.Cache.GetBars
import HybridDataSvc.Cache.Runs
import HybridDataSvc.Cache.StoredBars
import HybridDataSvc.Backfill.FetchHistory
import HybridDataSvc.Backfill.Lossless
import HybridDataSvc.Backfill.WriteBars
import HybridDataSvc.Cache.Finality
import HybridDataSvc.Cache.TwoWriters
import HybridDataSvc.Cache.Metadata
import HybridDataSvc.Order.Accumulation
import HybridDataSvc.Cache.GapFree
import HybridDataSvc.Cache.ManySeries
import HybridDataSvc.Cache.LeakGuards
import HybridDataSvc.Fetcher.DataFetcher
import HybridDataSvc.Fetcher.ChartRuns
import HybridDataSvc.Fetcher.Writers
import HybridDataSvc.Serving.BarService
import HybridDataSvc.Serving.ProviderPrecedence
import HybridDataSvc.Serving.Healthcheck
import HybridDataSvc.Relational.Statements
import HybridDataSvc.Catalog.Schema
import HybridDataSvc.Catalog.Feeds
import HybridDataSvc.Catalog.Assets
import HybridDataSvc.Catalog.Onboarding
import HybridDataSvc.Transaction.Deadlock
import HybridDataSvc.Catalog.Transactions
import HybridDataSvc.Catalog.SerialOrder
import HybridDataSvc.Catalog.ConcurrentCreates
import HybridDataSvc.Text.Python
import HybridDataSvc.Text.Stringify
import HybridDataSvc.Text.Truncation
import HybridDataSvc.Text.Dialects
import HybridDataSvc.Service.Loop
import HybridDataSvc.Service.Crashes
import HybridDataSvc.Service.FeedLifeCycle
import HybridDataSvc.Series.LastWins
import HybridDataSvc.Series.Newest
import HybridDataSvc.Serving.NewestBars
import HybridDataSvc.Series.Derived
import HybridDataSvc.Aggregate.Calendar
import HybridDataSvc.Aggregate.Bars
import HybridDataSvc.Aggregate.Intraday
import HybridDataSvc.Watchdog.Lock
import HybridDataSvc.Watchdog.MutualExclusion
import HybridDataSvc.Text.Json
import HybridDataSvc.Text.Numbers
import HybridDataSvc.Text.JsonDump
import HybridDataSvc.Rendezvous.Scan
import HybridDataSvc.Discovery.CdpDiscover
import HybridDataSvc.Discovery.Convergence
import HybridDataSvc.Discovery.Sticky
import HybridDataSvc.Discovery.CorruptCache
import HybridDataSvc.Discovery.TvEndpoint
import HybridDataSvc.Watchdog.Health
import HybridDataSvc.Series.Partition
import HybridDataSvc.Series.Anchored
import HybridDataSvc.Aggregate.Ohlcv
import HybridDataSvc.Aggregate.Daily
import HybridDataSvc.Relational.Keyset
import HybridDataSvc.Relational.Grouping
import HybridDataSvc.Catalog.Sync
import HybridDataSvc.Catalog.Listing
import HybridDataSvc.Catalog.Pagination
import HybridDataSvc.Catalog.StatusFold
import HybridDataSvc.Catalog.AssetsFile
import HybridDataSvc.Rest.CatalogRoutes
import HybridDataSvc.Rest.CreateRoute
import HybridDataSvc.Rest.Servable
import HybridDataSvc.Series.Grid
import HybridDataSvc.Audit.Integrity
import HybridDataSvc.Audit.Coverage
import HybridDataSvc.Audit.InsertGrid
import HybridDataSvc.Audit.PolledStore
import HybridDataSvc.Audit.BrokenSeries
import HybridDataSvc.Relational.Session
import HybridDataSvc.Relational.Conflict
import HybridDataSvc.Seed.Migrations
import HybridDataSvc.Seed.SeedFromSqlite
import HybridDataSvc.Seed.SafeUnion
import HybridDataSvc.Seed.RefreshMeta
import HybridDataSvc.Discovery.TabPin
import HybridDataSvc.Discovery.NodeProbe
import HybridDataSvc.Discovery.SharedCache
import HybridDataSvc.Discovery.Handover
import HybridDataSvc.Discovery.ChartPort
import HybridDataSvc.Cache.SteadySource
import HybridDataSvc.Cache.Repair
import HybridDataSvc.Fetcher.FastPath
import HybridDataSvc.Series.Nested
import HybridDataSvc.Aggregate.Composition
import HybridDataSvc.Aggregate.Periods
import HybridDataSvc.Aggregate.DailyOhlcv
import HybridDataSvc.Service.Schedule
import HybridDataSvc.Service.FeedsEnv
import HybridDataSvc.Rest.Auth
import HybridDataSvc.Rest.BarRoutes
import HybridDataSvc.Rest.Answers
import HybridDataSvc.Rest.QuoteAge
import HybridDataSvc.Rest.GapFreeChart
import HybridDataSvc.Catalog.LiteralSearch
import HybridDataSvc.Fallible.Results
import HybridDataSvc.Catalog.FileChecks
import HybridDataSvc.Interaction.Program
import HybridDataSvc.Watchdog.Script
import HybridDataSvc.Watchdog.ActsRight
import HybridDataSvc.Fetcher.TvCli
import HybridDataSvc.Fetcher.CliErrors
import HybridDataSvc.Process.PipedOutput
import HybridDataSvc.Text.Captured
import HybridDataSvc.Cli.Router
import HybridDataSvc.Fetcher.PartialOutput
import HybridDataSvc.Cli.Delivery
import HybridDataSvc.Cli.Connection
import HybridDataSvc.Cli.SafeString
import HybridDataSvc.Cli.PinnedTab
import HybridDataSvc.Seed.BootGuard
import HybridDataSvc.Postgres.Pool
import HybridDataSvc.Text.Rounding
