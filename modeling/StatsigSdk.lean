import StatsigSdk.Go
import StatsigSdk.Transport.Retry
import StatsigSdk.Transport.Post
import StatsigSdk.Diagnostics.Marker
import StatsigSdk.Runtime.Prog
import StatsigSdk.Runtime.World
import StatsigSdk.Diagnostics.Timeline
import StatsigSdk.ErrorBoundary.LogException
import StatsigSdk.ErrorBoundary.Capture
import StatsigSdk.Runtime.Footprint
import StatsigSdk.ErrorBoundary.Shared
