import BlocklessAvs.Types
import BlocklessAvs.Aggregator
import BlocklessAvs.EventLoop
import BlocklessAvs.Node
import BlocklessAvs.Lemmas.Runs
import BlocklessAvs.Theorems.Calls
import BlocklessAvs.Theorems.Loop
import BlocklessAvs.Theorems.Shutdown
import BlocklessAvs.Theorems.Server
