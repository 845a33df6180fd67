import HopExchange.Basic
import HopExchange.Replication.Authorize
import HopExchange.Replication.Dispatch
import HopExchange.Replication.Rounds
import HopExchange.Replication.Index
import HopExchange.Payments.Channel
import HopExchange.Payments.Push
import HopExchange.Payments.Merge
import HopExchange.Payments.Lock
import HopExchange.Node.Load
import HopExchange.Node.Results
import HopExchange.Node.Handlers
import HopExchange.Node.Select
import HopExchange.Node.Put
import HopExchange.Node.Workdag
