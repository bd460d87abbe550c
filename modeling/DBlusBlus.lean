import DBlusBlus.Library.Accounting
import DBlusBlus.BufferPool.OneLoad
import DBlusBlus.BufferPool.Leftover
import DBlusBlus.BufferPool.Wakeup
import DBlusBlus.BufferPool.Shutdown
import DBlusBlus.BufferPool.Clock
import DBlusBlus.BufferPool.FailedRequest
import DBlusBlus.BufferPool.Rest
import DBlusBlus.BufferPool.Exclusion
import DBlusBlus.File.Superblock
import DBlusBlus.Tuple.Grammar
import DBlusBlus.Heap.Versions
import DBlusBlus.Fsm.Store
import DBlusBlus.Heap.Files
import DBlusBlus.Fsm.Lookup
import DBlusBlus.Tuple.Geometry
import DBlusBlus.Page.Detection
import DBlusBlus.Disk.Concurrent
import DBlusBlus.File.Ownership
import DBlusBlus.Record.Exact
