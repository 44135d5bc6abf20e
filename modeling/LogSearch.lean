import LogSearch.Command.Directory
import LogSearch.Main
import LogSearch.Proofs.Index.Latest
import LogSearch.Proofs.Index.Resolution
import LogSearch.Proofs.Query.RoundTrip
import LogSearch.Proofs.Search.Histogram
import LogSearch.Proofs.Search.Narrowing
import LogSearch.Proofs.Store.Alias
import LogSearch.Store.Search
import LogSearch.Proofs.Store.Command
import LogSearch.Proofs.Store.Naming
import LogSearch.Proofs.Search.Unreadable
import LogSearch.Proofs.Number.Exact
import LogSearch.Proofs.Search.Service
import LogSearch.Proofs.Search.Answers
import LogSearch.Proofs.Search.IndexLists
import LogSearch.Proofs.Search.Restriction
import LogSearch.Proofs.Store.Reach
import LogSearch.Proofs.Search.Missing
import LogSearch.Proofs.Search.Regrouping
import LogSearch.Proofs.Cluster.Attachment
import LogSearch.Proofs.Time.Window
import LogSearch.Proofs.Store.Filtered
import LogSearch.Proofs.Store.Order
import LogSearch.Proofs.Search.TopValues
import LogSearch.Proofs.Search.RowOrder
import LogSearch.Proofs.Index.Insertion
import LogSearch.Proofs.Search.Gaps
import LogSearch.Proofs.Search.Columns
import LogSearch.Proofs.Index.Marker
import LogSearch.Proofs.Index.Record
import LogSearch.Proofs.Time.Record
import LogSearch.Proofs.Json.Reading
import LogSearch.Proofs.Json.Printing
import LogSearch.Proofs.Time.Back
import LogSearch.Proofs.Time.Words
import LogSearch.Proofs.Time.Dates
import LogSearch.Proofs.Store.Ranges
import LogSearch.Proofs.Time.Reach
import LogSearch.Proofs.Time.Edges
import LogSearch.Proofs.Time.IntervalText
import LogSearch.Proofs.Search.Edges
import LogSearch.Proofs.Index.IndexSet
import LogSearch.Proofs.Cluster.SearchUrl
