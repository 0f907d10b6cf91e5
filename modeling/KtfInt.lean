import KtfInt.Cxx.StdMap
import KtfInt.Cxx.StdString
import KtfInt.Registry.Basic
import KtfInt.Registry.FindTest
import KtfInt.Registry.Enumerate
import KtfInt.Registry.Invariant
import KtfInt.Netlink.Query
import KtfInt.Netlink.Result
import KtfInt.Registry.Binding
import KtfInt.Netlink.Inventory
import KtfInt.Api.Configure
import KtfInt.Api.Requests
import KtfInt.Registry.Growth
import KtfInt.Api.Session
import KtfInt.Api.Enumeration
