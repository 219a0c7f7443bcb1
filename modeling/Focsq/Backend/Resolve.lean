import Focsq.Backend.Dns
import Focsq.Backend.Net

/-!
# Resolving an address

`resolve_socket` of `dns.rs` and the lookups under it. An address with a literal is read as it is;
otherwise the host is found by the `url` crate, and a name is asked for.

The network, the clock and the `url` crate are parameters.
-/

namespace Focsq.Dns

open Focsq.Turn (SocketAddr)

section Lookup

/-- Why an address is not resolved. -/
inductive ResolveError where
  /-- What a socket says, with the context of the server. -/
  | socket (text : Text)
  /-- What is wrong with a name or with a response. -/
  | dns (error : DnsError)
  /-- `оба сервера Yandex DNS отклонили запрос`, with the two errors. -/
  | rejected (firstError secondError : ResolveError)
  /-- `пустой DNS-ответ Yandex для {host}`. -/
  | emptyYandex (host : Text)
  /-- `Yandex DNS не ответил за 5 секунд для {host}`. -/
  | timedOut (host : Text)
  /-- `DNS lookup Yandex {host}`, with the error. -/
  | yandex (host : Text) (error : ResolveError)
  /-- `системный DNS lookup {host}`, with the error. -/
  | system (host text : Text)
  /-- `пустой системный DNS-ответ для {host}`. -/
  | emptySystem (host : Text)
  /-- `разбор адреса {address:?}`. -/
  | address (address : Text)
  /-- `адрес не содержит имя хоста`. -/
  | noHost
  /-- `адрес не содержит порт`. -/
  | noPort
  /-- `пустой DNS-ответ`. -/
  | empty

/-- `YandexDnsError`. -/
inductive YandexDnsError where
  /-- `TimedOut`. -/
  | timedOut
  /-- `Failed`. -/
  | failed (error : ResolveError)

/-- What the two servers make of a query, the faster one first. There is nothing from a server that
does not answer within `DNS_TIMEOUT`. -/
structure Replies where
  /-- The faster server. -/
  first : Option (Except Text Slice)
  /-- The slower server. -/
  second : Option (Except Text Slice)

/-- What the lookups learn from outside. -/
structure Network where
  /-- `rand::random`. -/
  queryId : UInt16
  /-- What comes back for a query. -/
  replies : List UInt8 → Replies
  /-- `tunnel_active`. -/
  tunnelActive : Bool
  /-- `lookup_host`. -/
  lookupHost : Text → Except Text (List IpAddr)

/-- `query_dns_server`, from what it has received. -/
def queryDnsServer (reply : Except Text Slice) (queryId : UInt16) :
    Except ResolveError (List IpAddr) := do
  let response ← reply.mapError .socket
  (parseResponse response queryId).mapError .dns

/-- `query_yandex`. -/
def Network.queryYandex (network : Network) (query : List UInt8) (queryId : UInt16) :
    Except YandexDnsError (List IpAddr) :=
  match (network.replies query).first with
  | none => .error .timedOut
  | some reply =>
    match queryDnsServer reply queryId with
    | .ok addresses => .ok addresses
    | .error firstError =>
      match (network.replies query).second with
      | none => .error .timedOut
      | some reply =>
        (queryDnsServer reply queryId).mapError fun secondError =>
          .failed (.rejected firstError secondError)

/-- `yandex_lookup`. -/
def Network.yandexLookup (network : Network) (host : Text) :
    Except YandexDnsError (List IpAddr) := do
  let queryId := network.queryId
  let aQuery ← (buildQuery host queryId dnsARecord).mapError (.failed ∘ .dns)
  let aAnswers ← network.queryYandex aQuery queryId
  if ¬aAnswers.isEmpty then return aAnswers
  let aaaaId := queryId + 1
  let aaaaQuery ← (buildQuery host aaaaId dnsAaaaRecord).mapError (.failed ∘ .dns)
  network.queryYandex aaaaQuery aaaaId

/-- `system_lookup`. -/
def Network.systemLookup (network : Network) (host : Text) :
    Except ResolveError (List IpAddr) := do
  let found ← (network.lookupHost host).mapError (.system host)
  let addresses := found.foldl addAddress []
  if addresses.isEmpty then throw (.emptySystem host)
  return addresses

/-- `lookup`. -/
def Network.lookup (network : Network) (host : Text) : Except ResolveError (List IpAddr) :=
  match Net.parseIpAddr host with
  | some address => .ok [address]
  | none =>
    match network.yandexLookup host with
    | .ok addresses => if addresses.isEmpty then .error (.emptyYandex host) else .ok addresses
    | .error .timedOut =>
      if network.tunnelActive then .error (.timedOut host) else network.systemLookup host
    | .error (.failed error) => .error (.yandex host error)

end Lookup

section Socket

/-- What is used of a `Url`. -/
structure Url where
  /-- `host_str`. -/
  hostStr : Option Text
  /-- `port`. -/
  port : Option UInt16
  deriving DecidableEq

/-- `context` — a value that may be missing. -/
def context {α : Type} (value : Option α) (reason : ResolveError) : Except ResolveError α :=
  value.elim (.error reason) .ok

/-- The first address of a host that is looked up, with a port. -/
def Network.firstAddress (network : Network) (host : Text) (port : UInt16) :
    Except ResolveError SocketAddr := do
  let addresses ← network.lookup host
  let ip ← context addresses.head? .empty
  pure (.new ip port)

/-- `resolve_socket`, with `Url::parse`. -/
def resolveSocket (parseUrl : Text → Option Url) (network : Network) (address : Text) :
    Except ResolveError SocketAddr :=
  match Net.parseSocketAddr address with
  | some address => .ok address
  | none => do
    let parsed ← context (parseUrl ("udp://".toList ++ address)) (.address address)
    let host ← context parsed.hostStr .noHost
    let port ← context parsed.port .noPort
    network.firstAddress host port

end Socket

end Focsq.Dns
