import InviteSystem.AdminRoutes
import InviteSystem.SortedMaps
import Mathlib.Data.String.Basic

/-!
The request log of `routes.rs`: what the handlers read of a request's headers
for it, and the two records they write, when a request begins and when it ends.
-/
namespace InviteSystem.RequestLogs
open InviteSystem.Text InviteSystem.Chrono InviteSystem.Libraries InviteSystem.Authentication InviteSystem.AdminRoutes
open InviteSystem.SortedMaps

/-- A request as the log sees it: the query is a part of the URI of its own. -/
structure Head where
  method : String
  path : String
  query : Option String
  headers : List (String × List UInt8)

/-- `HeaderMap::get`: the first value. -/
def Head.header (head : Head) (name : String) : Option (List UInt8) := head.headers.lookup name

def header_value (head : Head) (name : String) : String :=
  ((((head.header name).bind to_str).map trim).filter (fun value => !value.isEmpty)).getD "-"

def request_client_ip (head : Head) : String :=
  let forwarded_for := header_value head "x-forwarded-for"
  let forwarded_ip :=
    (((split ',' forwarded_for).head?.map trim).filter (fun value => !value.isEmpty)).getD "-"
  if forwarded_ip ≠ "-" then forwarded_ip
  else
    let real_ip := header_value head "x-real-ip"
    if real_ip ≠ "-" then real_ip else "unknown"

structure RequestLog where
  method : String
  path : String
  client_ip : String
  forwarded_for : String
  user_agent : String
  referer : String
  message_field : String
  started_at : Instant

inductive Value
  | text (value : String)
  | number (value : Nat)
deriving DecidableEq, Repr

/-- A JSON object; its fields are written in the order of their names. -/
abbrev Record := SortedMap String Value

def RequestLog.emit_json (log : RequestLog) (level message : String) (duration_ms : Option Nat) (now : Reading) : Record :=
  let fields : Record := SortedMap.empty
  let fields := fields.insert "ts" (.text (to_rfc3339 now.time))
  let fields := fields.insert "level" (.text level)
  -- a configured name that is also one of the others loses its field or takes theirs
  let fields := fields.insert log.message_field (.text message)
  let fields := fields.insert "method" (.text log.method)
  let fields := fields.insert "path" (.text log.path)
  let fields := fields.insert "client_ip" (.text log.client_ip)
  let fields := fields.insert "forwarded_for" (.text log.forwarded_for)
  let fields := fields.insert "user_agent" (.text log.user_agent)
  let fields := fields.insert "referer" (.text log.referer)
  match duration_ms with
  | some duration_ms => fields.insert "duration_ms" (.number (min duration_ms (2 ^ 64 - 1)))
  | none => fields

/-- `RequestLog::new`, and the record that it writes. -/
def RequestLog.new (head : Head) (message_field : String) (started_at : Instant) (now : Reading) : RequestLog × Record :=
  let request : RequestLog := {
    method := head.method
    path := head.path
    client_ip := request_client_ip head
    forwarded_for := header_value head "x-forwarded-for"
    user_agent := header_value head "user-agent"
    referer := header_value head "referer"
    message_field := message_field
    started_at := started_at }
  (request, request.emit_json "info" "request start" none now)

/-- What dropping it writes: `elapsed` is zero where the clock has gone back. -/
def RequestLog.drop (log : RequestLog) (dropped_at : Instant) (now : Reading) : Record :=
  log.emit_json "info" "request complete" (some ((dropped_at - log.started_at) / 1000000)) now

/-! ### The handlers -/

/-- The page and form handlers, with the `csrf` field of those that are guarded by it. -/
inductive Handler
  | home
  | health
  | admin
  | revoke_invite_route (csrf : String)
  | generate_invite (csrf : String)
  | invite
  | submit_invite
  | login_page
  | login
  | logout

/-- Whether the handler comes to open a log: the guards stand before it, and the
    routes of the login have none. -/
def Handler.logs (crates : Crates) (config : AdminConfig) (head : Head) (cookies : String → Option String) (now : Instant)
    (auth : AuthState) : Handler → Bool
  | .home => true
  | .health => true
  | .admin => (require_admin crates ⟨head.headers, cookies, .admin⟩ now auth).1.isOk
  -- the guards read nothing of the endpoint
  | .revoke_invite_route csrf => (require_admin_mutation crates config ⟨head.headers, cookies, .admin⟩ csrf now auth).1.isNone
  | .generate_invite csrf => (require_admin_mutation crates config ⟨head.headers, cookies, .admin⟩ csrf now auth).1.isNone
  | .invite => true
  | .submit_invite => true
  | .login_page => false
  | .login => false
  | .logout => false

/-- The readings of the clocks when the log is opened and when it is dropped. -/
structure Times where
  started_at : Instant
  opened : Reading
  dropped_at : Instant
  closed : Reading

/-- The records of one request. The log is dropped however its handler ends. -/
def Handler.records (crates : Crates) (config : AdminConfig) (message_field : String) (handler : Handler) (head : Head)
    (cookies : String → Option String) (now : Instant) (auth : AuthState) (times : Times) : List Record :=
  if handler.logs crates config head cookies now auth then
    let (log, record) := RequestLog.new head message_field times.started_at times.opened
    [record, log.drop times.dropped_at times.closed]
  else []

end InviteSystem.RequestLogs
