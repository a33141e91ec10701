import InviteSystem.Chrono
import InviteSystem.InviteStorage
import InviteSystem.Programs
import InviteSystem.Urls

/-!
`lldap.rs`: the client of the directory, as programs over the calls that leave
the process. The other calls of a redemption, on the repository and the clock,
stand beside them, so that a whole request is one program. What takes up TLS
panics: the locked rustls is built with two providers of cryptography, neither
is installed, and `ClientConfig::builder()` refuses to choose.
-/
namespace InviteSystem.Lldap
open InviteSystem.Chrono InviteSystem.InviteStorage InviteSystem.Programs

structure LldapConfig where
  http_url : String
  ldap_url : String
  use_tls : Bool
  tls_insecure_skip_verify : Bool
  tls_ca_file : Option String
  base_dn : String
  username : String
  password : String
deriving DecidableEq, Repr

/-- `reqwest::Error`, by its source, with its text. -/
inductive HttpError
  | send (text : String)
  | status (text : String)
  | decode (text : String)
deriving DecidableEq, Repr

inductive LldapError
  | Http (error : HttpError)
  | Json (error : String)
  | Graphql (message : String)
deriving DecidableEq, Repr

structure GroupRecord where
  id : Int
  display_name : String
deriving DecidableEq, Repr

structure CreateUserInput where
  id : String
  email : String
  displayName : String
  firstName : String
  lastName : String
deriving DecidableEq, Repr

/-! ### Calls -/

/-- The GraphQL operations, with their variables. -/
inductive Operation
  | CreateUser (user : CreateUserInput)
  | DeleteUser (id : String)
  | GetGroupList
  | LookupUsers (field value : String)
  | AddUserToGroup (user : String) (group : Int)
deriving DecidableEq, Repr

/-- The decoded data of an answer: the created id, the `ok` flags, the groups,
    the ids of the users found. -/
def Operation.Data : Operation → Type
  | .CreateUser _ => String
  | .DeleteUser _ => Bool
  | .GetGroupList => List GroupRecord
  | .LookupUsers _ _ => List String
  | .AddUserToGroup _ _ => Bool

structure GraphqlResponse (T : Type) where
  data : Option T
  errors : Option (List String)

/-- A status, with the text it is displayed as. -/
structure StatusCode where
  code : Nat
  text : String

/-- What comes back for a GraphQL request; the body comes with what
    `serde_json::from_str` makes of it. -/
inductive GraphqlReply (T : Type)
  | failed (error : HttpError)
  | answered (status : StatusCode) (body : String) (decoded : Except String (GraphqlResponse T))

/-- What reading the CA file comes to: the counts are of the certificates that
    the root store took and refused. -/
inductive CaFile
  | unopened (error : String)
  | unparsed (error : String)
  | parsed (valid invalid : Nat)

inductive Call
  | post_login (url username password : String)
  | post_graphql (url token : String) (operation : Operation)
  | open_ca_file (path : String)
  | ldap_connect (url : String) (no_tls_verify : Bool)
  | simple_bind (dn password : String)
  | password_modify (user_id new_pass : String)
  | unbind
  | find_by_token_hash (token_hash : String)
  | consume_invite (token_hash consumed_at consumed_by : String)
  | utc_now

/-- An LDAP error is known by its text; a failed repository call by nothing. -/
def Reply : Call → Type
  | .post_login _ _ _ => Except HttpError String
  | .post_graphql _ _ operation => GraphqlReply operation.Data
  | .open_ca_file _ => CaFile
  | .ldap_connect _ _ => Except String Unit
  | .simple_bind _ _ => Except String Unit
  | .password_modify _ _ => Except String Unit
  | .unbind => Except String Unit
  | .find_by_token_hash _ => Option (Option InviteRecord)
  | .consume_invite _ _ _ => Option Bool
  | .utc_now => Reading

abbrev Prog (α : Type) := Program Call Reply α

/-! ### The client -/

def StatusCode.is_success (status : StatusCode) : Bool := 200 ≤ status.code ∧ status.code < 300

/-- What `graphql` makes of a reply. -/
def GraphqlReply.result {T : Type} : GraphqlReply T → Except LldapError T
  | .failed error => .error (.Http error)
  | .answered status body decoded =>
    if status.is_success = false then
      .error (.Graphql ("GraphQL request returned " ++ status.text ++ ": " ++ body))
    else match decoded with
      | .error error => .error (.Json error)
      | .ok ⟨_, some errors⟩ => .error (.Graphql (String.intercalate "; " errors))
      | .ok ⟨some data, none⟩ => .ok data
      | .ok ⟨none, none⟩ => .error (.Graphql "GraphQL response had no data")

/-- `trim_end_matches('/')` on the configured URL, and the path. -/
def endpoint (config : LldapConfig) (path : String) : String :=
  String.ofList (config.http_url.toList.rdropWhile (· == '/')) ++ path

def login (config : LldapConfig) : Prog (Except LldapError String) :=
  .call (.post_login (endpoint config "/auth/simple/login") config.username config.password) fun reply =>
  .ret (Except.mapError LldapError.Http reply)

def graphql (config : LldapConfig) (token : String) (operation : Operation) : Prog (Except LldapError operation.Data) :=
  .call (.post_graphql (endpoint config "/api/graphql") token operation) fun reply =>
  .ret (GraphqlReply.result reply)

def create_user (config : LldapConfig) (token username email first_name last_name : String) :
    Prog (Except LldapError Unit) :=
  (graphql config token (.CreateUser ⟨username, email, first_name ++ " " ++ last_name, first_name, last_name⟩)).andThen
    fun _ => .ret (.ok ())

/-- The `ok` flag of the answer is not looked at. -/
def delete_user (config : LldapConfig) (token username : String) : Prog (Except LldapError Unit) :=
  (graphql config token (.DeleteUser username)).andThen fun _ => .ret (.ok ())

def list_groups (config : LldapConfig) (token : String) : Prog (Except LldapError (List GroupRecord)) :=
  graphql config token .GetGroupList

def user_exists (config : LldapConfig) (field value : String) : Prog (Except LldapError Bool) :=
  (login config).andThen fun token =>
  (graphql config token (.LookupUsers field value)).andThen fun (users : List String) =>
  .ret (.ok (!users.isEmpty))

def username_exists (config : LldapConfig) (username : String) : Prog (Except LldapError Bool) :=
  user_exists config "id" username
def email_exists (config : LldapConfig) (email : String) : Prog (Except LldapError Bool) :=
  user_exists config "email" email

/-- The `ok` flag of the answer is not looked at. -/
def add_user_to_group (config : LldapConfig) (token username : String) (group_id : Int) : Prog (Except LldapError Unit) :=
  (graphql config token (.AddUserToGroup username group_id)).andThen fun _ => .ret (.ok ())

/-- `replacen(pattern, replacement, 1)`: the first occurrence, wherever it stands. -/
def replaceFirst (pattern replacement : List Char) : List Char → List Char
  | [] => []
  | c :: rest =>
    if pattern.isPrefixOf (c :: rest) then replacement ++ (c :: rest).drop pattern.length
    else c :: replaceFirst pattern replacement rest

def ldap_transport_url (config : LldapConfig) : String :=
  if config.use_tls then
    String.ofList (replaceFirst "ldap://".toList "ldaps://".toList config.ldap_url.toList)
  else config.ldap_url

/-- The settings come to whether the certificate check is off; a client
    configuration with the certificates of a file is never built. -/
def ldap_settings (config : LldapConfig) : Prog (Outcome (Except LldapError Bool)) :=
  match config.tls_ca_file with
  | none => .ret (.returned (.ok config.tls_insecure_skip_verify))
  | some ca_file =>
    .call (.open_ca_file ca_file) fun reply =>
    .ret (match reply with
      | .unopened error => .returned (.error (.Graphql ("Unable to open LDAP CA file " ++ ca_file ++ ": " ++ error)))
      | .unparsed error => .returned (.error (.Graphql ("Unable to parse LDAP CA file " ++ ca_file ++ ": " ++ error)))
      | .parsed valid invalid =>
        if valid = 0 then
          .returned (.error (.Graphql ("LDAP CA file " ++ ca_file ++ " did not contain any valid certificates")))
        else if 0 < invalid then
          .returned (.error (.Graphql ("LDAP CA file " ++ ca_file ++ " contained " ++ toString invalid ++
            " invalid certificate(s)")))
        else .panicked)

/-- A URL in which ldap3 finds no host to connect to: it panics. -/
def hostless (url : String) : Bool :=
  match Urls.parse url with
  | none => false
  | some ⟨scheme, remainder⟩ => (scheme = "ldap".toList ∨ scheme = "ldaps".toList) ∧ ¬ "//".toList <+: remainder

/-- A URL for which ldap3 makes a TLS connector, behind the connection of TCP: it panics. -/
def over_tls (url : String) : Bool := (Urls.parse url).map Urls.Url.scheme = some "ldaps".toList

/-- One step of the LDAP conversation; its error becomes a `Graphql` error. -/
def ldap (c : Call) (reads : Reply c → Except String Unit) : Prog (Except LldapError Unit) :=
  .call c fun reply => .ret (Except.mapError LldapError.Graphql (reads reply))

def admin_dn (config : LldapConfig) : String := "cn=" ++ config.username ++ ",ou=people," ++ config.base_dn
def user_dn (config : LldapConfig) (username : String) : String :=
  "uid=" ++ username ++ ",ou=people," ++ config.base_dn

/-- The conversation, once there is a connection. -/
def converse (config : LldapConfig) (username password : String) : Prog (Except LldapError Unit) :=
  (ldap (.simple_bind (admin_dn config) config.password) id).andThen fun _ =>
  (ldap (.password_modify (user_dn config username) password) id).andThen fun _ =>
  ldap .unbind id

def set_password (config : LldapConfig) (username password : String) : Prog (Outcome (Except LldapError Unit)) :=
  (ldap_settings config).bind fun settings =>
  match settings with
  | .panicked => .ret .panicked
  | .returned (.error error) => .ret (.returned (.error error))
  | .returned (.ok no_tls_verify) =>
    if hostless (ldap_transport_url config) then .ret .panicked
    else
      (ldap (.ldap_connect (ldap_transport_url config) no_tls_verify) id).tries fun _ =>
      if over_tls (ldap_transport_url config) then .ret .panicked
      else (converse config username password).returns

/-- The loop of `provision_user` over the names of the groups. An unknown name
    ends it without a deletion. -/
def add_to_groups (config : LldapConfig) (token username : String) (group_records : List GroupRecord) :
    List String → Prog (Except LldapError Unit)
  | [] => .ret (.ok ())
  | group_name :: groups =>
    match group_records.find? (fun group => group.display_name = group_name) with
    | none => .ret (.error (.Graphql ("Unknown group '" ++ group_name ++ "'")))
    | some group =>
      (add_user_to_group config token username group.id).bind fun added =>
      match added with
      | .error error => (delete_user config token username).bind fun _ => .ret (.error error)
      | .ok _ => add_to_groups config token username group_records groups

/-- `provision_user` from the list of the groups on. -/
def join_groups (config : LldapConfig) (token username : String) (groups : List String) : Prog (Except LldapError Unit) :=
  (list_groups config token).bind fun listed =>
  match listed with
  | .error error => (delete_user config token username).bind fun _ => .ret (.error error)
  | .ok group_records => add_to_groups config token username group_records groups

/-- `provision_user` from the password on. A panic is no error: the account stays as it is. -/
def equip (config : LldapConfig) (token username password : String) (groups : List String) :
    Prog (Outcome (Except LldapError Unit)) :=
  (set_password config username password).bind fun set =>
  match set with
  | .panicked => .ret .panicked
  | .returned (.error error) => ((delete_user config token username).bind fun _ => .ret (.error error)).returns
  | .returned (.ok _) => (join_groups config token username groups).returns

def provision_user (config : LldapConfig) (username email first_name last_name password : String)
    (groups : List String) : Prog (Outcome (Except LldapError Unit)) :=
  (login config).tries fun token =>
  (create_user config token username email first_name last_name).tries fun _ =>
  equip config token username password groups

def delete_user_account (config : LldapConfig) (username : String) : Prog (Except LldapError Unit) :=
  (login config).andThen fun token => delete_user config token username

end InviteSystem.Lldap
