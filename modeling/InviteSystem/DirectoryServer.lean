import InviteSystem.RedemptionSystem

/-!
A directory server, a store and a clock without faults: one reply to every
call. It is one of the partners that `Perform` allows, so that evaluating a
request against it is one run of the system.
-/
namespace InviteSystem.DirectoryServer
open InviteSystem.Text InviteSystem.Chrono InviteSystem.Libraries InviteSystem.Tokens InviteSystem.Transactions
open InviteSystem.InviteStorage InviteSystem.InviteRoutes
open InviteSystem.Programs InviteSystem.Lldap InviteSystem.SubmitInvite InviteSystem.Effects InviteSystem.Accounts
open InviteSystem.RedemptionSystem

/-- What the replies depend on beside the world: the clock, the id that the LDAP
    server takes a distinguished name to address, and whether it can be reached. -/
structure Conditions where
  now : Reading
  resolve : String → Option String
  ldap_up : Bool

def answer {T : Type} (data : T) : GraphqlReply T := .answered ⟨200, "200 OK"⟩ "" (.ok ⟨some data, none⟩)
def reject {T : Type} (message : String) : GraphqlReply T := .answered ⟨200, "200 OK"⟩ "" (.ok ⟨none, some [message]⟩)

@[simp] theorem reported_answer {T : Type} (data : T) : reported (answer data) = true := by
  simp [reported, answer, GraphqlReply.result, StatusCode.is_success, Except.isOk, Except.toBool]
@[simp] theorem reported_reject {T : Type} (message : String) : reported (reject (T := T) message) = false := by
  simp [reported, reject, GraphqlReply.result, StatusCode.is_success, Except.isOk, Except.toBool]

section
variable {ι : Type}

/-- The ids of the accounts whose field has the value. -/
def lookup (directory : Directory ι) (field value : String) : List String :=
  (directory.accounts.filter (fun account =>
    (field = "id" ∧ account.id = value) ∨ (field = "email" ∧ account.email = value))).map Account.id

def serveOperation (i : ι) (w : World ι) : (operation : Operation) → GraphqlReply operation.Data × World ι
  | .CreateUser user =>
    match w.directory.account user.id with
    | some _ => (reject "user id already exists", w)
    | none => (answer user.id, { w with directory := w.directory.insert (.created user (.request i true)) })
  | .DeleteUser id => (answer true, { w with directory := w.directory.erase id })
  | .GetGroupList => (answer w.directory.groups, w)
  | .LookupUsers field value => (answer (lookup w.directory field value), w)
  | .AddUserToGroup user group => (answer true, { w with directory := w.directory.join user group })

def serve (conditions : Conditions) (i : ι) : (c : Lldap.Call) → World ι → Reply c × World ι
  | .post_login _ _ _, w => (.ok "token", w)
  | .post_graphql _ _ operation, w => serveOperation i w operation
  | .open_ca_file _, w => (.parsed 1 0, w)
  | .ldap_connect _ _, w => (if conditions.ldap_up then .ok () else .error "connection refused", w)
  | .simple_bind _ _, w => (.ok (), w)
  | .password_modify user_id new_pass, w =>
    match conditions.resolve user_id with
    | none => (.error "invalidDNSyntax", w)
    | some id =>
      if (w.directory.account id).isSome then
        (.ok (), { w with directory := w.directory.setPassword id new_pass })
      else (.error "noSuchObject", w)
  | .unbind, w => (.ok (), w)
  | .find_by_token_hash token_hash, w => (some (find_by_token_hash w.store token_hash), w)
  | .consume_invite token_hash consumed_at consumed_by, w =>
    (((consume_invite token_hash consumed_at consumed_by).run w.store w.store).1,
      { w with store := ((consume_invite token_hash consumed_at consumed_by).run w.store w.store).2 })
  | .utc_now, w => (conditions.now, w)

theorem serve_performs (conditions : Conditions) (i : ι) (c : Lldap.Call) (w : World ι) :
    Perform i w c (serve conditions i c w).1 (serve conditions i c w).2 := by
  induction c using call_cases with
  | passive c passive =>
    rw [passive_world passive]
    cases c with
    | post_graphql url token operation => cases operation <;> first | rfl | cases passive
    | _ => first | rfl | cases passive
  | create url token user =>
    cases taken : w.directory.account user.id with
    | some account =>
      left
      simp [serve, serveOperation, taken]
    | none =>
      right
      have success : reported (T := String) (answer user.id) = true := reported_answer user.id
      refine ⟨taken, ?_⟩
      simp only [serve, serveOperation, taken]
      exact congrArg (fun flag => { w with directory := w.directory.insert (.created user (.request i flag)) }) success.symm
  | delete url token id => exact .inr rfl
  | join url token user group => exact .inr rfl
  | password user_id new_pass =>
    show _ ∨ _
    simp only [serve]
    split
    · exact .inl rfl
    · split
      · exact .inr ⟨_, rfl⟩
      · exact .inl rfl
  | find token_hash => exact ⟨rfl, .inr rfl⟩
  | consume token_hash consumed_at consumed_by =>
    refine ⟨_, rfl, ?_⟩
    have ran := perform_atomic .none (.consume_invite token_hash consumed_at consumed_by) w.store
    simp only [Fault.perform, InviteStorage.Call.code, run_map] at ran
    exact ran

theorem serve_consumes (conditions : Conditions) (i : ι) (token_hash consumed_at consumed_by : String) (w : World ι) :
    (serve conditions i (.consume_invite token_hash consumed_at consumed_by) w).1 ≠ none := by
  intro failed
  change ((consume_invite token_hash consumed_at consumed_by).run w.store w.store).1 = none at failed
  rcases consume_invite_cases w.store token_hash consumed_at consumed_by with ⟨_, ran⟩ | ⟨_, _, _, _, ran, _⟩
  · rw [ran] at failed
    cases failed
  · rw [ran] at failed
    cases failed

/-! ### The client against the server -/

/-- Setting the password panics: over the CA file, over the URL, or behind a connection. -/
def Halts (config : LldapConfig) (conditions : Conditions) : Prop :=
  config.tls_ca_file ≠ none ∨ hostless (ldap_transport_url config) = true ∨
    (conditions.ldap_up = true ∧ over_tls (ldap_transport_url config) = true)

variable (conditions : Conditions) (i : ι) (config : LldapConfig) (w : World ι)

theorem eval_login : (login config).eval (serve conditions i) w = (.ok "token", w) := rfl

theorem eval_graphql (token : String) (operation : Operation) :
    (graphql config token operation).eval (serve conditions i) w =
      (GraphqlReply.result (serveOperation i w operation).1, (serveOperation i w operation).2) := rfl

theorem eval_user_exists (field value : String) : (user_exists config field value).eval (serve conditions i) w =
    (.ok (!(lookup w.directory field value).isEmpty), w) := rfl

theorem eval_delete_user (token username : String) : (delete_user config token username).eval (serve conditions i) w =
    (.ok (), { w with directory := w.directory.erase username }) := rfl

theorem eval_create_user {username : String} (absent : w.directory.account username = none)
    (token email first_name last_name : String) :
    (create_user config token username email first_name last_name).eval (serve conditions i) w =
      (.ok (), { w with directory := w.directory.insert (.created
        ⟨username, email, first_name ++ " " ++ last_name, first_name, last_name⟩ (.request i true)) }) := by
  have created : (graphql config token
      (.CreateUser ⟨username, email, first_name ++ " " ++ last_name, first_name, last_name⟩)).eval (serve conditions i) w =
      (.ok username, { w with directory := w.directory.insert (.created
        ⟨username, email, first_name ++ " " ++ last_name, first_name, last_name⟩ (.request i true)) }) := by
    rw [eval_graphql]
    simp only [serveOperation, absent]
    rfl
  exact eval_andThen created _

/-- The password is set where the name addresses an account; elsewhere nothing is. -/
theorem eval_set_password_cases {conditions : Conditions} {config : LldapConfig} (calm : ¬ Halts config conditions)
    (i : ι) (w : World ι) (username password : String) :
    (∃ id, conditions.ldap_up = true ∧ conditions.resolve (user_dn config username) = some id ∧
      w.directory.account id ≠ none ∧ (set_password config username password).eval (serve conditions i) w =
        (.returned (.ok ()), { w with directory := w.directory.setPassword id password })) ∨
    (¬ (∃ id, conditions.ldap_up = true ∧ conditions.resolve (user_dn config username) = some id ∧
      w.directory.account id ≠ none) ∧ ∃ message, (set_password config username password).eval (serve conditions i) w =
        (.returned (.error (.Graphql message)), w)) := by
  simp only [Halts, not_or, not_not] at calm
  obtain ⟨noCa, host, plain⟩ := calm
  have settings : ldap_settings config = .ret (.returned (.ok config.tls_insecure_skip_verify)) := by
    rw [ldap_settings, noCa]
  have bound : (ldap (.simple_bind (admin_dn config) config.password) id).eval (serve conditions i) w =
      (.ok (), w) := rfl
  have connected (no_tls_verify : Bool) : (ldap (.ldap_connect (ldap_transport_url config) no_tls_verify) id).eval
      (serve conditions i) w = (Except.mapError LldapError.Graphql
        (if conditions.ldap_up then .ok () else .error "connection refused"), w) := rfl
  have modified : (ldap (.password_modify (user_dn config username) password) id).eval (serve conditions i) w =
      (Except.mapError LldapError.Graphql (serve conditions i (.password_modify (user_dn config username) password) w).1,
        (serve conditions i (.password_modify (user_dn config username) password) w).2) := rfl
  rw [set_password, settings, Program.bind]
  dsimp only
  rw [if_neg host]
  cases up : conditions.ldap_up with
  | false =>
    right
    refine ⟨by simp, "connection refused", ?_⟩
    rw [up] at connected
    exact eval_tries_error (connected _) _
  | true =>
    rw [up] at connected
    rw [eval_tries (connected _), if_neg fun tls => plain ⟨up, tls⟩]
    have conversed {outcome : Except LldapError Unit} {w' : World ι}
        (ended : (converse config username password).eval (serve conditions i) w = (outcome, w')) :
        (converse config username password).returns.eval (serve conditions i) w = (.returned outcome, w') :=
      eval_returns ended
    rw [converse, eval_andThen bound] at conversed
    cases resolved : conditions.resolve (user_dn config username) with
    | none =>
      right
      simp only [serve, resolved] at modified
      exact ⟨by simp, "invalidDNSyntax", conversed (eval_andThen_error modified _)⟩
    | some v =>
      cases there : w.directory.account v with
      | none =>
        right
        simp only [serve, resolved, there] at modified
        exact ⟨by simp [there], "noSuchObject", conversed (eval_andThen_error modified _)⟩
      | some account =>
        left
        simp only [serve, resolved, there, Option.isSome_some, if_true] at modified
        refine ⟨v, rfl, rfl, by simp [there], conversed ?_⟩
        rw [eval_andThen modified]
        rfl

/-- The password is set where the name addresses an account. -/
theorem eval_set_password (calm : ¬ Halts config conditions) {username v : String}
    (target : conditions.resolve (user_dn config username) = some v) (present : w.directory.account v ≠ none)
    (up : conditions.ldap_up = true) (password : String) :
    (set_password config username password).eval (serve conditions i) w =
      (.returned (.ok ()), { w with directory := w.directory.setPassword v password }) := by
  rcases eval_set_password_cases calm i w username password with ⟨id, _, resolved, _, ran⟩ | ⟨lost, _⟩
  · obtain rfl : id = v := Option.some.inj (resolved.symm.trans target)
    exact ran
  · exact absurd ⟨v, up, target, present⟩ lost

/-! ### The handler against the server -/

variable (crates : Crates) (submit : SubmitConfig) (form : SubmitInviteForm) (code : String)

theorem eval_find {α : Type} (token_hash : String) (next : Option (Option InviteRecord) → Prog α) :
    Program.eval (serve conditions i) (.call (.find_by_token_hash token_hash) next) w =
      (next (some (find_by_token_hash w.store token_hash))).eval (serve conditions i) w := rfl

theorem eval_now {α : Type} (next : Reading → Prog α) :
    Program.eval (serve conditions i) (.call .utc_now next) w = (next conditions.now).eval (serve conditions i) w := rfl

theorem eval_consume {α : Type} (token_hash consumed_at consumed_by : String) (next : Option Bool → Prog α) :
    Program.eval (serve conditions i) (.call (.consume_invite token_hash consumed_at consumed_by) next) w =
      (next ((consume_invite token_hash consumed_at consumed_by).run w.store w.store).1).eval (serve conditions i)
        { w with store := ((consume_invite token_hash consumed_at consumed_by).run w.store w.store).2 } := rfl

theorem eval_find_inactive (inactive : ∀ invite_record,
      find_by_token_hash w.store (hash_token crates code) = some invite_record →
      invite_is_active crates invite_record conditions.now.time = false) :
    (find_invite crates submit form code).eval (serve conditions i) w =
      (form.refused code ["This invitation link is invalid or has expired."], w) := by
  rw [find_invite, eval_find]
  cases found : find_by_token_hash w.store (hash_token crates code) with
  | none => rfl
  | some invite_record =>
    dsimp only
    rw [eval_now, if_pos (inactive invite_record found), eval_ret]

theorem eval_find_active {invite_record : InviteRecord}
    (found : find_by_token_hash w.store (hash_token crates code) = some invite_record)
    (active : invite_is_active crates invite_record conditions.now.time = true) :
    (find_invite crates submit form code).eval (serve conditions i) w =
      (redeem crates submit form code (hash_token crates code) invite_record).eval (serve conditions i) w := by
  rw [find_invite, eval_find, found]
  dsimp only
  rw [eval_now, if_neg (by simp [active])]

/-- The lookups in the directory come before that of the invite. -/
theorem eval_submit_invite (present : (trim code).isEmpty = false)
    (valid : validation_errors crates submit.password_policy form = []) :
    (submit_invite crates submit ⟨some code, form⟩).eval (serve conditions i) w =
      if lookup w.directory "id" form.username ≠ [] then (form.refused code ["That username is already in use."], w)
      else if lookup w.directory "email" form.email ≠ [] then
        (form.refused code ["That email address is already in use."], w)
      else (find_invite crates submit form code).eval (serve conditions i) w := by
  rw [submit_invite]
  dsimp only
  rw [if_neg (by simp [present]), if_neg (by simp [valid]), eval_bind, username_exists, eval_user_exists]
  by_cases known : lookup w.directory "id" form.username = []
  · rw [if_neg (by simp [found, known]), if_neg (by simp [known]), eval_bind, email_exists, eval_user_exists]
    by_cases known' : lookup w.directory "email" form.email = []
    · rw [if_neg (by simp [found, known']), if_neg (by simp [known'])]
    · rw [if_pos (by simp [found, known']), if_pos known']
      rfl
  · rw [if_pos (by simp [found, known]), if_pos known]
    rfl

/-- A request that passes all checks and provisions its account goes on to
    claim its invite. -/
theorem eval_provisioned {w' : World ι} {invite_record : InviteRecord} {groups : List String}
    (present : (trim code).isEmpty = false) (valid : validation_errors crates submit.password_policy form = [])
    (unknown : lookup w.directory "id" form.username = []) (unused : lookup w.directory "email" form.email = [])
    (found : find_by_token_hash w.store (hash_token crates code) = some invite_record)
    (active : invite_is_active crates invite_record conditions.now.time = true)
    (decoded : crates.groups_from_json invite_record.groups_json = some groups)
    (ran : (provision_user submit.ldap form.username form.email form.first_name form.last_name form.password groups).eval
      (serve conditions i) w = (.returned (.ok ()), w')) :
    (submit_invite crates submit ⟨some code, form⟩).eval (serve conditions i) w =
      (claim_invite submit form code (hash_token crates code)).eval (serve conditions i) w' := by
  rw [eval_submit_invite conditions i w crates submit form code present valid, if_neg (not_not_intro unknown),
    if_neg (not_not_intro unused), eval_find_active conditions i w crates submit form code found active, redeem, decoded]
  dsimp only
  rw [eval_bind, ran]

end

/-! ### An invitation, and a request that presents it -/

def servedCode : String := "r2Dq8YtLwX5bKe0NzVfHs7GjUa3McP6i"

/-- The libraries on what the samples hand to them. -/
def servedCrates : Crates where
  sha256 := fun input => if input = bytes servedCode then
    #v[233, 206, 144, 201, 92, 195, 15, 32, 24, 64, 10, 66, 6, 116, 88, 250, 48, 240, 154, 211, 239, 31, 72, 203, 227,
      149, 82, 170, 41, 219, 20, 54] else Vector.replicate 32 0
  parse_datetime := fun text =>
    if text = "2026-03-02T09:45:00.500+00:00" then some ⟨1772444700500000000, by decide⟩ else none
  groups_to_json := fun groups => if groups = ["staff", "vpn"] then "[\"staff\",\"vpn\"]" else "[]"
  groups_from_json := fun text => if text = "[\"staff\",\"vpn\"]" then some ["staff", "vpn"] else none
  verify_password := fun _ _ => false
  is_uppercase := Char.isUpper
  is_lowercase := Char.isLower
  is_numeric := Char.isDigit
  is_alphanumeric := Char.isAlphanum

def servedConfig : SubmitConfig :=
  ⟨⟨"http://lldap:17170", "ldap://lldap:3890", false, false, none, "dc=example,dc=com", "admin", "secret"⟩, .default⟩

/-- The URL of the samples is that of a plain connection. -/
theorem served_calm (conditions : Conditions) : ¬ Halts servedConfig.ldap conditions := by
  rintro (file | host | ⟨_, tls⟩)
  · exact file rfl
  · exact absurd host (by decide)
  · exact absurd tls (by decide)

def applicant (code username : String) : Submission :=
  ⟨some code, ⟨username, "bob@example.com", "Bob", "Jones", "Str0ng-Passw0rd"⟩⟩

/-- One invite for the groups `staff` and `vpn`, made on 1 March 2026 at 09:45. -/
def servedStore : Database := afterCalls true [.create_invite "invite-1"
  "e9ce90c95cc30f2018400a42067458fa30f09ad3ef1f48cbe39552aa29db1436" "[\"staff\",\"vpn\"]"
  "2026-03-01T09:45:00.500+00:00" "2026-03-02T09:45:00.500+00:00" none]

/-- Its groups, and no account yet. -/
def servedWorld (ι : Type) : World ι := ⟨⟨[], [⟨1, "staff"⟩, ⟨2, "vpn"⟩], List.nodup_nil⟩, servedStore⟩

/-- Noon of that day; the distinguished name of `bob` addresses `bob`. -/
def servedConditions (ldap_up : Bool) : Conditions :=
  ⟨⟨⟨1772366400000000000, by decide⟩, by decide⟩,
    fun dn => if dn = "uid=bob,ou=people,dc=example,dc=com" then some "bob" else none, ldap_up⟩

end InviteSystem.DirectoryServer
