import InviteSystem.RequestLogs

/-!
What the log tells about an invitation code. The records of a request depend on
its method, path and headers; a browser puts the code into the query, which they
leave out, and into the `Referer`, which they hold in full.
-/
namespace InviteSystem.LoggedCodes
open InviteSystem.Text InviteSystem.Libraries InviteSystem.Tokens InviteSystem.Authentication InviteSystem.AdminRoutes
open InviteSystem.SortedMaps InviteSystem.RequestLogs

/-- The record but for the fields of the clocks. -/
def timeless (record : Record) : Record := (record.without "ts").without "duration_ms"

/-! ### What the records depend on -/

section
variable {crates : Crates} {config : AdminConfig}

/-- Two requests that the log and the guards cannot tell apart. -/
structure Agree (head head' : Head) : Prop where
  method : head.method = head'.method
  path : head.path = head'.path
  header : ∀ name, head.header name = head'.header name

variable {head head' : Head}

theorem Agree.value (agree : Agree head head') (name : String) : header_value head name = header_value head' name := by
  rw [header_value, header_value, agree.header]

theorem Agree.client_ip (agree : Agree head head') : request_client_ip head = request_client_ip head' := by
  rw [request_client_ip, request_client_ip, agree.value, agree.value]

/-- The guards read two headers. -/
theorem logs_eq (origin : head.header "origin" = head'.header "origin")
    (site : head.header "sec-fetch-site" = head'.header "sec-fetch-site") (handler : Handler)
    (cookies : String → Option String) (now : Instant) (auth : AuthState) :
    handler.logs crates config head cookies now auth = handler.logs crates config head' cookies now auth := by
  have same : require_origin config ⟨head.headers, cookies, .admin⟩ = require_origin config ⟨head'.headers, cookies, .admin⟩ := by
    unfold require_origin
    dsimp only [Request.header]
    rw [show head.headers.lookup "origin" = _ from origin, show head.headers.lookup "sec-fetch-site" = _ from site]
    rfl
  have admin : require_admin crates ⟨head.headers, cookies, .admin⟩ now auth =
      require_admin crates ⟨head'.headers, cookies, .admin⟩ now auth := rfl
  cases handler with
  | revoke_invite_route csrf => simp only [Handler.logs, require_admin_mutation, same, admin]
  | generate_invite csrf => simp only [Handler.logs, require_admin_mutation, same, admin]
  | _ => rfl

/-- The fields of the clocks are the only ones that the readings show in. -/
theorem emit_json_timeless (log : RequestLog) (started_at : Instant) (level message : String)
    (duration duration' : Option Nat) (now now' : Chrono.Reading) :
    timeless (log.emit_json level message duration now) =
      timeless ({ log with started_at }.emit_json level message duration' now') := by
  apply SortedMap.ext_get
  intro key
  simp only [timeless, get_without]
  by_cases elapsed : key = "duration_ms"
  · simp [elapsed]
  · by_cases stamp : key = "ts"
    · simp [stamp]
    · rw [if_neg elapsed, if_neg elapsed, if_neg stamp, if_neg stamp]
      cases duration <;> cases duration' <;>
        simp only [RequestLog.emit_json, get_insert, if_neg elapsed, if_neg stamp]

/-- The `Referer` is in every record as it was read. -/
theorem emit_json_referer (log : RequestLog) (level message : String) (duration : Option Nat) (now : Chrono.Reading) :
    (log.emit_json level message duration now).get "referer" = some (.text log.referer) := by
  cases duration with
  | none => simp [RequestLog.emit_json, get_insert]
  | some duration => simp [RequestLog.emit_json, get_insert]

/-- Requests that agree leave the same records. -/
theorem Agree.records (agree : Agree head head') (message_field : String) (handler : Handler)
    (cookies : String → Option String) (now : Instant) (auth : AuthState) (times : Times) :
    handler.records crates config message_field head cookies now auth times =
      handler.records crates config message_field head' cookies now auth times := by
  have opened : RequestLog.new head message_field times.started_at times.opened =
      RequestLog.new head' message_field times.started_at times.opened := by
    simp only [RequestLog.new, agree.method, agree.path, agree.client_ip, agree.value]
  unfold Handler.records
  rw [logs_eq (agree.header _) (agree.header _), opened]

/-- The readings of the clocks show in no other fields. -/
theorem records_timeless (message_field : String) (handler : Handler) (head : Head) (cookies : String → Option String)
    (now : Instant) (auth : AuthState) (times times' : Times) :
    (handler.records crates config message_field head cookies now auth times).map timeless =
      (handler.records crates config message_field head cookies now auth times').map timeless := by
  let log := (RequestLog.new head message_field times.started_at times.opened).1
  unfold Handler.records
  split
  · exact congrArg₂ (fun first last => [first, last]) (emit_json_timeless log times'.started_at _ _ _ _ _ _)
      (emit_json_timeless log times'.started_at _ _ _ _ _ _)
  · rfl

end

/-! ### Where a browser puts the code -/

/-- The `Referer` of a request: none, an address without the code, or that of a
    page with the code in it, which like every address is visible ASCII. -/
inductive Referer
  | absent
  | elsewhere (value : List UInt8)
  | page (before after : List Char) (visible : ∀ c ∈ before ++ after, 33 ≤ c.toNat ∧ c.toNat < 127)

def Referer.carries : Referer → Bool
  | .page _ _ _ => true
  | _ => false

def Referer.value (code : Token 32) : Referer → Option (List UInt8)
  | .absent => none
  | .elsewhere value => some value
  | .page before after _ => some (bytes (String.ofList (before ++ code.chars ++ after)))

/-- A request that has reached one of the handlers, past the origin policy of
    topcoat and the decoding of its form, up to the code. -/
structure Visit where
  handler : Handler
  method : String
  path : String
  /-- The code is a parameter of the query. -/
  coded : Bool
  referer : Referer
  headers : List (String × List UInt8)
  cookies : String → Option String
  others : headers.lookup "referer" = none

/-- The request with the code. -/
def Visit.head (visit : Visit) (code : Token 32) : Head where
  method := visit.method
  path := visit.path
  query := if visit.coded then some ("code=" ++ code.text) else none
  headers := match visit.referer.value code with
    | some value => ("referer", value) :: visit.headers
    | none => visit.headers

def Visit.records (crates : Crates) (config : AdminConfig) (message_field : String) (visit : Visit) (now : Instant)
    (auth : AuthState) (code : Token 32) (times : Times) : List Record :=
  visit.handler.records crates config message_field (visit.head code) visit.cookies now auth times

/-- The request is logged, and its `Referer` is the address of the page with the code. -/
def Visit.Tells (crates : Crates) (config : AdminConfig) (visit : Visit) (now : Instant) (auth : AuthState) : Prop :=
  visit.referer.carries = true ∧
    visit.handler.logs crates config ⟨visit.method, visit.path, none, visit.headers⟩ visit.cookies now auth = true

section
variable {crates : Crates} {config : AdminConfig} {visit : Visit} {now : Instant} {auth : AuthState}

/-- The headers of the request, with the `Referer` and without it. -/
theorem header_head (visit : Visit) (code : Token 32) (name : String) : (visit.head code).header name =
    if name = "referer" then visit.referer.value code else visit.headers.lookup name := by
  unfold Visit.head Head.header
  cases visit.referer.value code with
  | none =>
    by_cases named : name = "referer"
    · rw [if_pos named, named]
      exact visit.others
    · rw [if_neg named]
  | some value =>
    by_cases named : name = "referer"
    · simp [named]
    · rw [if_neg named]
      exact (lookup_cons _ _ _).trans (if_neg named)

/-- Without the code in the `Referer` no two codes can be told apart. -/
theorem agree_codes (silent : visit.referer.carries = false) (code code' : Token 32) :
    Agree (visit.head code) (visit.head code') := by
  have same : visit.referer.value code = visit.referer.value code' := by
    cases referer : visit.referer with
    | page before after visible =>
      rw [referer] at silent
      cases silent
    | _ => rfl
  exact ⟨rfl, rfl, fun name => by rw [header_head, header_head, same]⟩

/-- The guards take no notice of the code. -/
theorem logs_head (visit : Visit) (code : Token 32) (now : Instant) (auth : AuthState) :
    visit.handler.logs crates config (visit.head code) visit.cookies now auth =
      visit.handler.logs crates config ⟨visit.method, visit.path, none, visit.headers⟩ visit.cookies now auth := by
  refine logs_eq ?_ ?_ visit.handler visit.cookies now auth
  · exact (header_head visit code "origin").trans (if_neg (by decide))
  · exact (header_head visit code "sec-fetch-site").trans (if_neg (by decide))

/-- Visible ASCII is read as it stands. -/
theorem to_str_visible {text : List Char} (visible : ∀ c ∈ text, 33 ≤ c.toNat ∧ c.toNat < 127) :
    to_str (bytes (String.ofList text)) = some (String.ofList text) := by
  have byte : ∀ c ∈ text, c.toUInt8.toNat = c.toNat := by
    intro c member
    have range := visible c member
    show c.toNat % 256 = c.toNat
    omega
  have ascii : ∀ c ∈ text, c.toNat < 128 := fun c member => by have range := visible c member; omega
  have readable : (text.map Char.toUInt8).all (fun byte => (32 ≤ byte && byte < 127) || byte == 9) = true := by
    rw [List.all_map, List.all_eq_true]
    intro c member
    have range := visible c member
    have least : (32 : UInt8) ≤ c.toUInt8 := by
      rw [UInt8.le_iff_toNat_le, byte c member]
      exact Nat.le_of_succ_le range.1
    have most : c.toUInt8 < (127 : UInt8) := by
      rw [UInt8.lt_iff_toNat_lt, byte c member]
      exact range.2
    simp [least, most]
  unfold to_str
  rw [bytes_ascii ascii, if_pos readable, List.map_map]
  congr 2
  refine (List.map_congr_left fun c member => ?_).trans (List.map_id _)
  simp [byte c member]

theorem header_value_visible {head : Head} {name : String} {text : List Char}
    (given : head.header name = some (bytes (String.ofList text))) (nonempty : text ≠ [])
    (visible : ∀ c ∈ text, 33 ≤ c.toNat ∧ c.toNat < 127) : header_value head name = String.ofList text := by
  have spaceless : ∀ c ∈ (String.ofList text).toList, is_whitespace c = false := by
    intro c member
    rw [String.toList_ofList] at member
    have range := visible c member
    simp only [is_whitespace, decide_eq_false_iff_not]
    omega
  have present : (!(String.ofList text).isEmpty) = true := by simpa using nonempty
  rw [header_value, given, Option.bind_some, to_str_visible visible, Option.map_some, trim_eq_self spaceless]
  have kept : (some (String.ofList text)).filter (fun value => !value.isEmpty) = some (String.ofList text) :=
    Option.filter_some_pos present
  rw [kept]
  rfl

theorem alphanumeric_visible {c : Char} (alphanumeric : c.isAlphanum = true) : 33 ≤ c.toNat ∧ c.toNat < 127 := by
  simp only [Char.isAlphanum, Char.isAlpha, Char.isUpper, Char.isLower, Char.isDigit, Bool.or_eq_true,
    Bool.and_eq_true, decide_eq_true_eq, ge_iff_le, UInt32.le_iff_toNat_le] at alphanumeric
  have value : c.toNat = c.val.toNat := rfl
  simp at alphanumeric
  omega

/-- The two records of a logged request. -/
theorem records_logged
    (logged : visit.handler.logs crates config ⟨visit.method, visit.path, none, visit.headers⟩ visit.cookies now auth = true)
    (message_field : String) (code : Token 32) (times : Times) :
    visit.records crates config message_field now auth code times =
      [(RequestLog.new (visit.head code) message_field times.started_at times.opened).2,
        (RequestLog.new (visit.head code) message_field times.started_at times.opened).1.drop times.dropped_at
          times.closed] := by
  unfold Visit.records Handler.records
  rw [logs_head, if_pos logged]

/-- The first record of a logged request from such a page has its address. -/
theorem records_page {before after : List Char} {visible : ∀ c ∈ before ++ after, 33 ≤ c.toNat ∧ c.toNat < 127}
    (from_page : visit.referer = .page before after visible)
    (logged : visit.handler.logs crates config ⟨visit.method, visit.path, none, visit.headers⟩ visit.cookies now auth = true)
    (message_field : String) (code : Token 32) (times : Times) :
    ∃ record last, visit.records crates config message_field now auth code times = [record, last] ∧
      record.get "referer" = some (.text (String.ofList (before ++ code.chars ++ after))) := by
  have given : (visit.head code).header "referer" = some (bytes (String.ofList (before ++ code.chars ++ after))) := by
    rw [header_head, if_pos rfl, from_page]
    rfl
  have nonempty : before ++ code.chars ++ after ≠ [] := by
    intro empty
    have drawn := code.drawn
    simp_all
  have readable : ∀ c ∈ before ++ code.chars ++ after, 33 ≤ c.toNat ∧ c.toNat < 127 := by
    intro c member
    simp only [List.mem_append] at member
    rcases member with (front | drawn) | back
    · exact visible c (List.mem_append_left _ front)
    · exact alphanumeric_visible (code.alphanumeric c drawn)
    · exact visible c (List.mem_append_right _ back)
  have told : (RequestLog.new (visit.head code) message_field times.started_at times.opened).2.get "referer" =
      some (.text (header_value (visit.head code) "referer")) :=
    emit_json_referer (RequestLog.new (visit.head code) message_field times.started_at times.opened).1 "info"
      "request start" none times.opened
  rw [header_value_visible given nonempty readable] at told
  exact ⟨_, _, records_logged logged message_field code times, told⟩

theorem timeless_referer (record : Record) : (timeless record).get "referer" = record.get "referer" := by
  rw [timeless, get_without, get_without, if_neg (by decide), if_neg (by decide)]

/-- Two codes on such a page leave records that differ. -/
theorem records_differ {before after : List Char} {visible : ∀ c ∈ before ++ after, 33 ≤ c.toNat ∧ c.toNat < 127}
    (from_page : visit.referer = .page before after visible)
    (logged : visit.handler.logs crates config ⟨visit.method, visit.path, none, visit.headers⟩ visit.cookies now auth = true)
    (message_field : String) {code code' : Token 32} (differ : code.text ≠ code'.text) (times : Times) :
    (visit.records crates config message_field now auth code times).map timeless ≠
      (visit.records crates config message_field now auth code' times).map timeless := by
  obtain ⟨record, last, records, told⟩ := records_page from_page logged message_field code times
  obtain ⟨record', last', records', told'⟩ := records_page from_page logged message_field code' times
  intro same
  rw [records, records'] at same
  have first : timeless record = timeless record' := (List.cons.inj same).1
  have address : before ++ code.chars ++ after = before ++ code'.chars ++ after := by
    rw [← timeless_referer, first, timeless_referer, told'] at told
    exact String.ofList_injective (Value.text.inj (Option.some.inj told)).symm
  have chars : code.chars = code'.chars := List.append_cancel_left (List.append_cancel_right address)
  exact differ (congrArg String.ofList chars)

/-- What a reader makes of a log who knows the address up to its code. -/
def readCode (before : List Char) (records : List Record) : String :=
  match records with
  | record :: _ =>
    match record.get "referer" with
    | some (.text value) => String.ofList ((value.toList.drop before.length).take 32)
    | _ => ""
  | [] => ""

theorem readCode_records {before after : List Char} {visible : ∀ c ∈ before ++ after, 33 ≤ c.toNat ∧ c.toNat < 127}
    (from_page : visit.referer = .page before after visible)
    (logged : visit.handler.logs crates config ⟨visit.method, visit.path, none, visit.headers⟩ visit.cookies now auth = true)
    (message_field : String) (code : Token 32) (times : Times) :
    readCode before (visit.records crates config message_field now auth code times) = code.text := by
  obtain ⟨record, last, records, told⟩ := records_page from_page logged message_field code times
  rw [records, readCode, told]
  simp [Token.text, code.drawn]

theorem records_silent (silent : ¬ visit.Tells crates config now auth) (message_field : String) (code code' : Token 32)
    (times : Times) : visit.records crates config message_field now auth code times =
      visit.records crates config message_field now auth code' times := by
  by_cases carries : visit.referer.carries = true
  · have unlogged (code : Token 32) : visit.handler.logs crates config (visit.head code) visit.cookies now auth = false := by
      rw [logs_head]
      by_contra logged
      exact silent ⟨carries, by simpa using logged⟩
    simp [Visit.records, Handler.records, unlogged]
  · exact (agree_codes (by simpa using carries) code code').records message_field visit.handler visit.cookies now auth times

end

/-- A code of one character only. -/
def monotone (c : Char) (alphanumeric : c.isAlphanum = true) : Token 32 where
  chars := List.replicate 32 c
  drawn := List.length_replicate
  alphanumeric := fun c' member => by rw [List.eq_of_mem_replicate member, alphanumeric]

def idle : Times := ⟨0, ⟨⟨0, by decide⟩, by decide⟩, 0, ⟨⟨0, by decide⟩, by decide⟩⟩

theorem codes_differ : (monotone 'a' rfl).text ≠ (monotone 'b' rfl).text := by decide

/-- For every request to any of the handlers: no two codes show in the records,
    the fields of the clocks apart, if and only if the request is not logged or
    its `Referer` is not the address of a page with the code in it; and otherwise
    the code can be read from the log. -/
theorem request_log_iff (crates : Crates) (config : AdminConfig) (message_field : String) (visit : Visit) (now : Instant)
    (auth : AuthState) :
    ((∀ (code code' : Token 32) (times times' : Times),
        (visit.records crates config message_field now auth code times).map timeless =
          (visit.records crates config message_field now auth code' times').map timeless) ↔
      ¬ visit.Tells crates config now auth) ∧
    ((∃ read : List Record → String, ∀ (code : Token 32) (times : Times),
        read (visit.records crates config message_field now auth code times) = code.text) ↔
      visit.Tells crates config now auth) := by
  have silent_same : ¬ visit.Tells crates config now auth → ∀ (code code' : Token 32) (times times' : Times),
      (visit.records crates config message_field now auth code times).map timeless =
        (visit.records crates config message_field now auth code' times').map timeless := by
    intro silent code code' times times'
    rw [records_silent silent message_field code code']
    exact records_timeless ..
  refine ⟨⟨?_, silent_same⟩, ?_, ?_⟩
  · rintro same ⟨carries, logged⟩
    cases from_page : visit.referer with
    | page before after visible => exact records_differ from_page logged message_field codes_differ idle (same _ _ _ _)
    | _ =>
      rw [from_page] at carries
      cases carries
  · rintro ⟨read, reads⟩
    by_contra silent
    have first := reads (monotone 'a' rfl) idle
    rw [records_silent silent message_field (monotone 'a' rfl) (monotone 'b' rfl), reads] at first
    exact codes_differ first.symm
  · rintro ⟨carries, logged⟩
    cases from_page : visit.referer with
    | page before after visible => exact ⟨readCode before, readCode_records from_page logged message_field⟩
    | _ =>
      rw [from_page] at carries
      cases carries

theorem invitePage_visible : ∀ c ∈ "https://invite.example.com/invite?code=".toList ++ [], 33 ≤ c.toNat ∧ c.toNat < 127 := by
  intro c member
  have all : ("https://invite.example.com/invite?code=".toList ++ []).all (fun c => 33 ≤ c.toNat && c.toNat < 127) = true := by
    decide
  simpa using List.all_eq_true.mp all c member

/-- The form on the page of an invitation, as a browser sends it. -/
def formPost : Visit where
  handler := .submit_invite
  method := "POST"
  path := "/invite/submit"
  coded := true
  referer := .page "https://invite.example.com/invite?code=".toList [] invitePage_visible
  headers := [("user-agent", bytes "Mozilla/5.0")]
  cookies := fun _ => none
  others := by decide

/-- Its code is in the log. -/
theorem request_log_tells : ¬ ∀ (crates : Crates) (config : AdminConfig) (message_field : String) (visit : Visit)
    (now : Instant) (auth : AuthState) (code code' : Token 32) (times times' : Times),
    (visit.records crates config message_field now auth code times).map timeless =
      (visit.records crates config message_field now auth code' times').map timeless := by
  intro same
  let crates : Crates := {
    sha256 := fun _ => Vector.replicate 32 0
    parse_datetime := fun _ => none
    groups_to_json := fun _ => "[]"
    groups_from_json := fun _ => none
    verify_password := fun _ _ => false
    is_uppercase := Char.isUpper
    is_lowercase := Char.isLower
    is_numeric := Char.isDigit
    is_alphanumeric := Char.isAlphanum }
  let config : AdminConfig := ⟨⟨"admin", ""⟩, "https://invite.example.com"⟩
  have differ : (formPost.records crates config "msg" 0 (.initial 0) (monotone 'a' rfl) idle).map timeless ≠
      (formPost.records crates config "msg" 0 (.initial 0) (monotone 'b' rfl) idle).map timeless :=
    records_differ rfl rfl "msg" codes_differ idle
  exact differ (same crates config "msg" formPost 0 (.initial 0) _ _ idle idle)

end InviteSystem.LoggedCodes
