import InviteSystem.UniquenessChecks

/-!
The names that are validated and the names that are used. The validators judge
trimmed copies and every call of the request takes the text as submitted, so
that the two agree exactly where there is nothing to trim.
-/
namespace InviteSystem.NamesUsed
open InviteSystem.Text InviteSystem.Libraries InviteSystem.Programs InviteSystem.Lldap InviteSystem.Validation
open InviteSystem.SubmitInvite InviteSystem.Redemption InviteSystem.DirectoryServer InviteSystem.Passages
open InviteSystem.UniquenessChecks

/-- 3 to 32 ASCII letters, digits, dots, hyphens and underscores, a letter first. -/
structure PlainUsername (username : String) : Prop where
  least : 3 ≤ username.toList.length
  most : username.toList.length ≤ 32
  letter : username.toList.head?.any Char.isAlpha = true
  plain : username.toList.all usernameChar = true

def Spaceless (text : String) : Prop := ∀ c ∈ text.toList, is_whitespace c = false

/-- The names in a call are such as the validators describe. -/
def Sound (config : LldapConfig) : Lldap.Call → Prop
  | .post_graphql _ _ (.LookupUsers field value) =>
    (field = "id" → PlainUsername value) ∧ (field = "email" → Spaceless value)
  | .post_graphql _ _ (.CreateUser user) => PlainUsername user.id ∧ Spaceless user.email
  | .post_graphql _ _ (.DeleteUser id) => PlainUsername id
  | .post_graphql _ _ (.AddUserToGroup user _) => PlainUsername user
  | .password_modify user_id _ => ∃ username, PlainUsername username ∧ user_id = user_dn config username
  | .consume_invite _ _ consumed_by => PlainUsername consumed_by
  | _ => True

/-- Two calls create the same account, or look up the same value of a field. -/
def Agree : Lldap.Call → Lldap.Call → Prop
  | .post_graphql _ _ (.CreateUser user), .post_graphql _ _ (.CreateUser user') => user = user'
  | .post_graphql _ _ (.LookupUsers field value), .post_graphql _ _ (.LookupUsers field' value') =>
    field = field' → value = value'
  | _, _ => True

/-- Two submissions that differ only by white space around their usernames and emails. -/
structure Alike (submission submission' : Submission) : Prop where
  code : submission.code = submission'.code
  username : trim submission.form.username = trim submission'.form.username
  email : trim submission.form.email = trim submission'.form.email
  first_name : submission.form.first_name = submission'.form.first_name
  last_name : submission.form.last_name = submission'.form.last_name
  password : submission.form.password = submission'.form.password

theorem Alike.form_eq {submission submission' : Submission} (alike : Alike submission submission')
    (username : submission.form.username = submission'.form.username)
    (email : submission.form.email = submission'.form.email) : submission.form = submission'.form := by
  obtain ⟨_, _, _, first_name, last_name, password⟩ := alike
  obtain ⟨_, ⟨_, _, _, _, _⟩⟩ := submission
  obtain ⟨_, ⟨_, _, _, _, _⟩⟩ := submission'
  dsimp only at username email first_name last_name password
  rw [username, email, first_name, last_name, password]

/-- Nothing of the username and the email is trimmed. -/
def Trimmed (form : SubmitInviteForm) : Prop := trim form.username = form.username ∧ trim form.email = form.email

instance (form : SubmitInviteForm) : Decidable (Trimmed form) := inferInstanceAs (Decidable (_ ∧ _))

theorem PlainUsername.spaceless {username : String} (plain : PlainUsername username) : Spaceless username :=
  fun c member => usernameChar_visible (List.all_eq_true.mp plain.plain c member)

/-- An accepted username is plain up to the white space around it. -/
theorem plain_of_accepted {username : String} (accepted : validate_username username = .ok ()) :
    PlainUsername (trim username) := by
  obtain ⟨least, most, letter, all⟩ := validate_username_ok.mp accepted
  have ascii : ∀ c ∈ (trim username).toList, c.toNat < 128 := fun c member =>
    usernameChar_ascii (List.all_eq_true.mp all c member)
  have bytes : len (trim username) = (trim username).toList.length := by
    conv_lhs => rw [← String.ofList_toList (s := trim username)]
    exact len_ascii ascii
  exact ⟨by omega, by omega, letter, all⟩

section
variable {crates : Crates} {config : SubmitConfig} {submission : Submission} {calls : List Made} {rest : Prog (Outcome FormPage)}

/-- A request that has created an account was accepted. -/
theorem created_accepted (reached : Reaches (submit_invite crates config submission) calls rest)
    (creation : ∃ call ∈ calls, isCreate call.1 = true) : validate_username submission.form.username = .ok () ∧
      validate_email submission.form.email = .ok () := by
  obtain ⟨⟨c, reply⟩, made, create⟩ := creation
  obtain ⟨before, next, after, _, prior⟩ := reached.member made
  have touches : Touches c = true := by
    cases c with
    | post_graphql url token operation => cases operation <;> first | rfl | cases create
    | _ => cases create
  obtain ⟨passage, _⟩ := reaches_touch touches prior
  obtain ⟨username, email, _⟩ := validation_errors_eq_nil.mp passage.valid
  exact ⟨username, email⟩

/-- The account it has created is the one that was submitted. -/
theorem created_user (reached : Reaches (submit_invite crates config submission) calls rest)
    (creation : ∃ call ∈ calls, isCreate call.1 = true) : ∃ url token reply,
      (⟨.post_graphql url token (.CreateUser (SubmitInviteForm.user submission.form)), reply⟩ : Made) ∈ calls := by
  have aimed := (only_reaches reached (only_submit_invite crates config submission)).1
  obtain ⟨⟨c, reply⟩, made, create⟩ := creation
  cases c with
  | post_graphql url token operation =>
    cases operation with
    | CreateUser user =>
      have same : user = SubmitInviteForm.user submission.form := aimed _ made
      subst same
      exact ⟨url, token, reply, made⟩
    | _ => cases create
  | _ => cases create

theorem sound_of_aimed {form : SubmitInviteForm} {c : Lldap.Call} (aimed : Aimed config.ldap form c)
    (username : PlainUsername form.username) (email : Spaceless form.email) : Sound config.ldap c := by
  cases c with
  | post_graphql url token operation =>
    cases operation with
    | LookupUsers field value =>
      rcases aimed with ⟨rfl, rfl⟩ | ⟨rfl, rfl⟩
      · exact ⟨fun _ => username, fun other => absurd other (by decide)⟩
      · exact ⟨fun other => absurd other (by decide), fun _ => email⟩
    | CreateUser user =>
      obtain rfl : user = SubmitInviteForm.user form := aimed
      exact ⟨username, email⟩
    | DeleteUser id =>
      obtain rfl : id = form.username := aimed
      exact username
    | AddUserToGroup user group =>
      obtain rfl : user = form.username := aimed
      exact username
    | GetGroupList => trivial
  | password_modify user_id new_pass => exact ⟨form.username, username, aimed⟩
  | consume_invite token_hash consumed_at consumed_by =>
    obtain rfl : consumed_by = form.username := aimed
    exact username
  | _ => trivial

theorem agree_of_aimed {form : SubmitInviteForm} {c c' : Lldap.Call} (aimed : Aimed config.ldap form c)
    (aimed' : Aimed config.ldap form c') : Agree c c' := by
  unfold Agree
  split
  · exact Eq.trans aimed aimed'.symm
  · intro same
    subst same
    rcases aimed with ⟨rfl, rfl⟩ | ⟨rfl, rfl⟩
    · rcases aimed' with ⟨_, rfl⟩ | ⟨other, _⟩
      · rfl
      · exact absurd other (by decide)
    · rcases aimed' with ⟨other, _⟩ | ⟨_, rfl⟩
      · exact absurd other (by decide)
      · rfl
  · trivial

/-- A request that creates an account uses names such as the validators
    describe if and only if there is nothing to trim in its username and email.
    Two such requests that differ only by what the validators trim create the
    same account and look the same names up if and only if they do not differ. -/
theorem names_used_iff (crates : Crates) (config : SubmitConfig) (submission : Submission) {calls : List Made}
    {rest : Prog (Outcome FormPage)} (reached : Reaches (submit_invite crates config submission) calls rest)
    (creation : ∃ call ∈ calls, isCreate call.1 = true) :
    ((∀ call ∈ calls, Sound config.ldap call.1) ↔ Trimmed submission.form) ∧
    ∀ (submission' : Submission) (calls' : List Made) (rest' : Prog (Outcome FormPage)), Alike submission submission' →
      Reaches (submit_invite crates config submission') calls' rest' → (∃ call ∈ calls', isCreate call.1 = true) →
      ((∀ call ∈ calls, ∀ call' ∈ calls', Agree call.1 call'.1) ↔
        submission.form.username = submission'.form.username ∧ submission.form.email = submission'.form.email) := by
  obtain ⟨url, token, reply, made⟩ := created_user reached creation
  have aimed := (only_reaches reached (only_submit_invite crates config submission)).1
  constructor
  · constructor
    · intro sound
      obtain ⟨username, email⟩ := sound _ made
      exact ⟨trim_eq_self username.spaceless, trim_eq_self email⟩
    · rintro ⟨username, email⟩ call member
      obtain ⟨accepted, accepted'⟩ := created_accepted reached creation
      have plain := plain_of_accepted accepted
      have spaceless := validate_email_spaceless accepted'
      rw [username] at plain
      rw [email] at spaceless
      exact sound_of_aimed (aimed call member) plain fun c inside => by
        simpa using List.any_eq_false.mp spaceless c inside
  · intro submission' calls' rest' alike reached' creation'
    constructor
    · intro agree
      obtain ⟨url', token', reply', made'⟩ := created_user reached' creation'
      have same : SubmitInviteForm.user submission.form = SubmitInviteForm.user submission'.form :=
        agree _ made _ made'
      exact ⟨congrArg CreateUserInput.id same, congrArg CreateUserInput.email same⟩
    · rintro ⟨username, email⟩ call member call' member'
      have same := alike.form_eq username email
      have aimed' := (only_reaches reached' (only_submit_invite crates config submission')).1 call' member'
      rw [← same] at aimed'
      exact agree_of_aimed (aimed call member) aimed'

end

/-- The sample's request, with its account created. -/
theorem asked_created {username : String}
    (passage : Passage servedCrates servedConfig (applicant servedCode username)) :
    ∃ calls rest, Reaches (submit_invite servedCrates servedConfig (applicant servedCode username)) calls rest ∧
      ∃ call ∈ calls, isCreate call.1 = true := by
  obtain ⟨next, reached⟩ := passage.creates "token"
  exact ⟨_, _, reached.snoc (answer username), _, List.mem_append_right _ (List.mem_singleton_self _), rfl⟩

theorem names_used_sample : ∃ calls rest,
    Reaches (submit_invite servedCrates servedConfig (applicant servedCode "bob")) calls rest ∧
    (∃ call ∈ calls, isCreate call.1 = true) ∧ ∀ call ∈ calls, Sound servedConfig.ldap call.1 := by
  obtain ⟨calls, rest, reached, creation⟩ := asked_created
    (asked "bob" [entry (.ok "token"), nobody "id" "bob"] ⟨.ok false, .call (.call .here), rfl⟩ (by decide))
  have trimmed : Trimmed (applicant servedCode "bob").form := by decide
  exact ⟨calls, rest, reached, creation,
    (names_used_iff servedCrates servedConfig (applicant servedCode "bob") reached creation).1.mpr trimmed⟩

/-- A username with a blank behind it is accepted, and used with the blank. -/
theorem names_used_untrimmed : ¬ ∀ (crates : Crates) (config : SubmitConfig) (submission : Submission)
    (calls : List Made) (rest : Prog (Outcome FormPage)), Reaches (submit_invite crates config submission) calls rest →
      (∃ call ∈ calls, isCreate call.1 = true) → ∀ call ∈ calls, Sound config.ldap call.1 := by
  intro used
  obtain ⟨calls, rest, reached, creation⟩ := asked_created
    (asked "bob " [entry (.ok "token"), nobody "id" "bob "] ⟨.ok false, .call (.call .here), rfl⟩ (by decide))
  obtain ⟨url, token, reply, made⟩ := created_user reached creation
  obtain ⟨username, _⟩ := used servedCrates servedConfig _ calls rest reached creation _ made
  have plain : ("bob " : String).toList.all usernameChar = true := username.plain
  exact absurd plain (by decide)

end InviteSystem.NamesUsed
