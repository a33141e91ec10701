import InviteSystem.DirectoryServer

/-!
What a request without an invitation learns of the directory. The lookups of
the username and of the email come before that of the invite, and each answers
with a page of its own.
-/
namespace InviteSystem.DirectoryPrivacy
open InviteSystem.Text InviteSystem.Chrono InviteSystem.Libraries InviteSystem.Tokens InviteSystem.InviteStorage
open InviteSystem.InviteRoutes InviteSystem.Programs InviteSystem.Lldap InviteSystem.Validation InviteSystem.SubmitInvite
open InviteSystem.Accounts InviteSystem.RedemptionSystem InviteSystem.DirectoryServer

section
variable {crates : Crates} {config : SubmitConfig} {submission : Submission}

/-- No invite under the hash of the submitted code is active. -/
def Uninvited (crates : Crates) (submission : Submission) (store : Database) (now : Reading) : Prop :=
  ∀ code invite_record, submission.code = some code →
    find_by_token_hash store (hash_token crates code) = some invite_record →
    invite_is_active crates invite_record now.time = false

/-- The request is refused for itself: its code is missing or blank, or one of
    its fields is not valid. -/
def Malformed (crates : Crates) (config : SubmitConfig) (submission : Submission) : Prop :=
  (∀ code, submission.code = some code → (trim code).isEmpty = true) ∨
    validation_errors crates config.password_policy submission.form ≠ []

/-- The page of one request against a directory, with the store and the clock. -/
def answered (crates : Crates) (config : SubmitConfig) (submission : Submission) (conditions : Conditions)
    (store : Database) (directory : Directory Unit) : Outcome FormPage :=
  ((submit_invite crates config submission).eval (serve conditions ()) ⟨directory, store⟩).1

/-- Then it is refused before any call. -/
theorem malformed_page (malformed : Malformed crates config submission) :
    ∃ page, submit_invite crates config submission = .ret page := by
  unfold submit_invite
  dsimp only
  cases given : submission.code with
  | none => exact ⟨_, rfl⟩
  | some code =>
    dsimp only
    split
    · exact ⟨_, rfl⟩
    · rename_i blank
      rw [if_pos (malformed.resolve_left fun all => blank (all code given))]
      exact ⟨_, rfl⟩

/-- What a well-formed request without an invitation is told: whether its
    username is taken, and if not, whether its email is. It changes nothing. -/
theorem uninvited_page {code : String} {form : SubmitInviteForm} {conditions : Conditions} {w : World Unit}
    (present : (trim code).isEmpty = false) (valid : validation_errors crates config.password_policy form = [])
    (uninvited : Uninvited crates ⟨some code, form⟩ w.store conditions.now) :
    (submit_invite crates config ⟨some code, form⟩).eval (serve conditions ()) w =
      (form.refused code
        [if lookup w.directory "id" form.username ≠ [] then "That username is already in use."
          else if lookup w.directory "email" form.email ≠ [] then "That email address is already in use."
          else "This invitation link is invalid or has expired."], w) := by
  rw [eval_submit_invite conditions () w crates config form code present valid,
    eval_find_inactive conditions () w crates config form code fun invite_record found =>
      uninvited code invite_record rfl found]
  split
  · rfl
  · split <;> rfl

/-- A directory of one account. -/
def only (id : String) : Directory Unit := ⟨[⟨id, "", "", "", "", none, [], .outside⟩], [], List.nodup_singleton id⟩

def empty : Directory Unit := ⟨[], [], List.nodup_nil⟩

/-- A request without an invitation gets one page whatever is in the directory,
    if and only if it is refused for itself. -/
theorem same_page_iff (crates : Crates) (config : SubmitConfig) (submission : Submission) (conditions : Conditions)
    (store : Database) (uninvited : Uninvited crates submission store conditions.now) :
    (∀ first second, answered crates config submission conditions store first =
      answered crates config submission conditions store second) ↔ Malformed crates config submission := by
  constructor
  · intro same
    by_contra wellFormed
    rw [Malformed, not_or, not_not] at wellFormed
    obtain ⟨coded, valid⟩ := wellFormed
    obtain ⟨code, form⟩ := submission
    cases code with
    | none => exact coded (by rintro code ⟨⟩)
    | some code =>
      have present : (trim code).isEmpty = false := by
        by_contra blank
        refine coded ?_
        rintro _ ⟨⟩
        simpa using blank
      have differ := same (only form.username) empty
      rw [answered, answered, uninvited_page (w := ⟨only form.username, store⟩) present valid uninvited,
        uninvited_page (w := ⟨empty, store⟩) present valid uninvited] at differ
      have messages := congrArg FormPage.errors (Outcome.returned.inj differ)
      simp [lookup, only, empty] at messages
  · intro malformed first second
    obtain ⟨page, refused⟩ := malformed_page malformed
    rw [answered, answered, refused]
    rfl

end

/-- A guessed code with a username that is too short tells nothing. -/
theorem same_page_iff_sample :
    answered servedCrates servedConfig (applicant "guess" "b") (servedConditions true) servedStore (only "b") =
      answered servedCrates servedConfig (applicant "guess" "b") (servedConditions true) servedStore empty := by
  have uninvited : Uninvited servedCrates (applicant "guess" "b") servedStore (servedConditions true).now := by
    rintro code invite_record given found
    cases given
    cases found
  have malformed : Malformed servedCrates servedConfig (applicant "guess" "b") := .inr (by decide)
  exact (same_page_iff servedCrates servedConfig (applicant "guess" "b") (servedConditions true) servedStore
    uninvited).mpr malformed (only "b") empty

/-- A guessed code tells whether there is an account of the name. -/
theorem guess_tells : Uninvited servedCrates (applicant "guess" "bob") servedStore (servedConditions true).now ∧
    answered servedCrates servedConfig (applicant "guess" "bob") (servedConditions true) servedStore (only "bob") =
      (applicant "guess" "bob").form.refused "guess" ["That username is already in use."] ∧
    answered servedCrates servedConfig (applicant "guess" "bob") (servedConditions true) servedStore empty =
      (applicant "guess" "bob").form.refused "guess" ["This invitation link is invalid or has expired."] := by
  refine ⟨?_, by decide, by decide⟩
  rintro code invite_record given found
  cases given
  cases found

end InviteSystem.DirectoryPrivacy
