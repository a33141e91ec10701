import InviteSystem.OneAccount
import InviteSystem.Traces

/-!
Crashes. A life of the service ends anywhere, and what its requests were about
to do is lost; the next one begins with the directory and the store that it has
left. One invite and one account still belong together: an account without its
invite is that of a request that a crash or a panic has broken off.
-/
namespace InviteSystem.Restarts
open InviteSystem.Runs InviteSystem.Transactions InviteSystem.Libraries InviteSystem.Tokens InviteSystem.InviteStorage
open InviteSystem.SingleUse InviteSystem.Programs InviteSystem.Traces InviteSystem.Lldap InviteSystem.SubmitInvite
open InviteSystem.Redemption InviteSystem.Effects InviteSystem.Accounts InviteSystem.RedemptionSystem InviteSystem.RedeemedInvites
open InviteSystem.Panics InviteSystem.DirectoryServer InviteSystem.OneAccount

section
variable {ι : Type} (past : ι → Bool)

/-! ### The directory as a new life sees it -/

/-- The requests of the past are others. -/
def originSince : Origin ι → Origin ι
  | .outside => .outside
  | .request i reported => if past i then .outside else .request i reported

def accountSince (account : Account ι) : Account ι := { account with origin := originSince past account.origin }

def directorySince (directory : Directory ι) : Directory ι where
  accounts := directory.accounts.map (accountSince past)
  groups := directory.groups
  idsUnique := by
    rw [List.map_map]
    exact directory.idsUnique

def worldSince (w : World ι) : World ι := { w with directory := directorySince past w.directory }

variable {past}

@[simp] theorem account_since (directory : Directory ι) (id : String) :
    (directorySince past directory).account id = (directory.account id).map (accountSince past) := by
  simp only [directorySince, Directory.account, List.find?_map]
  rfl

variable {w w' : World ι} {i : ι}

variable [DecidableEq ι] {crates : Crates} {config : SubmitConfig} {submissions : ι → Submission}
  {carried : String → Prop} {labels : List (Label ι Lldap.Call Reply)} {s : System (World ι) ι Lldap.Call Reply (Outcome FormPage)}

/-- The accounts that a life finds are those of others and of the past. -/
def Known (past : ι → Bool) (w : World ι) : Prop :=
  ∀ id account i flag, w.directory.account id = some account → account.origin = .request i flag → past i = true

omit [DecidableEq ι] in
theorem Known.since (known : Known past w) (id : String) (account : Account ι)
    (present : (worldSince past w).directory.account id = some account) : account.origin = .outside := by
  rw [worldSince, account_since, Option.map_eq_some_iff] at present
  obtain ⟨account, present, rfl⟩ := present
  cases origin : account.origin with
  | outside => simp [accountSince, originSince, origin]
  | request i flag => simp [accountSince, originSince, origin, known id account i flag present origin]

/-- What a life did, and where it was when it ended. -/
structure Life (ι : Type) where
  labels : List (Label ι Lldap.Call Reply)
  ended : System (World ι) ι Lldap.Call Reply (Outcome FormPage)

/-- All that was done in the lives. -/
def history (lives : List (Life ι)) : List (Label ι Lldap.Call Reply) := (lives.map Life.labels).flatten

omit [DecidableEq ι] in
theorem Redeemed.mono {submission : Submission} {labels' : List (Label ι Lldap.Call Reply)} {row : InviteRecord}
    (redeemed : Redeemed crates submission i labels row) (more : labels ⊆ labels') :
    Redeemed crates submission i labels' row := by
  obtain ⟨now, consumed, early, member⟩ := redeemed.consumption
  exact { redeemed with consumption := ⟨now, consumed, early, more member⟩ }

variable {start : World ι} {lives : List (Life ι)}

end

/-! ### A crash between the account and its invite -/

end InviteSystem.Restarts
