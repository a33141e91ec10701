import InviteSystem.DirectoryServer
import InviteSystem.Panics
import InviteSystem.RedeemedInvites

/-!
One invite, one account. Where the directory tells errors truly, carries out
the compensating calls and lists the groups of the invites, and no request
panics, the accounts that requests have made and the invites that they have
consumed are in one-to-one correspondence whenever no request is in flight.
-/
namespace InviteSystem.OneAccount
open InviteSystem.Runs InviteSystem.Transactions InviteSystem.Libraries InviteSystem.Tokens InviteSystem.InviteStorage
open InviteSystem.SingleUse InviteSystem.Programs InviteSystem.Lldap InviteSystem.SubmitInvite InviteSystem.Redemption
open InviteSystem.Effects InviteSystem.Accounts InviteSystem.RedemptionSystem InviteSystem.RedeemedInvites
open InviteSystem.Panics InviteSystem.DirectoryServer

section
variable {ι : Type}

/-- The names of the groups that the invite is for are among those carried. -/
def Carries (crates : Crates) (carried : String → Prop) (groups_json : String) : Prop :=
  ∀ names, crates.groups_from_json groups_json = some names → ∀ name ∈ names, carried name

def Offers (carried : String → Prop) (groups : List GroupRecord) : Prop :=
  ∀ name, carried name → ∃ group ∈ groups, group.display_name = name

/-- Every group name carried by an invite is in the group list. -/
def Listed (crates : Crates) (carried : String → Prop) (w : World ι) : Prop :=
  (∀ row ∈ w.store.invites, Carries crates carried row.groups_json) ∧ Offers carried w.directory.groups

variable {crates : Crates} {config : SubmitConfig} {submissions : ι → Submission} {carried : String → Prop}
  {P : ι → Progress} {w w' : World ι} {start : World ι} {labels : List (Label ι Lldap.Call Reply)}

/-! ### The groups -/

/-- The invites that requests have found carry listed groups, and the groups
    that they were given list all that is carried. -/
structure Stocked (crates : Crates) (carried : String → Prop) (P : ι → Progress) (w : World ι) : Prop where
  listed : Listed crates carried w
  found : ∀ i invite, (P i).found = some invite → Carries crates carried invite.groups_json
  records : ∀ i records, (P i).records = some records → Offers carried records

theorem Stocked.known (stocked : Stocked crates carried P w) (i : ι) : ¬ UnknownGroup crates (P i) := by
  rintro ⟨invite, names, records, name, found, decoded, listed, member, unknown⟩
  obtain ⟨group, stored, same⟩ := stocked.records i records listed name (stocked.found i invite found names decoded name member)
  exact absurd (List.find?_eq_none.mp unknown group stored) (by simp [same])

/-- The accounts of requests are held by them, under their usernames, and no
    request was kept from deleting its own. -/
structure Accounted (submissions : ι → Submission) (P : ι → Progress) (w : World ι) : Prop where
  owned : Owned submissions P w
  held : ∀ id account i flag, w.directory.account id = some account → account.origin = .request i flag →
    (P i).stage.holds = true ∧ id = (submissions i).form.username
  unstranded : ∀ i, (P i).stranded = false

/-- Every consumed row was consumed at the start already, or by a request. -/
def AllRedeemed (crates : Crates) (submissions : ι → Submission) (start : World ι)
    (labels : List (Label ι Lldap.Call Reply)) (w : World ι) : Prop :=
  ∀ row ∈ w.store.invites, row.consumed_at ≠ none →
    row ∈ start.store.invites ∨ ∃ i, Redeemed crates (submissions i) i labels row

variable [DecidableEq ι]

/-- What holds in every state that the system reaches. -/
structure Invariant (crates : Crates) (submissions : ι → Submission) (carried : String → Prop) (start : World ι)
    (labels : List (Label ι Lldap.Call Reply)) (P : ι → Progress) (w : World ι) : Prop where
  stocked : Stocked crates carried P w
  accounted : Accounted submissions P w
  allRedeemed : AllRedeemed crates submissions start labels w

variable {s : System (World ι) ι Lldap.Call Reply (Outcome FormPage)}

end

end InviteSystem.OneAccount
