import InviteSystem.Lldap
import Mathlib.Data.List.Nodup

/-!
The directory behind the client: accounts under unique ids, as exact strings,
and groups. Each account carries who inserted it, which the directory does not
know but the results are about.
-/
namespace InviteSystem.Accounts
open InviteSystem.Lldap

section
variable {ι : Type}

/-- Who inserted an account: another party, or a request, with whether its
    `create_user` reported success. -/
inductive Origin (ι : Type)
  | outside
  | request (i : ι) (reported : Bool)
deriving DecidableEq

/-- An account, with the groups it has been added to, in order. -/
structure Account (ι : Type) where
  id : String
  email : String
  display_name : String
  first_name : String
  last_name : String
  password : Option String
  joined : List Int
  origin : Origin ι
deriving DecidableEq

/-- The account that `createUser` inserts. -/
def Account.created (user : CreateUserInput) (origin : Origin ι) : Account ι :=
  ⟨user.id, user.email, user.displayName, user.firstName, user.lastName, none, [], origin⟩

def Account.join (group : Int) (account : Account ι) : Account ι := { account with joined := account.joined ++ [group] }
def Account.setPassword (new_pass : String) (account : Account ι) : Account ι := { account with password := some new_pass }

structure Directory (ι : Type) where
  accounts : List (Account ι)
  groups : List GroupRecord
  idsUnique : (accounts.map Account.id).Nodup

def Directory.account (directory : Directory ι) (id : String) : Option (Account ι) :=
  directory.accounts.find? (fun account => account.id = id)

/-- Inserts an account whose id is not taken. -/
def Directory.insert (directory : Directory ι) (account : Account ι) : Directory ι :=
  if fresh : account.id ∉ directory.accounts.map Account.id then
    { directory with
      accounts := directory.accounts ++ [account]
      idsUnique := by
        rw [List.map_append]
        exact List.Nodup.append directory.idsUnique (List.nodup_singleton _) (by simpa using fresh) }
  else directory

def Directory.erase (directory : Directory ι) (id : String) : Directory ι :=
  { directory with
    accounts := directory.accounts.filter (fun account => account.id ≠ id)
    idsUnique := directory.idsUnique.sublist (List.filter_sublist.map _) }

/-- Changes the account of the id, if there is one, but not its id. -/
def Directory.modify (directory : Directory ι) (id : String) (change : Account ι → Account ι)
    (keepsId : ∀ account, (change account).id = account.id) : Directory ι :=
  { directory with
    accounts := directory.accounts.map (fun account => if account.id = id then change account else account)
    idsUnique := by
      have same : Account.id ∘ (fun account : Account ι => if account.id = id then change account else account) =
          Account.id := by
        funext account
        by_cases hit : account.id = id <;> simp [hit, keepsId]
      rw [List.map_map, same]
      exact directory.idsUnique }

/-- `addUserToGroup` and the password modification. -/
def Directory.join (directory : Directory ι) (id : String) (group : Int) : Directory ι :=
  directory.modify id (Account.join group) (fun _ => rfl)
def Directory.setPassword (directory : Directory ι) (id new_pass : String) : Directory ι :=
  directory.modify id (Account.setPassword new_pass) (fun _ => rfl)

variable {directory : Directory ι} {account : Account ι} {id : String}

theorem account_id (present : directory.account id = some account) : account.id = id := by
  simpa using List.find?_some present

theorem account_none : directory.account id = none ↔ id ∉ directory.accounts.map Account.id := by
  simp only [Directory.account, List.find?_eq_none, decide_eq_true_eq, List.mem_map, not_exists, not_and]

theorem account_insert_self (absent : directory.account account.id = none) :
    (directory.insert account).account account.id = some account := by
  have fresh := account_none.mp absent
  simp only [Directory.insert, dif_pos fresh, Directory.account, List.find?_append]
  rw [show directory.accounts.find? (fun other => other.id = account.id) = none from absent]
  simp

theorem account_insert_ne (other : id ≠ account.id) :
    (directory.insert account).account id = directory.account id := by
  by_cases fresh : account.id ∉ directory.accounts.map Account.id
  · simp only [Directory.insert, dif_pos fresh, Directory.account, List.find?_append]
    simp [Ne.symm other]
  · rw [Directory.insert, dif_neg fresh]

theorem account_erase_self (directory : Directory ι) (id : String) : (directory.erase id).account id = none := by
  rw [account_none]
  simp [Directory.erase]

theorem account_erase_ne {id' : String} (other : id' ≠ id) :
    (directory.erase id).account id' = directory.account id' := by
  simp only [Directory.erase, Directory.account, List.find?_filter]
  congr 1
  funext account
  by_cases hit : account.id = id' <;> simp [hit, other]

theorem account_modify (directory : Directory ι) (id id' : String) (change : Account ι → Account ι)
    (keepsId : ∀ account, (change account).id = account.id) :
    (directory.modify id change keepsId).account id' =
      if id' = id then (directory.account id').map change else directory.account id' := by
  have found : (directory.modify id change keepsId).account id' =
      (directory.account id').map (fun account => if account.id = id then change account else account) := by
    simp only [Directory.modify, Directory.account, List.find?_map]
    congr 2
    funext account
    by_cases hit : account.id = id <;> simp [hit, keepsId]
  rw [found]
  cases present : directory.account id' with
  | none => simp
  | some account =>
    by_cases hit : id' = id
    · simp [hit, account_id present]
    · simp [hit, account_id present]

theorem account_setPassword (directory : Directory ι) (id new_pass id' : String) :
    (directory.setPassword id new_pass).account id' =
      if id' = id then (directory.account id').map (Account.setPassword new_pass) else directory.account id' :=
  account_modify ..

theorem account_join (directory : Directory ι) (id : String) (group : Int) (id' : String) :
    (directory.join id group).account id' =
      if id' = id then (directory.account id').map (Account.join group) else directory.account id' :=
  account_modify ..

/-- The accounts of other ids, in their order. -/
def Directory.others (directory : Directory ι) (id : String) : List (Account ι) :=
  directory.accounts.filter (fun account => account.id ≠ id)

/-- The account but for its password. -/
def Account.blind (account : Account ι) : Account ι := { account with password := none }

theorem others_absent (absent : directory.account id = none) : directory.others id = directory.accounts := by
  refine List.filter_eq_self.mpr fun account member => ?_
  rw [account_none] at absent
  simp only [decide_eq_true_eq]
  rintro rfl
  exact absent (List.mem_map_of_mem member)

theorem others_insert (same : account.id = id) : (directory.insert account).others id = directory.others id := by
  by_cases fresh : account.id ∉ directory.accounts.map Account.id
  · simp only [Directory.others, Directory.insert, dif_pos fresh, List.filter_append]
    simp [same]
  · rw [Directory.insert, dif_neg fresh]

theorem others_erase : (directory.erase id).others id = directory.others id := by
  simp [Directory.others, Directory.erase, List.filter_filter]

theorem others_modify {id' : String} (change : Account ι → Account ι)
    (keepsId : ∀ account, (change account).id = account.id) :
    (directory.modify id' change keepsId).others id =
      (directory.others id).map (fun account => if account.id = id' then change account else account) := by
  simp only [Directory.others, Directory.modify, List.filter_map]
  congr 2
  funext account
  by_cases hit : account.id = id' <;> simp [hit, keepsId]

theorem others_modify_self (change : Account ι → Account ι) (keepsId : ∀ account, (change account).id = account.id) :
    (directory.modify id change keepsId).others id = directory.others id := by
  rw [others_modify change keepsId]
  refine (List.map_congr_left fun account member => ?_).trans (List.map_id _)
  have other : account.id ≠ id := by simpa using (List.mem_filter.mp member).2
  simp [other]

/-- A change of a password shows in the passwords only. -/
theorem others_setPassword_blind {id' new_pass : String} :
    ((directory.setPassword id' new_pass).others id).map Account.blind = (directory.others id).map Account.blind := by
  have changed : (directory.setPassword id' new_pass).others id = (directory.others id).map
      (fun account => if account.id = id' then account.setPassword new_pass else account) :=
    others_modify (Account.setPassword new_pass) fun _ => rfl
  rw [changed, List.map_map]
  refine List.map_congr_left fun account _ => ?_
  by_cases hit : account.id = id' <;> simp [hit, Account.setPassword, Account.blind]

end
end InviteSystem.Accounts
