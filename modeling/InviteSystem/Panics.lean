import InviteSystem.Passages

/-!
The replies after which a redemption panics over the password of its new
account, and that it panics after no other.
-/
namespace InviteSystem.Panics
open InviteSystem.Runs InviteSystem.Programs InviteSystem.Libraries InviteSystem.InviteStorage InviteSystem.Lldap
open InviteSystem.SubmitInvite InviteSystem.Passages

section
variable {config : LldapConfig} {fatal : Prop}

end

section
variable {crates : Crates} {config : SubmitConfig} {submission : Submission} {fatal : Prop}

end

section
variable {W ι : Type} [DecidableEq ι] {crates : Crates} {config : SubmitConfig} {submissions : ι → Submission}
  {perform : ι → W → (c : Lldap.Call) → Reply c → W → Prop}
  {outside : System W ι Lldap.Call Reply (Outcome FormPage) → W → Prop}

end
end InviteSystem.Panics
