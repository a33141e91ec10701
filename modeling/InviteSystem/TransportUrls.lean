import InviteSystem.Passages
import InviteSystem.Urls

/-!
What `use_tls` makes of the configured URL. The replacement looks for one
spelling, anywhere in the text; the parser of the dialled URL has other rules.
Where a CA file is set or the URL has no host, no URL is dialled at all.
-/
namespace InviteSystem.TransportUrls
open InviteSystem.Urls InviteSystem.Programs InviteSystem.Lldap InviteSystem.Passages

section
variable {url : String} {parsed : Url}

end

/-! ### The conversation -/

section
variable {config : LldapConfig} {username password : String}

end

/-! ### Two spellings -/

end InviteSystem.TransportUrls
