import Mathlib.Data.Set.Card

/-!
Registers of single-use tickets, apart from any program. A ticket is known by
its key and redeemed by its secret; it is unused until it is redeemed, in time,
or withdrawn, and an unused or withdrawn one is swept out some time after its
end. `Does` is one operation, `Step` one that may fail, or fail to report.
-/
namespace InviteSystem.Registers

/-- What has become of a ticket. -/
inductive Life (τ α : Type)
  | unused
  | redeemed (time : τ) (holder : α)
  | withdrawn (time : τ)

structure Ticket (σ δ τ α : Type) where
  secret : σ
  content : δ
  expires : τ
  life : Life τ α

/-- Tickets by their keys. A secret belongs to one ticket. -/
@[ext] structure Register (κ σ δ τ α : Type) where
  ticket : κ → Option (Ticket σ δ τ α)
  distinct : ∀ k k' t t', ticket k = some t → ticket k' = some t' → t.secret = t'.secret → k = k'

inductive Op (κ σ δ τ α : Type)
  | issue (k : κ) (secret : σ) (content : δ) (expires : τ)
  | redeem (secret : σ) (time : τ) (holder : α)
  | withdraw (k : κ) (time : τ)
  | sweep (cutoff : τ)

inductive Answer (κ σ δ τ α : Type)
  | ticket (k : κ) (t : Ticket σ δ τ α)
  | flag (value : Bool)
  | count (n : Nat)

variable {κ σ δ τ α : Type}

namespace Register
variable (r : Register κ σ δ τ α)

def empty : Register κ σ δ τ α := ⟨fun _ => none, by rintro _ _ _ _ ⟨⟩⟩

section
variable [DecidableEq κ]

def add (k : κ) (t : Ticket σ δ τ α) (fresh : ∀ k' t', r.ticket k' = some t' → t'.secret ≠ t.secret) :
    Register κ σ δ τ α where
  ticket k' := if k' = k then some t else r.ticket k'
  distinct := by
    intro a b s s' first second same
    by_cases atA : a = k <;> by_cases atB : b = k
    · rw [atA, atB]
    · simp only [atA, if_true, Option.some.injEq] at first
      simp only [atB, if_false] at second
      exact absurd (by rw [← same, first]) (fresh b s' second)
    · simp only [atB, if_true, Option.some.injEq] at second
      simp only [atA, if_false] at first
      exact absurd (by rw [same, second]) (fresh a s first)
    · simp only [atA, if_false] at first
      simp only [atB, if_false] at second
      exact r.distinct a b s s' first second same

/-- The life of one ticket is changed. -/
def mark (k : κ) (life : Life τ α) : Register κ σ δ τ α where
  ticket k' := if k' = k then (r.ticket k').map fun t => { t with life := life } else r.ticket k'
  distinct := by
    have before : ∀ a s, (if a = k then (r.ticket a).map fun t => { t with life := life } else r.ticket a) = some s →
        ∃ t, r.ticket a = some t ∧ t.secret = s.secret := by
      intro a s held
      by_cases own : a = k
      · rw [if_pos own, Option.map_eq_some_iff] at held
        obtain ⟨t, held, rfl⟩ := held
        exact ⟨t, held, rfl⟩
      · rw [if_neg own] at held
        exact ⟨s, held, rfl⟩
    intro a b s s' first second same
    obtain ⟨t, held, own⟩ := before a s first
    obtain ⟨t', held', own'⟩ := before b s' second
    exact r.distinct a b t t' held held' (by rw [own, own', same])

end

open Classical in
noncomputable def keep (P : Ticket σ δ τ α → Prop) : Register κ σ δ τ α where
  ticket k := (r.ticket k).filter fun t => P t
  distinct := by
    intro a b s s' first second same
    rw [Option.filter_eq_some_iff] at first second
    exact r.distinct a b s s' first.1 second.1 same

end Register

section
variable [DecidableEq κ] (before : τ → τ → Prop)

/-- Past its end at the cutoff. A redeemed ticket has none. -/
def Stale (cutoff : τ) (t : Ticket σ δ τ α) : Prop :=
  match t.life with
  | .unused => before t.expires cutoff
  | .redeemed _ _ => False
  | .withdrawn time => before time cutoff

/-- What an operation does and answers; `none` is its refusal. -/
inductive Does (r : Register κ σ δ τ α) : Op κ σ δ τ α → Option (Answer κ σ δ τ α) → Register κ σ δ τ α → Prop
  | issued {k : κ} {secret : σ} {content : δ} {expires : τ} (freshKey : r.ticket k = none)
      (fresh : ∀ k' t', r.ticket k' = some t' → t'.secret ≠ secret) :
      Does r (.issue k secret content expires) (some (.ticket k ⟨secret, content, expires, .unused⟩))
        (r.add k ⟨secret, content, expires, .unused⟩ fresh)
  | taken {k : κ} {secret : σ} {content : δ} {expires : τ}
      (taken : r.ticket k ≠ none ∨ ∃ k' t', r.ticket k' = some t' ∧ t'.secret = secret) :
      Does r (.issue k secret content expires) none r
  | redeemed {k : κ} {t : Ticket σ δ τ α} {time : τ} {holder : α} (held : r.ticket k = some t) (unused : t.life = .unused)
      (inTime : before time t.expires) :
      Does r (.redeem t.secret time holder) (some (.flag true)) (r.mark k (.redeemed time holder))
  | unredeemed {secret : σ} {time : τ} {holder : α}
      (none : ∀ k t, r.ticket k = some t → t.secret = secret → ¬ (t.life = .unused ∧ before time t.expires)) :
      Does r (.redeem secret time holder) (some (.flag false)) r
  | withdrawn {k : κ} {t : Ticket σ δ τ α} {time : τ} (held : r.ticket k = some t) (unused : t.life = .unused) :
      Does r (.withdraw k time) (some (.flag true)) (r.mark k (.withdrawn time))
  | unwithdrawn {k : κ} {time : τ} (none : ∀ t, r.ticket k = some t → t.life ≠ .unused) :
      Does r (.withdraw k time) (some (.flag false)) r
  | swept {cutoff : τ} : Does r (.sweep cutoff)
      (some (.count {k | ∃ t, r.ticket k = some t ∧ Stale before cutoff t}.ncard))
      (r.keep fun t => ¬ Stale before cutoff t)

/-- An operation has one answer and one effect. -/
theorem does_functional {r r' r'' : Register κ σ δ τ α} {op : Op κ σ δ τ α} {a a' : Option (Answer κ σ δ τ α)}
    (does : Does before r op a r') (does' : Does before r op a' r'') : a = a' ∧ r' = r'' := by
  cases does with
  | issued freshKey fresh =>
    cases does' with
    | issued => exact ⟨rfl, rfl⟩
    | taken taken =>
      rcases taken with held | ⟨k', t', held, own⟩
      · exact absurd freshKey held
      · exact absurd own (fresh k' t' held)
  | taken taken =>
    cases does' with
    | issued freshKey fresh =>
      rcases taken with held | ⟨k', t', held, own⟩
      · exact absurd freshKey held
      · exact absurd own (fresh k' t' held)
    | taken => exact ⟨rfl, rfl⟩
  | @redeemed k t time holder held unused inTime =>
    generalize same : t.secret = secret at does'
    cases does' with
    | @redeemed k' t' _ _ held' =>
      rw [r.distinct k k' t t' held held' same]
      exact ⟨rfl, rfl⟩
    | unredeemed none => exact absurd ⟨unused, inTime⟩ (none k t held same)
  | unredeemed none =>
    cases does' with
    | redeemed held unused inTime => exact absurd ⟨unused, inTime⟩ (none _ _ held rfl)
    | unredeemed => exact ⟨rfl, rfl⟩
  | withdrawn held unused =>
    cases does' with
    | withdrawn => exact ⟨rfl, rfl⟩
    | unwithdrawn none => exact absurd unused (none _ held)
  | unwithdrawn none =>
    cases does' with
    | withdrawn held unused => exact absurd unused (none _ held)
    | unwithdrawn => exact ⟨rfl, rfl⟩
  | swept =>
    cases does'
    exact ⟨rfl, rfl⟩

/-- A refusal changes nothing. -/
theorem does_none {r r' : Register κ σ δ τ α} {op : Op κ σ δ τ α} (does : Does before r op none r') : r' = r := by
  cases does
  rfl

/-- An operation is done; it fails and leaves nothing behind; or it is done, and
    reported as a failure. -/
inductive Step : Register κ σ δ τ α → Op κ σ δ τ α × Option (Answer κ σ δ τ α) → Register κ σ δ τ α → Prop
  | done {r r' : Register κ σ δ τ α} {op : Op κ σ δ τ α} {a : Option (Answer κ σ δ τ α)} (does : Does before r op a r') :
      Step r (op, a) r'
  | failed {r : Register κ σ δ τ α} {op : Op κ σ δ τ α} : Step r (op, none) r
  | unreported {r r' : Register κ σ δ τ α} {op : Op κ σ δ τ α} {a : Answer κ σ δ τ α}
      (does : Does before r op (some a) r') : Step r (op, none) r'

end
end InviteSystem.Registers
