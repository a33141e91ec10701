import InviteSystem.Runs

/-!
Transactions of a database with one writer at a time. A transaction runs its
statements on a working copy of the committed state; a commit publishes the
copy, a rollback, an error or a dropped connection discards it. Calls that run
side by side take turns on the write lock, so that whatever their interleaving
the committed states are those of a serial run of whole calls (`serial_run`).
-/
namespace InviteSystem.Transactions
open InviteSystem.Runs
universe u v w

/-- The body of a transaction. A statement changes the working copy or reports
    an error (`none`); what comes after it may depend on the copy it left.
    `fail` is an error of the caller, which drops the transaction. -/
inductive Transaction (σ : Type u) (α : Type v)
  | commit (result : α)
  | rollback (result : α)
  | fail
  | statement (exec : σ → Option σ) (next : σ → Transaction σ α)

section
variable {σ : Type u} {α : Type v} {ι : Type w}

/-- A statement that only reads. -/
def Transaction.query {β : Type u} (read : σ → β) (next : β → Transaction σ α) : Transaction σ α :=
  .statement some (fun working => next (read working))

/-- A query that must find a row: the caller fails on an empty answer. -/
def Transaction.fetchOne {β : Type u} (read : σ → Option β) (next : β → Transaction σ α) : Transaction σ α :=
  .query read (fun row => match row with
    | some row => next row
    | none => .fail)

/-- The same transaction with its result wrapped. -/
def Transaction.map {β : Type v} (f : α → β) : Transaction σ α → Transaction σ β
  | .commit result => .commit (f result)
  | .rollback result => .rollback (f result)
  | .fail => .fail
  | .statement exec next => .statement exec (fun working => (next working).map f)

/-- The transaction run alone to its end: its result, `none` for an error, and
    the state that is committed afterwards. -/
def Transaction.run (original : σ) : Transaction σ α → σ → Option α × σ
  | .commit result, working => (some result, working)
  | .rollback result, _ => (some result, original)
  | .fail, _ => (none, original)
  | .statement exec next, working =>
    match exec working with
    | none => (none, original)
    | some after => (next after).run original after

@[simp] theorem run_commit (original working : σ) (result : α) :
    (Transaction.commit result).run original working = (some result, working) := rfl
@[simp] theorem run_rollback (original working : σ) (result : α) :
    (Transaction.rollback result).run original working = (some result, original) := rfl
@[simp] theorem run_fail (original working : σ) :
    (Transaction.fail : Transaction σ α).run original working = (none, original) := rfl
@[simp] theorem run_query {β : Type u} (original working : σ) (read : σ → β) (next : β → Transaction σ α) :
    (Transaction.query read next).run original working = (next (read working)).run original working := rfl
theorem run_statement (original working : σ) (exec : σ → Option σ) (next : σ → Transaction σ α) :
    (Transaction.statement exec next).run original working =
      match exec working with
      | none => (none, original)
      | some after => (next after).run original after := by
  cases ran : exec working <;> simp [Transaction.run, ran]

theorem run_map {β : Type v} (f : α → β) (transaction : Transaction σ α) (original working : σ) :
    (transaction.map f).run original working =
      ((transaction.run original working).1.map f, (transaction.run original working).2) := by
  induction transaction generalizing working with
  | commit result => rfl
  | rollback result => rfl
  | fail => rfl
  | statement exec next ih =>
    rw [Transaction.map, run_statement, run_statement]
    cases exec working with
    | none => rfl
    | some after => exact ih after after

/-- The transaction alone, where every statement and the commit may fail as
    well: a failure, wherever it comes, drops the transaction, and the working
    copy with it. -/
inductive Transaction.Ends (original : σ) : Transaction σ α → σ → Option α → σ → Prop
  | dropped {rest : Transaction σ α} {working : σ} : Ends original rest working none original
  | committed {working : σ} {result : α} : Ends original (.commit result) working (some result) working
  | rolledBack {working : σ} {result : α} : Ends original (.rollback result) working (some result) original
  | statement {working after s' : σ} {exec : σ → Option σ} {next : σ → Transaction σ α} {result : Option α}
      (ran : exec working = some after) (rest : Ends original (next after) after result s') :
      Ends original (.statement exec next) working result s'

/-- Whatever fails, the transaction leaves nothing behind or ran to its end. -/
theorem ends_cases {transaction : Transaction σ α} {original working s' : σ} {result : Option α}
    (ends : transaction.Ends original working result s') :
    (result = none ∧ s' = original) ∨
      ∃ value, result = some value ∧ transaction.run original working = (some value, s') := by
  induction ends with
  | dropped => exact .inl ⟨rfl, rfl⟩
  | committed => exact .inr ⟨_, rfl, rfl⟩
  | rolledBack => exact .inr ⟨_, rfl, rfl⟩
  | statement ran rest ih =>
    rcases ih with failed | ⟨value, answer, alone⟩
    · exact .inl failed
    · exact .inr ⟨value, answer, by rw [run_statement, ran]; exact alone⟩

/-- Without a failure it ends as it runs. -/
theorem run_ends {transaction : Transaction σ α} {original working s' : σ} {value : α}
    (ran : transaction.run original working = (some value, s')) :
    transaction.Ends original working (some value) s' := by
  induction transaction generalizing working with
  | commit result =>
    cases ran
    exact .committed
  | rollback result =>
    cases ran
    exact .rolledBack
  | fail => cases ran
  | statement exec next ih =>
    rw [run_statement] at ran
    cases executed : exec working with
    | none =>
      rw [executed] at ran
      cases ran
    | some after =>
      rw [executed] at ran
      exact .statement executed (ih after ran)

/-- A whole call as one step: it ran to its end; it failed and left nothing
    behind; or its commit took effect although it reported an error. -/
inductive Atomic (code : ι → Transaction σ α) : σ → ι × Option α → σ → Prop
  | done {s : σ} {call : ι} {result : α} (ran : ((code call).run s s).1 = some result) :
      Atomic code s (call, some result) ((code call).run s s).2
  | failed {s : σ} {call : ι} : Atomic code s (call, none) s
  | unreported {s : σ} {call : ι} {result : α} (ran : ((code call).run s s).1 = some result) :
      Atomic code s (call, none) ((code call).run s s).2

/-- The database as concurrent calls see it: the committed state, and the call
    that holds the write lock with its working copy and its remaining statements. -/
structure Server (σ : Type u) (ι : Type w) (α : Type v) where
  committed : σ
  writer : Option (ι × σ × Transaction σ α)

/-- One step of the database. A label is a call that returns, with its result. -/
inductive Step (code : ι → Transaction σ α) : Server σ ι α → Option (ι × Option α) → Server σ ι α → Prop
  /-- A waiting call takes the free write lock. -/
  | acquire {s : σ} {call : ι} : Step code ⟨s, none⟩ none ⟨s, some (call, s, code call)⟩
  /-- A call gives up before it got the lock. -/
  | refused {srv : Server σ ι α} {call : ι} : Step code srv (some (call, none)) srv
  | statement {s working after : σ} {call : ι} {exec : σ → Option σ} {next : σ → Transaction σ α}
      (ran : exec working = some after) :
      Step code ⟨s, some (call, working, .statement exec next)⟩ none ⟨s, some (call, after, next after)⟩
  /-- The statement is rejected, or the transaction is dropped at any other
      point before its commit took effect. -/
  | dropped {s working : σ} {call : ι} {rest : Transaction σ α} :
      Step code ⟨s, some (call, working, rest)⟩ (some (call, none)) ⟨s, none⟩
  | committed {s working : σ} {call : ι} {result : α} :
      Step code ⟨s, some (call, working, .commit result)⟩ (some (call, some result)) ⟨working, none⟩
  /-- The commit took effect, but the call reports an error. -/
  | unreported {s working : σ} {call : ι} {result : α} :
      Step code ⟨s, some (call, working, .commit result)⟩ (some (call, none)) ⟨working, none⟩
  | rolledBack {s working : σ} {call : ι} {result : α} :
      Step code ⟨s, some (call, working, .rollback result)⟩ (some (call, some result)) ⟨s, none⟩

/-- What is left of the writer's transaction ends as the whole of it would have
    ended on the committed state. -/
def WriterOk (code : ι → Transaction σ α) (srv : Server σ ι α) : Prop :=
  ∀ call working rest, srv.writer = some (call, working, rest) →
    rest.run srv.committed working = (code call).run srv.committed srv.committed

variable {code : ι → Transaction σ α}

theorem writerOk_idle (s : σ) : WriterOk code (⟨s, none⟩ : Server σ ι α) := by
  intro call working rest held
  cases held

theorem step_writerOk {srv srv' : Server σ ι α} {label : Option (ι × Option α)} (inv : WriterOk code srv)
    (step : Step code srv label srv') : WriterOk code srv' := by
  cases step with
  | acquire =>
    intro call working rest held
    cases held
    rfl
  | refused => exact inv
  | @statement s working after call exec next ran =>
    intro call' working' rest held
    cases held
    have whole := inv call working (.statement exec next) rfl
    rw [run_statement, ran] at whole
    exact whole
  | dropped => exact writerOk_idle _
  | committed => exact writerOk_idle _
  | unreported => exact writerOk_idle _
  | rolledBack => exact writerOk_idle _

theorem step_silent {srv srv' : Server σ ι α} (step : Step code srv none srv') : srv'.committed = srv.committed := by
  cases step <;> rfl

/-- A call that returns does so as one atomic step on the committed state. -/
theorem step_atomic {srv srv' : Server σ ι α} {label : ι × Option α} (inv : WriterOk code srv)
    (step : Step code srv (some label) srv') : Atomic code srv.committed label srv'.committed := by
  cases step with
  | refused => exact .failed
  | dropped => exact .failed
  | @committed s working call result =>
    have whole : (some result, working) = (code call).run s s := inv call working (.commit result) rfl
    have atomic : Atomic code s (call, some result) ((code call).run s s).2 := .done (by rw [← whole])
    rw [← whole] at atomic
    exact atomic
  | @unreported s working call result =>
    have whole : (some result, working) = (code call).run s s := inv call working (.commit result) rfl
    have atomic : Atomic code s (call, none) ((code call).run s s).2 :=
      .unreported (show ((code call).run s s).1 = some result by rw [← whole])
    rw [← whole] at atomic
    exact atomic
  | @rolledBack s working call result =>
    have whole : (some result, s) = (code call).run s s := inv call working (.rollback result) rfl
    have atomic : Atomic code s (call, some result) ((code call).run s s).2 := .done (by rw [← whole])
    rw [← whole] at atomic
    exact atomic

/-- Among other calls, a call that returns ends as it can end alone, or its commit
    took effect and is reported as an error. -/
theorem step_ends {srv srv' : Server σ ι α} {call : ι} {result : Option α} (inv : WriterOk code srv)
    (step : Step code srv (some (call, result)) srv') :
    (code call).Ends srv.committed srv.committed result srv'.committed ∨
      (result = none ∧ ∃ value, (code call).Ends srv.committed srv.committed (some value) srv'.committed) := by
  have atomic := step_atomic inv step
  generalize srv'.committed = after at atomic ⊢
  cases atomic with
  | done ran => exact .inl (run_ends (Prod.ext ran rfl))
  | failed => exact .inl .dropped
  | unreported ran => exact .inr ⟨rfl, _, run_ends (Prod.ext ran rfl)⟩

/-- Whatever the interleaving, the calls of a run return the results of a
    serial run, in the order in which they return, and leave its state. -/
theorem serial_run {srv srv' : Server σ ι α} {labels : List (Option (ι × Option α))} (inv : WriterOk code srv)
    (run : Run (Step code) srv labels srv') :
    Run (Atomic code) srv.committed labels.reduceOption srv'.committed :=
  run.simulate Server.committed (WriterOk code) (fun _ _ _ kept step => step_writerOk kept step)
    (fun _ _ _ step => step_silent step) (fun _ _ _ kept step => step_atomic kept step) inv

/-- The serial run stays wherever the committed states of the run stay. -/
theorem serial_run_within {P : σ → Prop} {srv srv' : Server σ ι α} {labels : List (Option (ι × Option α))}
    (inv : WriterOk code srv) (run : Run (Within (P ·.committed) (Step code)) srv labels srv') :
    Run (Within P (Atomic code)) srv.committed labels.reduceOption srv'.committed :=
  run.simulate Server.committed (WriterOk code) (fun _ _ _ kept step => step_writerOk kept step.1)
    (fun _ _ _ step => step_silent step.1) (fun _ _ _ kept step => ⟨step_atomic kept step.1, step.2⟩) inv

private theorem rest_realized {P : σ → Prop} {s after : σ} (before : P s) (ends : P after) {call : ι} {result : α}
    {reported : Option α} (reports : reported = some result ∨ reported = none) (rest : Transaction σ α) (working : σ)
    (ran : rest.run s working = (some result, after)) :
    ∃ labels, Run (Within (P ·.committed) (Step code)) ⟨s, some (call, working, rest)⟩ labels ⟨after, none⟩ ∧
      labels.reduceOption = [(call, reported)] := by
  induction rest generalizing working with
  | commit value =>
    cases ran
    rcases reports with rfl | rfl
    · exact ⟨_, .single ⟨.committed, ends⟩, rfl⟩
    · exact ⟨_, .single ⟨.unreported, ends⟩, rfl⟩
  | rollback value =>
    cases ran
    rcases reports with rfl | rfl
    · exact ⟨_, .single ⟨.rolledBack, ends⟩, rfl⟩
    · exact ⟨_, .single ⟨.dropped, ends⟩, rfl⟩
  | fail => cases ran
  | statement exec next ih =>
    rw [run_statement] at ran
    cases executed : exec working with
    | none => rw [executed] at ran; cases ran
    | some copy =>
      rw [executed] at ran
      obtain ⟨labels, run, visible⟩ := ih copy copy ran
      exact ⟨_, (Run.single ⟨.statement executed, before⟩).trans run, by simpa using visible⟩

/-- Every call that succeeds alone can run on the idle server, reported or not,
    and passes through no other committed state than the first and the last. -/
theorem call_realized {P : σ → Prop} {s after : σ} (before : P s) (ends : P after) {call : ι} {result : α}
    {reported : Option α} (reports : reported = some result ∨ reported = none)
    (ran : (code call).run s s = (some result, after)) :
    ∃ labels, Run (Within (P ·.committed) (Step code)) ⟨s, none⟩ labels ⟨after, none⟩ ∧
      labels.reduceOption = [(call, reported)] := by
  obtain ⟨labels, run, visible⟩ := rest_realized before ends reports (code call) s ran
  exact ⟨_, (Run.single ⟨.acquire, before⟩).trans run, by simpa using visible⟩

theorem atomic_realized {P : σ → Prop} {s after : σ} (before : P s) (ends : P after) {label : ι × Option α}
    (step : Atomic code s label after) :
    ∃ labels, Run (Within (P ·.committed) (Step code)) ⟨s, none⟩ labels ⟨after, none⟩ ∧
      labels.reduceOption = [label] := by
  cases step with
  | done ran => exact call_realized before ends (.inl rfl) (Prod.ext ran rfl)
  | failed => exact ⟨_, .single ⟨.refused, before⟩, rfl⟩
  | unreported ran => exact call_realized before ends (.inr rfl) (Prod.ext ran rfl)

/-- Every serial run is the run of calls that have the server for themselves. -/
theorem serial_realized {P : σ → Prop} {s after : σ} {labels : List (ι × Option α)} (before : P s)
    (run : Run (Within P (Atomic code)) s labels after) :
    ∃ labels', Run (Within (P ·.committed) (Step code)) ⟨s, none⟩ labels' ⟨after, none⟩ ∧
      labels'.reduceOption = labels := by
  induction run with
  | stay => exact ⟨[], .stay, rfl⟩
  | @next labels m after l earlier taken ih =>
    have middle : P m := by
      cases earlier with
      | stay => exact before
      | next _ last => exact last.2
    obtain ⟨first, ran, visible⟩ := ih
    obtain ⟨last, ended, lastVisible⟩ := atomic_realized middle taken.2 taken.1
    exact ⟨_, ran.trans ended, by rw [List.reduceOption_append, visible, lastVisible]⟩

end
end InviteSystem.Transactions
